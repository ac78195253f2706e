import ExpectFile.Diff.Run

/-!
# What the search for runs finds

The number in a row of the search is the length of the longest run of elements that count and that
ends there. So the best run known is, at any time, a longest one of those that the search has come
past, and the first of these. Equal lists share no run that is longer than the one on the diagonal
above or beside it; the first of the longest lies on the diagonal, and grows to be the whole list.

* **`runRow_row`** — one row of the search, from the row before it.
* **`Run.Leads`** — what is known of the best run in the middle of the search; `Leads.better` for
  one number, `Leads.best` for a row, `Leads.searchRun` for the whole search.
* **`common_extended`** — the run that is found, extended, names the same piece of both lists.
* **`extended_longestRun_self`** — of two equal lists it is all there is.
-/

namespace ExpectFile.Diff

variable {α : Type} [DecidableEq α] {counts : α → Bool} {old new : List α}

/-- The place behind a run in the old list. -/
def Run.oldEnd (run : Run) : Nat := run.oldStart + run.length

/-- The place behind a run in the new list. -/
def Run.newEnd (run : Run) : Nat := run.newStart + run.length

/-- A run names the same piece of both lists. -/
def Run.Common (run : Run) (old new : List α) : Prop :=
  (old.drop run.oldStart).take run.length = (new.drop run.newStart).take run.length

/-! ## Pieces of lists -/

section Pieces

variable {β : Type} {xs : List β}

/-- What stands at a place, and what behind it. -/
theorem getElem_of_drop_eq_cons {x : β} {rest : List β} {i : Nat} (h : xs.drop i = x :: rest) :
    ∃ hi : i < xs.length, xs[i] = x ∧ xs.drop (i + 1) = rest := by
  have hi : i < xs.length := by
    refine Nat.lt_of_not_le fun hge => ?_
    rw [List.drop_of_length_le hge] at h
    exact absurd h nofun
  rw [List.drop_eq_getElem_cons hi] at h
  exact ⟨hi, List.cons.inj h⟩

/-- The last elements in front of a place, read backwards, are a piece that ends there. -/
theorem reverse_take_reverse_take {start length : Nat} (h : start + length ≤ xs.length) :
    ((xs.take (start + length)).reverse.take length).reverse = (xs.drop start).take length := by
  rw [List.take_reverse, List.reverse_reverse, List.length_take, Nat.min_eq_left h,
    Nat.add_sub_cancel, List.drop_take, Nat.add_sub_cancel_left]

/-- A piece put together from three that follow each other. -/
theorem take_drop_add (start first second third : Nat) :
    (xs.drop start).take (first + second + third)
      = (xs.drop start).take first ++ (xs.drop (start + first)).take second
        ++ (xs.drop (start + first + second)).take third := by
  rw [List.take_add, List.take_add, List.drop_drop, List.drop_drop, Nat.add_assoc start]

end Pieces

/-! ## Shared starts -/

theorem sharedStart_le_left (xs ys : List α) : sharedStart xs ys ≤ xs.length := by
  fun_induction sharedStart xs ys with
  | case1 x xs ys ih => exact Nat.succ_le_succ ih
  | case2 | case3 => exact Nat.zero_le _

theorem sharedStart_le_right (xs ys : List α) : sharedStart xs ys ≤ ys.length := by
  fun_induction sharedStart xs ys with
  | case1 x xs ys ih => exact Nat.succ_le_succ ih
  | case2 | case3 => exact Nat.zero_le _

theorem sharedStart_self (xs : List α) : sharedStart xs xs = xs.length := by
  induction xs with
  | nil => rfl
  | cons x xs ih => rw [sharedStart, if_pos rfl, ih, List.length_cons]

/-- As far as lists share their start, they are the same. -/
theorem take_eq_of_le_sharedStart {xs ys : List α} {n : Nat} (h : n ≤ sharedStart xs ys) :
    xs.take n = ys.take n := by
  fun_induction sharedStart xs ys generalizing n with
  | case1 x xs ys ih =>
    cases n with
    | zero => rfl
    | succ n => rw [List.take_succ_cons, List.take_succ_cons, ih (Nat.le_of_succ_le_succ h)]
  | case2 | case3 =>
    obtain rfl : n = 0 := Nat.le_zero.mp h
    rfl

/-- How many elements that count the lists share at their start. -/
def sharedCounted (counts : α → Bool) : List α → List α → Nat
  | x :: xs, y :: ys => if counts x ∧ x = y then sharedCounted counts xs ys + 1 else 0
  | _, _ => 0

theorem sharedCounted_le_sharedStart (counts : α → Bool) (xs ys : List α) :
    sharedCounted counts xs ys ≤ sharedStart xs ys := by
  fun_induction sharedCounted counts xs ys with
  | case1 x xs y ys h ih =>
    rw [sharedStart, if_pos h.2]
    exact Nat.succ_le_succ ih
  | case2 | case3 => exact Nat.zero_le _

/-- A list shares with itself at least what it shares with another. -/
theorem sharedCounted_le_self_left (xs ys : List α) :
    sharedCounted counts xs ys ≤ sharedCounted counts xs xs := by
  fun_induction sharedCounted counts xs ys with
  | case1 x xs y ys h ih =>
    rw [sharedCounted, if_pos ⟨h.1, rfl⟩]
    exact Nat.succ_le_succ ih
  | case2 | case3 => exact Nat.zero_le _

theorem sharedCounted_le_self_right (xs ys : List α) :
    sharedCounted counts xs ys ≤ sharedCounted counts ys ys := by
  fun_induction sharedCounted counts xs ys with
  | case1 x xs y ys h ih =>
    obtain ⟨hcounts, rfl⟩ := h
    rw [sharedCounted, if_pos ⟨hcounts, rfl⟩]
    exact Nat.succ_le_succ ih
  | case2 | case3 => exact Nat.zero_le _

/-! ## The rows of the search -/

/-- The length of the longest run of elements that count and that ends in front of a place of either
list. -/
def endingAt (counts : α → Bool) (old new : List α) (oldEnd newEnd : Nat) : Nat :=
  sharedCounted counts (old.take oldEnd).reverse (new.take newEnd).reverse

@[simp] theorem endingAt_zero_left (newEnd : Nat) : endingAt counts old new 0 newEnd = 0 := by
  simp [endingAt, sharedCounted]

@[simp] theorem endingAt_zero_right (oldEnd : Nat) : endingAt counts old new oldEnd 0 = 0 := by
  unfold endingAt
  cases (old.take oldEnd).reverse <;> simp [sharedCounted]

/-- A run that ends behind two elements is one that ends in front of them, with one more element if
they are the same and count. -/
theorem endingAt_succ {i j : Nat} (hi : i < old.length) (hj : j < new.length) :
    endingAt counts old new (i + 1) (j + 1)
      = if counts old[i] ∧ old[i] = new[j] then endingAt counts old new i j + 1 else 0 := by
  unfold endingAt
  rw [List.take_succ_eq_append_getElem hi, List.take_succ_eq_append_getElem hj,
    List.reverse_append, List.reverse_append]
  rfl

/-- No run reaches farther back than to the start of a list. -/
theorem endingAt_le (counts : α → Bool) (old new : List α) (i j : Nat) :
    endingAt counts old new i j ≤ i ∧ endingAt counts old new i j ≤ j := by
  have hshared := sharedCounted_le_sharedStart counts (old.take i).reverse (new.take j).reverse
  have hleft := sharedStart_le_left (old.take i).reverse (new.take j).reverse
  have hright := sharedStart_le_right (old.take i).reverse (new.take j).reverse
  rw [List.length_reverse, List.length_take] at hleft hright
  unfold endingAt
  omega

/-- The row of the search for the first `i` elements of the old list. -/
def row (counts : α → Bool) (old new : List α) (i : Nat) : List Nat :=
  (List.range new.length).map fun j => endingAt counts old new i (j + 1)

theorem length_row (counts : α → Bool) (old new : List α) (i : Nat) :
    (row counts old new i).length = new.length := by
  simp [row]

theorem getElem_row {i j : Nat} (h : j < (row counts old new i).length) :
    (row counts old new i)[j] = endingAt counts old new i (j + 1) := by
  simp [row]

theorem row_zero (counts : α → Bool) (old new : List α) :
    row counts old new 0 = List.replicate new.length 0 := by
  refine List.ext_getElem (by rw [length_row, List.length_replicate]) fun j hj _ => ?_
  rw [getElem_row, endingAt_zero_left, List.getElem_replicate]

/-- **One row of the search.** A row holds what the one before it says it holds. -/
theorem runRow_row {i : Nat} (hi : i < old.length) :
    runRow counts new (row counts old new i) old[i] = row counts old new (i + 1) := by
  have hlength : (runRow counts new (row counts old new i) old[i]).length = new.length := by
    unfold runRow
    split
    · simp [length_row]
    · exact List.length_map _
  refine List.ext_getElem (by rw [hlength, length_row]) fun j hj hj' => ?_
  have hnew : j < new.length := by omega
  -- the number that stands before the one in question, in the row before
  have hbefore (h : j < (0 :: row counts old new i).length) :
      (0 :: row counts old new i)[j] = endingAt counts old new i j := by
    cases j with
    | zero => exact (endingAt_zero_right i).symm
    | succ j => exact getElem_row _
  rw [getElem_row, endingAt_succ hi hnew]
  unfold runRow
  by_cases hcounts : counts old[i]
  · simp only [hcounts, if_true, List.getElem_zipWith, hbefore, true_and]
  · simp [hcounts]

/-! ## The best run -/

/-- The search comes to the first pair of places before it comes to the second. -/
def Precedes (i' j' i j : Nat) : Prop := i' < i ∨ i' = i ∧ j' < j

/-- What is known of the best run when the search comes to a pair of places: it is a longest one of
those that end earlier, and the first of these. -/
structure Run.Leads (counts : α → Bool) (old new : List α) (i j : Nat) (known : Run) : Prop where
  oldEnd_le : known.oldEnd ≤ old.length
  newEnd_le : known.newEnd ≤ new.length
  length_eq : known.length = endingAt counts old new known.oldEnd known.newEnd
  earliest : ∀ i' j', j' ≤ new.length → Precedes i' j' known.oldEnd known.newEnd →
    endingAt counts old new i' j' < known.length
  longest : ∀ i' j', j' ≤ new.length → Precedes i' j' i j →
    endingAt counts old new i' j' ≤ known.length

namespace Run.Leads

variable {known : Run} {i j : Nat}

/-- Before the search the run of no elements leads. -/
theorem empty : Leads counts old new 1 1 ⟨0, 0, 0⟩ where
  oldEnd_le := Nat.zero_le _
  newEnd_le := Nat.zero_le _
  length_eq := (endingAt_zero_left 0).symm
  earliest := by
    intro i' j' _ hbefore
    simp [Precedes, Run.oldEnd, Run.newEnd] at hbefore
  longest := by
    intro i' j' _ hbefore
    obtain rfl | rfl : i' = 0 ∨ j' = 0 := by
      unfold Precedes at hbefore
      omega
    · exact Nat.le_of_eq (endingAt_zero_left j')
    · exact Nat.le_of_eq (endingAt_zero_right i')

/-- **One number of the search.** The run that ends here leads if it is longer than the best one
known; otherwise that one still leads. -/
theorem better (h : Leads counts old new (i + 1) (j + 1) known) (hi : i < old.length)
    (hj : j < new.length) {length : Nat}
    (hlength : length = endingAt counts old new (i + 1) (j + 1)) :
    Leads counts old new (i + 1) (j + 2)
      (if known.length < length then ⟨i + 1 - length, j + 1 - length, length⟩ else known) := by
  -- the places that have been passed are those from before and this one
  have hpassed : ∀ i' j', Precedes i' j' (i + 1) (j + 2) →
      Precedes i' j' (i + 1) (j + 1) ∨ (i' = i + 1 ∧ j' = j + 1) := by
    unfold Precedes
    omega
  split
  · rename_i hless
    have hwithin := endingAt_le counts old new (i + 1) (j + 1)
    rw [← hlength] at hwithin
    have hold : Run.oldEnd ⟨i + 1 - length, j + 1 - length, length⟩ = i + 1 :=
      Nat.sub_add_cancel hwithin.1
    have hnew : Run.newEnd ⟨i + 1 - length, j + 1 - length, length⟩ = j + 1 :=
      Nat.sub_add_cancel hwithin.2
    constructor
    · rwa [hold]
    · rwa [hnew]
    · rw [hold, hnew]
      exact hlength
    · intro i' j' hj' hbefore
      rw [hold, hnew] at hbefore
      exact Nat.lt_of_le_of_lt (h.longest i' j' hj' hbefore) hless
    · intro i' j' hj' hbefore
      rcases hpassed i' j' hbefore with hearlier | ⟨rfl, rfl⟩
      · exact Nat.le_trans (h.longest i' j' hj' hearlier) (Nat.le_of_lt hless)
      · exact Nat.le_of_eq hlength.symm
  · rename_i hless
    refine ⟨h.oldEnd_le, h.newEnd_le, h.length_eq, h.earliest, fun i' j' hj' hbefore => ?_⟩
    rcases hpassed i' j' hbefore with hearlier | ⟨rfl, rfl⟩
    · exact h.longest i' j' hj' hearlier
    · rw [← hlength]
      exact Nat.not_lt.mp hless

/-- **A row of the search**, from some place on. -/
theorem best {numbers : List Nat} (h : Leads counts old new (i + 1) (j + 1) known)
    (hi : i < old.length) (hnumbers : (row counts old new (i + 1)).drop j = numbers) :
    Leads counts old new (i + 1) (new.length + 1) (known.best i j numbers) := by
  induction numbers generalizing j known with
  | nil =>
    have hend : new.length ≤ j := by
      rw [← length_row counts old new (i + 1)]
      exact List.drop_eq_nil_iff.mp hnumbers
    refine ⟨h.oldEnd_le, h.newEnd_le, h.length_eq, h.earliest, fun i' j' hj' hbefore => ?_⟩
    refine h.longest i' j' hj' ?_
    unfold Precedes at hbefore ⊢
    omega
  | cons number others ih =>
    obtain ⟨hj, hnumber, hothers⟩ := getElem_of_drop_eq_cons hnumbers
    rw [getElem_row] at hnumber
    rw [length_row] at hj
    exact ih (h.better hi hj hnumber.symm) hothers

/-- Behind a row the search comes to the start of the next. -/
theorem nextRow (h : Leads counts old new i (new.length + 1) known) :
    Leads counts old new (i + 1) 1 known := by
  refine ⟨h.oldEnd_le, h.newEnd_le, h.length_eq, h.earliest, fun i' j' hj' hbefore => ?_⟩
  rcases Nat.eq_zero_or_pos j' with rfl | hpos
  · rw [endingAt_zero_right]
    exact Nat.zero_le _
  · refine h.longest i' j' hj' ?_
    unfold Precedes at hbefore ⊢
    omega

/-- **The rest of the search**, from a row on. -/
theorem searchRun {rest : List α} (h : Leads counts old new (i + 1) 1 known)
    (hrest : old.drop i = rest) :
    Leads counts old new (old.length + 1) 1
      (Diff.searchRun counts new known (row counts old new i) i rest) := by
  induction rest generalizing i known with
  | nil =>
    have hend : old.length ≤ i := List.drop_eq_nil_iff.mp hrest
    refine ⟨h.oldEnd_le, h.newEnd_le, h.length_eq, h.earliest, fun i' j' hj' hbefore => ?_⟩
    refine h.longest i' j' hj' ?_
    unfold Precedes at hbefore ⊢
    omega
  | cons x rest ih =>
    obtain ⟨hi, rfl, hothers⟩ := getElem_of_drop_eq_cons hrest
    show Leads counts old new (old.length + 1) 1 (Diff.searchRun counts new
      (known.best i 0 (runRow counts new (row counts old new i) old[i]))
      (runRow counts new (row counts old new i) old[i]) (i + 1) rest)
    rw [runRow_row hi]
    exact ih (h.best hi List.drop_zero).nextRow hothers

end Run.Leads

/-- **The run that is found** is a longest one, and the first of these. -/
theorem leads_longestRun (counts : α → Bool) (old new : List α) :
    (longestRun counts old new).Leads counts old new (old.length + 1) 1 := by
  unfold longestRun
  rw [← row_zero counts old new]
  exact Run.Leads.empty.searchRun List.drop_zero

/-! ## The piece that is named -/

/-- The run that leads names the same piece of both lists. -/
theorem Run.Leads.common {known : Run} {i j : Nat} (h : Leads counts old new i j known) :
    known.Common old new := by
  have hshared : known.length
      ≤ sharedStart (old.take known.oldEnd).reverse (new.take known.newEnd).reverse := by
    rw [h.length_eq]
    exact sharedCounted_le_sharedStart counts _ _
  have hsame := take_eq_of_le_sharedStart hshared
  unfold Run.Common
  rw [← reverse_take_reverse_take h.oldEnd_le, ← reverse_take_reverse_take h.newEnd_le]
  exact congrArg List.reverse hsame

/-- A run grows by what the lists share before it and behind it. -/
theorem Run.Common.extended {run : Run} (h : run.Common old new)
    (hold : run.oldEnd ≤ old.length) (hnew : run.newEnd ≤ new.length) :
    (run.extended old new).Common old new := by
  obtain ⟨a, b, length⟩ := run
  simp only [Run.oldEnd, Run.newEnd] at hold hnew
  unfold Run.Common Run.extended
  dsimp only [Run.Common] at h ⊢
  generalize hbefore : sharedStart (old.take a).reverse (new.take b).reverse = p
  generalize hbehind : sharedStart (old.drop (a + length)) (new.drop (b + length)) = q
  have hp : p ≤ a ∧ p ≤ b := by
    have hleft := sharedStart_le_left (old.take a).reverse (new.take b).reverse
    have hright := sharedStart_le_right (old.take a).reverse (new.take b).reverse
    rw [List.length_reverse, List.length_take] at hleft hright
    omega
  -- from here on both starts are written as the new start and what is gained
  obtain ⟨i, rfl⟩ : ∃ i, a = i + p := ⟨a - p, by omega⟩
  obtain ⟨j, rfl⟩ : ∃ j, b = j + p := ⟨b - p, by omega⟩
  have hfirst : (old.drop i).take p = (new.drop j).take p := by
    rw [← reverse_take_reverse_take (by omega), ← reverse_take_reverse_take (by omega)]
    exact congrArg List.reverse (take_eq_of_le_sharedStart (Nat.le_of_eq hbefore.symm))
  have hlast : (old.drop (i + p + length)).take q = (new.drop (j + p + length)).take q :=
    take_eq_of_le_sharedStart (Nat.le_of_eq hbehind.symm)
  rw [Nat.add_sub_cancel, Nat.add_sub_cancel, take_drop_add, take_drop_add, hfirst, h, hlast]

/-- **The run that is found**, extended, names the same piece of both lists. -/
theorem common_extended (counts : α → Bool) (old new : List α) :
    ((longestRun counts old new).extended old new).Common old new :=
  have hleads := leads_longestRun counts old new
  hleads.common.extended hleads.oldEnd_le hleads.newEnd_le

/-! ## Equal lists -/

/-- The run that leads between a list and itself is on the diagonal. A run that ends elsewhere is no
longer than the one that ends at the first of its two places in either list, and comes later. -/
theorem Run.Leads.oldEnd_eq_newEnd {xs : List α} {known : Run} {i j : Nat}
    (h : Leads counts xs xs i j known) : known.oldEnd = known.newEnd := by
  have hleft : known.length ≤ endingAt counts xs xs known.oldEnd known.oldEnd := by
    rw [h.length_eq]
    exact sharedCounted_le_self_left _ _
  have hright : known.length ≤ endingAt counts xs xs known.newEnd known.newEnd := by
    rw [h.length_eq]
    exact sharedCounted_le_self_right _ _
  rcases Nat.lt_trichotomy known.oldEnd known.newEnd with hlt | heq | hgt
  · have hless := h.earliest _ _ h.oldEnd_le (Or.inr ⟨rfl, hlt⟩)
    omega
  · exact heq
  · have hless := h.earliest _ _ h.newEnd_le (Or.inl hgt)
    omega

/-- **Equal lists.** The run that is found, extended, is the whole list. -/
theorem extended_longestRun_self (counts : α → Bool) (xs : List α) :
    (longestRun counts xs xs).extended xs xs = ⟨0, 0, xs.length⟩ := by
  have hleads := leads_longestRun counts xs xs
  have hdiagonal := hleads.oldEnd_eq_newEnd
  have hwithin := hleads.oldEnd_le
  unfold Run.oldEnd at hdiagonal hwithin
  unfold Run.newEnd at hdiagonal
  have hstart : (longestRun counts xs xs).newStart = (longestRun counts xs xs).oldStart := by omega
  unfold Run.extended
  rw [hstart, sharedStart_self, sharedStart_self, List.length_reverse, List.length_take,
    List.length_drop, Nat.min_eq_left (by omega)]
  simp only [Run.mk.injEq]
  omega

end ExpectFile.Diff
