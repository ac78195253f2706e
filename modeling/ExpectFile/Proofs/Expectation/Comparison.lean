import ExpectFile.Proofs.Expectation.Trimming

/-!
# Comparing line by line

A tolerant comparison takes two texts for the same if they agree in every line, blanks at the ends
of lines apart; a text with fewer lines is read on with empty ones. The trimmed form decides it:
texts agree in this way iff their trimmed forms are equal.

* **`getD_dropEmptyEnd`** — dropping empty lines at the end changes no line by its number.
* **`dropEmptyEnd_eq_iff`** — so lists agree by numbers iff what is kept of them is equal.
* **`trimmed_canonical`** — the same for texts, with what the trimmed form looks like.
-/

namespace ExpectFile.Expectation

open Text

/-- The line of a number, counted from zero; empty where the text has no such line. -/
def lineAt (text : List Char) (number : Nat) : List Char := (pieces '\n' text).getD number []

/-! ## Lines by their numbers -/

/-- Where the rest is dropped but for one empty line, it has nothing but empty lines. -/
theorem getD_of_dropEmptyEnd_eq {lines : List (List Char)} (h : dropEmptyEnd lines = [[]])
    (number : Nat) : lines.getD number [] = [] := by
  induction lines generalizing number with
  | nil => rfl
  | cons line rest ih =>
    unfold dropEmptyEnd at h
    split at h
    · rename_i hrest
      obtain rfl : line = [] := (List.cons.inj h).1
      cases number with
      | zero => rfl
      | succ number => exact ih hrest number
    · obtain ⟨rfl, hnone⟩ := List.cons.inj h
      -- nothing is kept of the rest, so there is none
      cases rest with
      | nil => cases number <;> rfl
      | cons second others =>
        exact absurd hnone (dropEmptyEnd_ne_nil (List.cons_ne_nil second others))

/-- **No line changes**: what is dropped was empty, and reads as empty when it is missing. -/
theorem getD_dropEmptyEnd (lines : List (List Char)) (number : Nat) :
    (dropEmptyEnd lines).getD number [] = lines.getD number [] := by
  induction lines generalizing number with
  | nil => rfl
  | cons line rest ih =>
    rw [dropEmptyEnd]
    split
    · rename_i hrest
      cases number with
      | zero => rfl
      | succ number => exact (getD_of_dropEmptyEnd_eq hrest number).symm
    · cases number with
      | zero => rfl
      | succ number => exact ih number

/-- In front of empty lines alone, one line is kept. -/
theorem dropEmptyEnd_cons_of_forall (line : List Char) {rest : List (List Char)}
    (h : ∀ number, rest.getD number [] = []) : dropEmptyEnd (line :: rest) = [line] := by
  induction rest generalizing line with
  | nil => rfl
  | cons second others ih =>
    obtain rfl : second = [] := h 0
    have hkept : dropEmptyEnd ([] :: others) = [[]] := ih [] fun number => h (number + 1)
    rw [dropEmptyEnd, hkept]

/-- **Lists that agree by numbers have the same lines kept.** Induction on one list: where its rest
is empty lines alone, so is the rest of the other. -/
theorem dropEmptyEnd_congr {first second : List (List Char)} (hfirst : first ≠ [])
    (hsecond : second ≠ []) (h : ∀ number, first.getD number [] = second.getD number []) :
    dropEmptyEnd first = dropEmptyEnd second := by
  induction first generalizing second with
  | nil => exact absurd rfl hfirst
  | cons line rest ih =>
    cases second with
    | nil => exact absurd rfl hsecond
    | cons other more =>
      obtain rfl : line = other := h 0
      have htail : ∀ number, rest.getD number [] = more.getD number [] :=
        fun number => h (number + 1)
      by_cases hall : ∀ number, rest.getD number [] = []
      · have hmore : ∀ number, more.getD number [] = [] :=
          fun number => (htail number).symm.trans (hall number)
        rw [dropEmptyEnd_cons_of_forall line hall, dropEmptyEnd_cons_of_forall line hmore]
      · have hrest : rest ≠ [] := by
          rintro rfl
          exact hall fun _ => rfl
        have hmore : more ≠ [] := by
          rintro rfl
          exact hall htail
        rw [dropEmptyEnd, ih hrest hmore htail]
        rfl

theorem dropEmptyEnd_eq_iff {first second : List (List Char)} (hfirst : first ≠ [])
    (hsecond : second ≠ []) :
    dropEmptyEnd first = dropEmptyEnd second
      ↔ ∀ number, first.getD number [] = second.getD number [] := by
  constructor
  · intro h number
    rw [← getD_dropEmptyEnd first, h, getD_dropEmptyEnd]
  · exact dropEmptyEnd_congr hfirst hsecond

/-- The last line that is kept is empty only if no other is kept. -/
theorem dropEmptyEnd_eq_of_getLast? {lines : List (List Char)}
    (h : (dropEmptyEnd lines).getLast? = some []) : dropEmptyEnd lines = [[]] := by
  induction lines with
  | nil => exact absurd h nofun
  | cons line rest ih =>
    unfold dropEmptyEnd at h ⊢
    split at h
    · rename_i hrest
      obtain rfl : line = [] := Option.some.inj h
      rfl
    · rename_i hkept
      cases hrest : dropEmptyEnd rest with
      | nil =>
        rw [hrest] at h
        obtain rfl : line = [] := Option.some.inj h
        rfl
      | cons first others =>
        rw [hrest, List.getLast?_cons_cons, ← hrest] at h
        exact absurd (ih h) hkept

/-! ## Texts -/

theorem map_trimEnd_pieces_ne_nil (text : List Char) : (pieces '\n' text).map trimEnd ≠ [] :=
  fun hnil => pieces_ne_nil '\n' text (List.map_eq_nil_iff.mp hnil)

/-- A line of the trimmed lines is the trimmed line. -/
theorem getD_map_trimEnd_pieces (text : List Char) (number : Nat) :
    ((pieces '\n' text).map trimEnd).getD number [] = trimEnd (lineAt text number) := by
  unfold lineAt
  rw [List.getD_eq_getElem?_getD, List.getD_eq_getElem?_getD, List.getElem?_map]
  cases (pieces '\n' text)[number]? <;> rfl

/-- A trimmed text is determined by its lines. -/
theorem trimmed_eq_iff {first second : List Char} :
    trimmed first = trimmed second
      ↔ dropEmptyEnd ((pieces '\n' first).map trimEnd)
        = dropEmptyEnd ((pieces '\n' second).map trimEnd) := by
  constructor
  · intro h
    rw [← pieces_trimmed, h, pieces_trimmed]
  · intro h
    unfold trimmed
    rw [h]

/-- **The trimmed form decides the tolerant comparison.** Two texts have the same one iff they agree
in every line once the blanks at its end are removed, a missing line counting as empty. The trimmed
form is a text of that kind itself: trimming leaves it as it is, no line of it ends in a blank, and
its last line is empty only if all of it is. -/
theorem trimmed_canonical (first second : List Char) :
    (trimmed first = trimmed second
        ↔ ∀ number, trimEnd (lineAt first number) = trimEnd (lineAt second number))
      ∧ trimmed (trimmed first) = trimmed first
      ∧ (∀ line ∈ pieces '\n' (trimmed first), ∀ c, line.getLast? = some c → isBlank c = false)
      ∧ ((pieces '\n' (trimmed first)).getLast? = some [] → trimmed first = []) := by
  refine ⟨?_, trimmed_trimmed first, ?_, ?_⟩
  · rw [trimmed_eq_iff, dropEmptyEnd_eq_iff (map_trimEnd_pieces_ne_nil first)
      (map_trimEnd_pieces_ne_nil second)]
    simp only [getD_map_trimEnd_pieces]
  · intro line hline c hlast
    rw [pieces_trimmed] at hline
    obtain ⟨piece, -, rfl⟩ := List.mem_map.mp (mem_of_mem_dropEmptyEnd hline)
    exact not_isBlank_of_getLast?_trimEnd hlast
  · intro hlast
    rw [pieces_trimmed] at hlast
    unfold trimmed
    rw [dropEmptyEnd_eq_of_getLast? hlast]
    rfl

/-- Of blank lines nothing is left, however they end. -/
example : trimmed " \r\n\t\n".toList = [] := by decide

end ExpectFile.Expectation
