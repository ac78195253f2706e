import ExpectFile.Diff.Edit
import ExpectFile.Proofs.Diff.Runs

/-!
# What edit scripts lead to

A script between two lists goes from the one and leads to the other, whatever elements the search
for runs leaves out. So a script that changes nothing is one between equal lists; and between equal
lists the first run is all there is, so nothing is changed.

* **`before_steps`**, **`after_steps`** — one step of the recursion: a run and its two sides.
* **`before_edits`**, **`after_edits`** — scripts lead from one list to the other.
* **`edits_self`** — the script between equal lists.
* **`any_isChange_edits`** — a script changes something just if the lists differ.
-/

namespace ExpectFile.Diff

variable {α : Type}

/-! ## Reading scripts -/

@[simp] theorem before_nil : before ([] : List (Edit α)) = [] := rfl

@[simp] theorem after_nil : after ([] : List (Edit α)) = [] := rfl

@[simp] theorem before_cons (step : Edit α) (script : List (Edit α)) :
    before (step :: script) = step.old ++ before script := List.flatMap_cons

@[simp] theorem after_cons (step : Edit α) (script : List (Edit α)) :
    after (step :: script) = step.new ++ after script := List.flatMap_cons

@[simp] theorem before_append (script further : List (Edit α)) :
    before (script ++ further) = before script ++ before further := List.flatMap_append

@[simp] theorem after_append (script further : List (Edit α)) :
    after (script ++ further) = after script ++ after further := List.flatMap_append

/-- A step that changes nothing has the same elements on both sides. -/
theorem Edit.old_eq_new {step : Edit α} (h : step.isChange = false) : step.old = step.new := by
  cases step with
  | keep elements => rfl
  | exchange removed added => exact absurd h nofun

/-- A script that changes nothing leads to where it comes from. -/
theorem before_eq_after {script : List (Edit α)} (h : script.any Edit.isChange = false) :
    before script = after script := by
  induction script with
  | nil => rfl
  | cons step rest ih =>
    obtain ⟨hstep, hrest⟩ : step.isChange = false ∧ rest.any Edit.isChange = false := by
      rwa [List.any_cons, Bool.or_eq_false_iff] at h
    rw [before_cons, after_cons, Edit.old_eq_new hstep, ih hrest]

/-- A list around one of its pieces. -/
theorem take_append_take_drop_append (xs : List α) (start length : Nat) :
    xs.take start ++ ((xs.drop start).take length ++ xs.drop (start + length)) = xs := by
  rw [← List.drop_drop, List.take_append_drop, List.take_append_drop]

/-! ## Putting scripts together -/

theorem before_whole (old new : List α) : before (Edit.whole old new) = old := by
  cases old <;> cases new <;> simp [Edit.whole, Edit.old]

theorem after_whole (old new : List α) : after (Edit.whole old new) = new := by
  cases old <;> cases new <;> simp [Edit.whole, Edit.new]

/-- Steps are joined without any loss. -/
theorem before_followedBy (step : Edit α) (script : List (Edit α)) :
    before (step.followedBy script) = step.old ++ before script := by
  fun_cases Edit.followedBy step script with
  | case1 first second rest => simp [Edit.old]
  | case2 => exact before_cons _ _

theorem after_followedBy (step : Edit α) (script : List (Edit α)) :
    after (step.followedBy script) = step.new ++ after script := by
  fun_cases Edit.followedBy step script with
  | case1 first second rest => simp [Edit.new]
  | case2 => exact after_cons _ _

theorem before_foldr_followedBy (script : List (Edit α)) :
    before (script.foldr Edit.followedBy []) = before script := by
  induction script with
  | nil => rfl
  | cons step rest ih => rw [List.foldr_cons, before_followedBy, ih, before_cons]

theorem after_foldr_followedBy (script : List (Edit α)) :
    after (script.foldr Edit.followedBy []) = after script := by
  induction script with
  | nil => rfl
  | cons step rest ih => rw [List.foldr_cons, after_followedBy, ih, after_cons]

/-! ## The steps between two lists -/

variable [DecidableEq α]

/-- **The steps come from the old list.** It is a run and what lies on either side of it. -/
theorem before_steps (counts : α → Bool) (depth : Nat) (old new : List α) :
    before (steps counts depth old new) = old := by
  induction depth generalizing old new with
  | zero => exact before_whole old new
  | succ depth ih =>
    rw [steps]
    split
    · exact before_whole old new
    · rw [before_append, before_cons, ih, ih]
      exact take_append_take_drop_append old _ _

/-- **The steps lead to the new list.** What is kept is taken from the old one, and the run is the
same piece of both. -/
theorem after_steps (counts : α → Bool) (depth : Nat) (old new : List α) :
    after (steps counts depth old new) = new := by
  induction depth generalizing old new with
  | zero => exact after_whole old new
  | succ depth ih =>
    have hcommon : ((longestRun counts old new).extended old new).Common old new :=
      common_extended counts old new
    rw [steps]
    split
    · exact after_whole old new
    · rw [after_append, after_cons, ih, ih]
      show _ ++ ((old.drop _).take _ ++ _) = new
      rw [hcommon]
      exact take_append_take_drop_append new _ _

/-- **A script comes from the old list.** -/
theorem before_edits (old new : List α) : before (edits old new) = old := by
  unfold edits
  rw [before_foldr_followedBy, before_steps]

/-- **A script leads to the new list.** -/
theorem after_edits (old new : List α) : after (edits old new) = new := by
  unfold edits
  rw [after_foldr_followedBy, after_steps]

/-! ## Equal lists -/

/-- There are no steps between two lists without elements. -/
theorem steps_nil (counts : α → Bool) (depth : Nat) : steps counts depth ([] : List α) [] = [] := by
  cases depth <;> rfl

/-- **The script between equal lists** keeps all there is. -/
theorem edits_self (xs : List α) : edits xs xs = if xs.isEmpty then [] else [.keep xs] := by
  unfold edits
  rw [steps, extended_longestRun_self]
  cases xs with
  | nil => rfl
  | cons x rest =>
    have hlength : (x :: rest).length ≠ 0 := Nat.succ_ne_zero _
    rw [if_neg hlength]
    dsimp only
    rw [List.take_zero, List.drop_zero, Nat.zero_add, List.take_length, List.drop_length,
      steps_nil]
    rfl

/-- **A script changes something** just if the lists differ. -/
theorem any_isChange_edits (old new : List α) :
    (edits old new).any Edit.isChange = true ↔ old ≠ new := by
  constructor
  · rintro hchange rfl
    rw [edits_self] at hchange
    cases old <;> exact absurd hchange nofun
  · intro hdiffer
    cases hchange : (edits old new).any Edit.isChange with
    | true => rfl
    | false =>
      have hsame := before_eq_after hchange
      rw [before_edits, after_edits] at hsame
      exact absurd hsame hdiffer

end ExpectFile.Diff
