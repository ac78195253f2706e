import ExpectFile.Diff.Unified
import ExpectFile.Proofs.Diff.Scripts

/-!
# Which texts have a diff

A script with a change in it has a hunk: the change is added to the hunk that has begun, and a hunk
is given up only if there is no change in it. Together with the script between equal lists, and with
lines that lose nothing, this says that a diff is empty just if the texts are the same.

* **`Hunk.any_isChange_eq_false_of_collect`** — a script without hunks has no changes; one step of
  the walk for each kind of step.
* **`hunks_edits_eq_nil_iff`**, **`lines_inj`** — lists of lines, and lines of texts.
* **`unified_eq_nil_iff`** — diffs that are empty.
-/

namespace ExpectFile.Diff

open Text

/-! ## Hunks -/

namespace Hunk

theorem script_add (hunk : Hunk) (step : Edit Line) :
    (hunk.add step).script = hunk.script ++ [step] := rfl

/-- If the rest of a script makes no hunk, there is no change in it, and none in the hunk that has
begun. -/
theorem any_isChange_eq_false_of_collect {hunk : Hunk} {script : List (Edit Line)}
    (h : hunk.collect script = []) : (hunk.script ++ script).any Edit.isChange = false := by
  fun_induction collect hunk script with
  | case1 hunk hchange => exact absurd h nofun
  | case2 hunk hchange =>
    rw [List.append_nil]
    exact Bool.eq_false_iff.mpr hchange
  | case3 hunk removed added rest ih =>
    rw [← ih h, script_add, List.append_assoc]
    rfl
  | case4 hunk kept rest hlast ih =>
    -- the lines behind the context are left out, and they are no change
    have hnone := ih h
    rw [script_add, List.append_assoc, List.any_append] at hnone
    rw [List.any_append]
    exact hnone
  | case5 hunk kept rest hlast hshort ih =>
    rw [← ih h, script_add, List.append_assoc]
    rfl
  | case6 hunk kept rest hlast hlong ih => exact absurd h nofun

end Hunk

/-- A script without hunks changes nothing. -/
theorem any_isChange_eq_false_of_hunks {script : List (Edit Line)} (h : hunks script = []) :
    script.any Edit.isChange = false := by
  unfold hunks at h
  split at h
  · exact Hunk.any_isChange_eq_false_of_collect h
  · exact Hunk.any_isChange_eq_false_of_collect h

/-- **Lists of lines have hunks** just if they differ. -/
theorem hunks_edits_eq_nil_iff (old new : List Line) : hunks (edits old new) = [] ↔ old = new := by
  constructor
  · intro hnone
    have hsame : ¬old ≠ new := by
      rw [← any_isChange_edits, any_isChange_eq_false_of_hunks hnone]
      exact nofun
    exact Decidable.not_not.mp hsame
  · rintro rfl
    rw [edits_self]
    cases old <;> rfl

/-! ## Texts -/

/-- Texts with the same lines are the same. -/
theorem lines_inj {old new : List Char} : lines old = lines new ↔ old = new := by
  refine ⟨fun h => ?_, congrArg lines⟩
  have hflat := congrArg List.flatten h
  rwa [flatten_lines, flatten_lines] at hflat

/-- **A diff is empty** just if the texts are the same, whatever their names. -/
theorem unified_eq_nil_iff (oldName newName old new : List Char) :
    unified oldName newName old new = [] ↔ old = new := by
  refine Iff.trans ?_ ((hunks_edits_eq_nil_iff (lines old) (lines new)).trans lines_inj)
  unfold unified
  cases hunks (edits (lines old) (lines new)) with
  | nil => exact iff_of_true rfl rfl
  | cons first others =>
    -- the names at the head are there whatever the hunks are
    have hhead : "--- ".toList ≠ [] := by decide
    refine iff_of_false (fun hempty => hhead ?_) nofun
    simp only [List.append_assoc, List.append_eq_nil_iff] at hempty
    exact hempty.1

end ExpectFile.Diff
