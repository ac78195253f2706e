import ExpectFile.Diff.Edit
import ExpectFile.Text.Digits
import ExpectFile.Text.Lines

/-!
# Unified diffs

A diff shows the places where two texts differ, line by line. A hunk is a piece of the edit script
with up to three lines of context at each end; changes with no more than six lines between them
share a hunk. Two names and the hunks make the diff. There are no hunks, and then the diff is
empty, if there are no changes.
-/

namespace ExpectFile.Diff

open Text

/-- A line with its break. -/
abbrev Line := List Char

/-- How many lines are shown around a change. -/
def contextLines : Nat := 3

/-! ## Hunks -/

/-- A piece of an edit script, and how many lines of either text lie in front of it. -/
structure Hunk where
  oldStart : Nat
  newStart : Nat
  script : List (Edit Line)

namespace Hunk

/-- The number of lines of the old text. -/
def oldLength (hunk : Hunk) : Nat := (before hunk.script).length

/-- The number of lines of the new text. -/
def newLength (hunk : Hunk) : Nat := (after hunk.script).length

/-- The hunk with one more step. -/
def add (hunk : Hunk) (step : Edit Line) : Hunk :=
  { hunk with script := hunk.script ++ [step] }

/-- The hunk that starts with the last lines of what is kept behind a hunk. -/
def next (hunk : Hunk) (kept : List Line) : Hunk :=
  let skipped := kept.length - contextLines
  ⟨hunk.oldStart + hunk.oldLength + skipped, hunk.newStart + hunk.newLength + skipped,
    [.keep (kept.drop skipped)]⟩

/-- The hunks of the rest of a script, given the one that has begun. -/
def collect (hunk : Hunk) : List (Edit Line) → List Hunk
  | [] => if hunk.script.any Edit.isChange then [hunk] else []
  | .exchange removed added :: rest => (hunk.add (.exchange removed added)).collect rest
  | .keep kept :: rest =>
    if rest.isEmpty then (hunk.add (.keep (kept.take contextLines))).collect rest
    else if kept.length ≤ 2 * contextLines then (hunk.add (.keep kept)).collect rest
    else hunk.add (.keep (kept.take contextLines)) :: (hunk.next kept).collect rest

end Hunk

/-- The hunks of a script. -/
def hunks : List (Edit Line) → List Hunk
  | .keep kept :: rest => ((⟨0, 0, []⟩ : Hunk).next kept).collect rest
  | script => (⟨0, 0, []⟩ : Hunk).collect script

/-! ## Text -/

/-- The place of lines in a text. Lines are numbered from one; of no lines, the number of the line
in front of them is given. -/
def placeText (start length : Nat) : List Char :=
  if length = 1 then decimal (start + 1)
  else if length = 0 then decimal start ++ [',', '0']
  else decimal (start + 1) ++ ',' :: decimal length

/-- Lines with a mark in front of each. -/
def marked (mark : Char) (lines : List Line) : List Char :=
  lines.flatMap (mark :: ·)

/-- A step of a script. -/
def Edit.text : Edit Line → List Char
  | keep lines => marked ' ' lines
  | exchange removed added => marked '-' removed ++ marked '+' added

/-- A hunk with its head line. -/
def Hunk.text (hunk : Hunk) : List Char :=
  "@@ -".toList ++ placeText hunk.oldStart hunk.oldLength
    ++ " +".toList ++ placeText hunk.newStart hunk.newLength ++ " @@\n".toList
    ++ hunk.script.flatMap Edit.text

/-- The diff of two texts under two names; nothing if there are no hunks. -/
def unified (oldName newName old new : List Char) : List Char :=
  match hunks (edits (lines old) (lines new)) with
  | [] => []
  | found =>
    "--- ".toList ++ oldName ++ "\n+++ ".toList ++ newName ++ '\n' :: found.flatMap Hunk.text

end ExpectFile.Diff
