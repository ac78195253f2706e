/-!
# Common runs

A run is a piece that two lists share. `longestRun` finds the longest one, of equally long ones the
one that is earliest in the first list, and of these the earliest in the second. Elements that are
too common to say anything can be left out of the search; once a run is found, `Run.extended` takes
in whatever the lists share on either side of it.
-/

namespace ExpectFile.Diff

variable {α : Type} [DecidableEq α]

/-- A piece of two lists: where it starts in each, and its length. -/
structure Run where
  oldStart : Nat
  newStart : Nat
  length : Nat
deriving DecidableEq

/-- How many elements the lists share at their start. -/
def sharedStart : List α → List α → Nat
  | x :: xs, y :: ys => if x = y then sharedStart xs ys + 1 else 0
  | _, _ => 0

/-! ## The search

For each element of the old list there is a row with a number for each element of the new list: the
length of the longest run that ends at both. A row follows from the row before it. -/

/-- The row for `x`, given the row for the element before it. -/
def runRow (counts : α → Bool) (new : List α) (previous : List Nat) (x : α) : List Nat :=
  if counts x then
    List.zipWith (fun before y => if x = y then before + 1 else 0) (0 :: previous) new
  else new.map fun _ => 0

/-- The best run known, after the row for the element at `i` from its place `j` on. -/
def Run.best (known : Run) (i : Nat) : (j : Nat) → (row : List Nat) → Run
  | _, [] => known
  | j, length :: row =>
    let better := if known.length < length then ⟨i + 1 - length, j + 1 - length, length⟩ else known
    better.best i (j + 1) row

/-- The best run, once the elements from `i` on have been searched. -/
def searchRun (counts : α → Bool) (new : List α) (known : Run) (previous : List Nat) (i : Nat) :
    List α → Run
  | [] => known
  | x :: rest =>
    let row := runRow counts new previous x
    searchRun counts new (known.best i 0 row) row (i + 1) rest

/-- The longest run of elements that count; without one, the run of no elements at the start. -/
def longestRun (counts : α → Bool) (old new : List α) : Run :=
  searchRun counts new ⟨0, 0, 0⟩ (List.replicate new.length 0) 0 old

/-- The run with what the lists share before it and behind it. -/
def Run.extended (run : Run) (old new : List α) : Run :=
  let before := sharedStart (old.take run.oldStart).reverse (new.take run.newStart).reverse
  let behind :=
    sharedStart (old.drop (run.oldStart + run.length)) (new.drop (run.newStart + run.length))
  ⟨run.oldStart - before, run.newStart - before, before + run.length + behind⟩

end ExpectFile.Diff
