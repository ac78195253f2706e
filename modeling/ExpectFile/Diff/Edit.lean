import ExpectFile.Diff.Run

/-!
# Edit scripts

How one list becomes another: pieces that are kept, and between them pieces that are exchanged for
others. The script comes from common runs: the longest one is kept, and what lies on either side of
it is treated in the same way. Main functions: `edits`, and `before` and `after`, which read off a
script what it goes from and what it leads to.
-/

namespace ExpectFile.Diff

variable {α : Type} [DecidableEq α]

/-- A step of an edit script. -/
inductive Edit (α : Type) where
  /-- Elements that both lists have. -/
  | keep (elements : List α)
  /-- Elements of the old list, and those of the new list that stand in their place. -/
  | exchange (removed added : List α)
deriving DecidableEq

namespace Edit

/-- The elements of the old list. -/
def old : Edit α → List α
  | keep elements => elements
  | exchange removed _ => removed

/-- The elements of the new list. -/
def new : Edit α → List α
  | keep elements => elements
  | exchange _ added => added

/-- Whether the step changes anything. -/
def isChange : Edit α → Bool
  | keep _ => false
  | exchange _ _ => true

/-- A step in front of a script, joined with its first step if both keep. -/
def followedBy : Edit α → List (Edit α) → List (Edit α)
  | keep first, keep second :: rest => keep (first ++ second) :: rest
  | step, script => step :: script

/-- The exchange of one list for another; none if there is nothing on either side. -/
def whole (old new : List α) : List (Edit α) :=
  if old.isEmpty && new.isEmpty then [] else [exchange old new]

end Edit

/-- The list that a script goes from. -/
def before (script : List (Edit α)) : List α := script.flatMap Edit.old

/-- The list that a script leads to. -/
def after (script : List (Edit α)) : List α := script.flatMap Edit.new

/-- The steps between two lists, next to each other as the runs are found. Every run that is found
shortens what is left of the old list, so the depth never runs out if it is greater than the
length of that list. -/
def steps (counts : α → Bool) : (depth : Nat) → (old new : List α) → List (Edit α)
  | 0, old, new => Edit.whole old new
  | depth + 1, old, new =>
    let run := (longestRun counts old new).extended old new
    if run.length = 0 then Edit.whole old new
    else
      steps counts depth (old.take run.oldStart) (new.take run.newStart)
        ++ .keep ((old.drop run.oldStart).take run.length)
        :: steps counts depth (old.drop (run.oldStart + run.length))
          (new.drop (run.newStart + run.length))

/-- From how many elements on a list is long. -/
def longList : Nat := 200

/-- Whether an element counts in the search for runs. In a long list it does not if it makes up
more than a hundredth of the list, by more than one element. -/
def isRare (new : List α) (x : α) : Bool :=
  new.length < longList || new.count x ≤ new.length / 100 + 1

/-- The script that leads from one list to another, no two steps that keep next to each other. -/
def edits (old new : List α) : List (Edit α) :=
  (steps (isRare new) (old.length + 1) old new).foldr Edit.followedBy []

end ExpectFile.Diff
