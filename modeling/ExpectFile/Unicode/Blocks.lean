import ExpectFile.Text.Hex
import ExpectFile.Text.Pieces

/-!
# Tables of the character standard

A table is a list of blocks in ascending order. The key of a block is the first character that it
speaks of; its text lists entries, separated by spaces, with all numbers in hexadecimal. An entry
is a range (`c0-d6`, or `aa` for one character), or a range and its value (`300-314=e6`).
-/

namespace ExpectFile.Unicode

open Text

/-- The blocks of a table, by ascending key. -/
abbrev Blocks := List (Nat × String)

/-- The texts of the blocks that may speak of `n`: they begin at `n` or before, and the block after
them does not begin before `n`. -/
def Blocks.near (n : Nat) : Blocks → List String
  | [] => []
  | [(key, text)] => if key ≤ n then [text] else []
  | (key, text) :: (next, more) :: rest =>
    if n < key then []
    else if next < n then Blocks.near n ((next, more) :: rest)
    else text :: Blocks.near n ((next, more) :: rest)

/-- Whether a range such as `c0-d6` or `aa` holds `n`. -/
def rangeHolds (n : Nat) (range : List Char) : Bool :=
  match pieces '-' range with
  | [one] => readDigits 16 one == n
  | [first, last] => readDigits 16 first ≤ n && n ≤ readDigits 16 last
  | _ => false

/-- Whether some range of the table holds `n`. -/
def Blocks.covers (table : Blocks) (n : Nat) : Bool :=
  (table.near n).any fun text => (pieces ' ' text.toList).any (rangeHolds n)

/-- The values of the entries about `n`, in the order of the table. -/
def Blocks.values (table : Blocks) (n : Nat) : List (List Char) :=
  (table.near n).flatMap fun text =>
    (pieces ' ' text.toList).filterMap fun entry =>
      match pieces '=' entry with
      | [range, value] => if rangeHolds n range then some value else none
      | _ => none

end ExpectFile.Unicode
