import ExpectFile.Fault

/-!
# Blocks

The pieces of a partitioned file. A block of code holds its text as it stands in the file; the
block of a directive or an assertion holds the text that the marker stands for. The extent says
which part of the file a block is made of.
-/

namespace ExpectFile

/-- What a block is made of. -/
inductive BlockKind where
  | directive
  | assertion
  | code
deriving DecidableEq

/-- The word for a kind of block. -/
def BlockKind.word : BlockKind → String
  | .directive => "directive"
  | .assertion => "assertion"
  | .code => "code"

/-- The kind of block that a word names. -/
def BlockKind.ofWord (word : String) : Except Fault BlockKind :=
  if word = "directive" then .ok .directive
  else if word = "assertion" then .ok .assertion
  else if word = "code" then .ok .code
  else .error (.unknownBlockKind word)

/-- A piece of a partitioned file. -/
structure Block where
  kind : BlockKind
  text : String
  extent : Extent
deriving DecidableEq

/-- Whether two blocks are of one kind and have one text, wherever they come from. -/
def Block.sameContent (first second : Block) : Bool :=
  first.kind = second.kind && first.text == second.text

end ExpectFile
