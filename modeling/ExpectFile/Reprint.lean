import ExpectFile.Block
import ExpectFile.Text.Quoted

/-!
# Reprinting

Blocks put back into a file: code as it stands, and each directive or assertion as a call with its
text as the only argument. Three double quotes on either side keep a text readable, since nothing
in it needs an escape; where they would not give the text back, it is quoted on one line.
-/

namespace ExpectFile.Reprint

open Text

/-- What stands on either side of a text that is written out. -/
def fence : List Char := [doubleQuote, doubleQuote, doubleQuote]

/-- Whether a text has a piece that looks like a fence. -/
def holdsFence : List Char → Bool
  | [] => false
  | c :: rest => fence.isPrefixOf (c :: rest) || holdsFence rest

/-- Whether a text between fences is read as that text. A backslash would start an escape, a
carriage return would be read as a line feed, and a double quote at the end would run into the
fence. -/
def fits (text : List Char) : Bool :=
  !holdsFence text && !text.contains '\\' && !text.contains '\r'
    && text.getLast? != some doubleQuote

/-- A text as a literal. -/
def literal (text : List Char) : List Char :=
  if fits text then fence ++ text ++ fence else quoted text

/-- The names of the calls to print. -/
structure Names where
  directive : String
  assertion : String

/-- A call with a text as its argument. -/
def call (name : String) (text : String) : List Char :=
  name.toList ++ '(' :: literal text.toList ++ [')']

/-- A block as it is printed. -/
def block (names : Names) (b : Block) : List Char :=
  match b.kind with
  | .directive => call names.directive b.text
  | .assertion => call names.assertion b.text
  | .code => b.text.toList

/-- The text of a file that is made of blocks. -/
def text (names : Names) (blocks : List Block) : String :=
  String.ofList (blocks.flatMap (block names))

end ExpectFile.Reprint
