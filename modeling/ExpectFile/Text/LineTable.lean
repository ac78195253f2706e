import ExpectFile.Fault

/-!
# Line tables

A parser gives a place as a line number and a column that counts the bytes of the line in UTF-8.
A line table turns such a place into an offset in characters. Lines end at `\r\n`, at a lone `\r`
and at `\n`; what follows the last break is a line too, so there is always one.
-/

namespace ExpectFile

/-- What ends a line. -/
inductive LineBreak where
  | lineFeed
  | carriageReturn
  | both
deriving DecidableEq

/-- The characters of a line break. -/
def LineBreak.chars : LineBreak → List Char
  | .lineFeed => ['\n']
  | .carriageReturn => ['\r']
  | .both => ['\r', '\n']

/-- A line: where it starts, its text without the break, and the break, which only the last line
lacks. -/
structure Line where
  start : Nat
  text : List Char
  ending : Option LineBreak
deriving DecidableEq

/-- The lines of a text that starts at an offset. -/
def linesFrom (start : Nat) : List Char → List Line
  | [] => [⟨start, [], none⟩]
  | '\r' :: '\n' :: rest => ⟨start, [], some .both⟩ :: linesFrom (start + 2) rest
  | '\r' :: rest => ⟨start, [], some .carriageReturn⟩ :: linesFrom (start + 1) rest
  | '\n' :: rest => ⟨start, [], some .lineFeed⟩ :: linesFrom (start + 1) rest
  | c :: rest =>
    match linesFrom (start + 1) rest with
    | [] => [⟨start, [c], none⟩]
    | line :: others => ⟨start, c :: line.text, line.ending⟩ :: others

/-- The lines of a text, for looking up places. -/
structure LineTable where
  lines : List Line

namespace LineTable

/-- The line table of a text. -/
def ofText (text : String) : LineTable := ⟨linesFrom 0 text.toList⟩

/-- The lines of a file cannot be numbered beyond this. -/
def numberLimit : Int := 0x8000000000000000

/-- The line of a number. Lines are numbered from one; zero and the negative numbers count back
from the last line. A number without a line may be one that cannot be counted to. -/
def line (table : LineTable) (number : Int) : Except Fault Line :=
  let index := number - 1
  let fromStart := if index < 0 then index + table.lines.length else index
  match if fromStart < 0 then none else table.lines[fromStart.toNat]? with
  | some found => .ok found
  | none =>
    if index < -numberLimit ∨ numberLimit ≤ index then .error .uncountableLine
    else .error .noSuchLine

/-- The text of a line, without its break. -/
def lineText (table : LineTable) (number : Int) : Except Fault String := do
  let found ← table.line number
  return String.ofList found.text

/-- The number of bytes of a text in UTF-8. -/
def byteLength (text : List Char) : Nat :=
  text.foldr (fun c bytes => c.utf8Size + bytes) 0

/-- The first byte of a character in UTF-8. -/
def firstByte (c : Char) : Nat :=
  let n := c.toNat
  if n < 0x80 then n
  else if n < 0x800 then 0xc0 + n / 0x40
  else if n < 0x10000 then 0xe0 + n / 0x1000
  else 0xf0 + n / 0x40000

/-- How many characters the first `bytes` bytes of a text hold; all of them if there are fewer
bytes. `position` is the number of bytes in front of the text. -/
def charsBefore (position : Nat) : (bytes : Nat) → List Char → Except Fault Nat
  | 0, _ => .ok 0
  | _, [] => .ok 0
  | bytes, c :: rest =>
    if c.utf8Size ≤ bytes then
      (charsBefore (position + c.utf8Size) (bytes - c.utf8Size) rest).map (· + 1)
    else .error (.splitCharacter position bytes (firstByte c))

/-- The offset of a place. A negative column counts back from the end of the line. -/
def offset (table : LineTable) (number column : Int) : Except Fault Nat := do
  let found ← table.line number
  let bytes := if column < 0 then column + byteLength found.text else column
  let chars ← charsBefore 0 bytes.toNat found.text
  return found.start + chars

end LineTable

end ExpectFile
