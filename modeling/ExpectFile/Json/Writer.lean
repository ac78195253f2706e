import ExpectFile.Json

/-!
# Writing JSON

A value as JSON text, either on one line or as an indented document. A quotation mark, a backslash
and the control characters below U+0020 are escaped; every other character stands for itself,
unless the style asks for ASCII.
-/

namespace ExpectFile.Json

open Text

/-- How a value is laid out. -/
structure Style where
  indented : Bool
  ascii : Bool

/-- An indented document: two spaces for each level, characters as they are. -/
def Style.document : Style := ⟨true, false⟩

/-- Everything on one line, in ASCII. -/
def Style.line : Style := ⟨false, true⟩

/-- A character by its number; beyond the basic plane by its two surrogates. -/
def escapedUnits (n : Nat) : List Char :=
  if n < 0x10000 then '\\' :: 'u' :: hexDigits 4 n
  else
    let offset := n - 0x10000
    '\\' :: 'u' :: hexDigits 4 (0xd800 + offset / 0x400)
      ++ '\\' :: 'u' :: hexDigits 4 (0xdc00 + offset % 0x400)

/-- A character inside a string. -/
def Style.character (style : Style) (c : Char) : List Char :=
  if c = doubleQuote ∨ c = '\\' then ['\\', c]
  else if c = '\n' then ['\\', 'n']
  else if c = '\r' then ['\\', 'r']
  else if c = '\t' then ['\\', 't']
  else if c = '\x08' then ['\\', 'b']
  else if c = '\x0c' then ['\\', 'f']
  else if c.toNat < 0x20 then escapedUnits c.toNat
  else if style.ascii ∧ 0x7f ≤ c.toNat then escapedUnits c.toNat
  else [c]

/-- A string with its quotation marks. -/
def Style.string (style : Style) (text : List Char) : List Char :=
  doubleQuote :: text.flatMap style.character ++ [doubleQuote]

/-- The break before an item or a closing bracket at a level of indentation. -/
def Style.gap (style : Style) (level : Nat) : List Char :=
  if style.indented then '\n' :: List.replicate (2 * level) ' ' else []

/-- What separates two items. -/
def Style.comma (style : Style) (level : Nat) : List Char :=
  if style.indented then ',' :: style.gap level else [',', ' ']

mutual

/-- A value at a level of indentation. -/
def writeAt (style : Style) (level : Nat) : Json → List Char
  | .null => "null".toList
  | .bool true => "true".toList
  | .bool false => "false".toList
  | .integer value => Text.integer value
  | .decimal negative magnitude =>
    (if negative then ['-'] else []) ++ magnitude.text .plain "Infinity"
  | .string text => style.string text.toList
  | .array [] => ['[', ']']
  | .array (item :: rest) =>
    '[' :: style.gap (level + 1) ++ writeAt style (level + 1) item
      ++ writeItems style (level + 1) rest ++ style.gap level ++ [']']
  | .object [] => ['\x7b', '\x7d']
  | .object ((name, value) :: rest) =>
    '\x7b' :: style.gap (level + 1) ++ style.string name.toList ++ [':', ' ']
      ++ writeAt style (level + 1) value ++ writeFields style (level + 1) rest
      ++ style.gap level ++ ['\x7d']

/-- The items after the first one. -/
def writeItems (style : Style) (level : Nat) : List Json → List Char
  | [] => []
  | item :: rest =>
    style.comma level ++ writeAt style level item ++ writeItems style level rest

/-- The fields after the first one. -/
def writeFields (style : Style) (level : Nat) : List (String × Json) → List Char
  | [] => []
  | (name, value) :: rest =>
    style.comma level ++ style.string name.toList ++ [':', ' '] ++ writeAt style level value
      ++ writeFields style level rest

end

/-- A value as text. -/
def write (style : Style) (value : Json) : String :=
  String.ofList (writeAt style 0 value)

end ExpectFile.Json
