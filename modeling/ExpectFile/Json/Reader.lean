import ExpectFile.Json

/-!
# Reading JSON

The value that a JSON text denotes. Nothing is skipped but white space, and nothing may follow the
value. Of two fields of one name the later gives the value. Surrogate escapes are read in pairs; a
surrogate that stands alone is no character and is read as U+FFFD.
-/

namespace ExpectFile.Json

open Text

/-- A reader takes a value off the front of a text. -/
abbrev Reader (α : Type) := List Char → Option (α × List Char)

/-- White space between the parts of a value. -/
def skipBlank (text : List Char) : List Char :=
  text.dropWhile fun c => c == ' ' || c == '\n' || c == '\r' || c == '\t'

/-- Takes one character off, after white space. -/
def takeMark (mark : Char) (text : List Char) : Option (List Char) :=
  match skipBlank text with
  | c :: rest => if c = mark then some rest else none
  | [] => none

/-- The four digits of an escape. -/
def readUnit : Reader Nat
  | a :: b :: c :: d :: rest =>
    if [a, b, c, d].all (isDigitOf 16) then some (readDigits 16 [a, b, c, d], rest) else none
  | _ => none

/-- The character of one unit, or of two if they are a surrogate pair. -/
def readUnits (text : List Char) : Option (Char × List Char) := do
  let (first, rest) ← readUnit text
  if 0xd800 ≤ first ∧ first < 0xdc00 then
    match rest with
    | '\\' :: 'u' :: more =>
      match readUnit more with
      | some (second, after) =>
        if 0xdc00 ≤ second ∧ second < 0xe000 then
          some (Char.ofNat (0x10000 + (first - 0xd800) * 0x400 + (second - 0xdc00)), after)
        else some ('\ufffd', rest)
      | none => some ('\ufffd', rest)
    | _ => some ('\ufffd', rest)
  else if 0xdc00 ≤ first ∧ first < 0xe000 then some ('\ufffd', rest)
  else some (Char.ofNat first, rest)

/-- The character after a backslash. -/
def readEscape : Reader Char
  | 'u' :: rest => readUnits rest
  | c :: rest =>
    if c = doubleQuote ∨ c = '\\' ∨ c = '/' then some (c, rest)
    else if c = 'n' then some ('\n', rest)
    else if c = 'r' then some ('\r', rest)
    else if c = 't' then some ('\t', rest)
    else if c = 'b' then some ('\x08', rest)
    else if c = 'f' then some ('\x0c', rest)
    else none
  | [] => none

/-- The rest of a string, its closing quotation mark included. -/
def readString : (fuel : Nat) → Reader (List Char)
  | 0, _ => none
  | _, [] => none
  | fuel + 1, c :: rest =>
    if c = doubleQuote then some ([], rest)
    else if c = '\\' then do
      let (d, after) ← readEscape rest
      let (more, after) ← readString fuel after
      some (d :: more, after)
    else if c.toNat < 0x20 then none
    else do
      let (more, after) ← readString fuel rest
      some (c :: more, after)

/-- The digits at the front of a text. -/
def takeDigits (text : List Char) : List Char × List Char :=
  (text.takeWhile Char.isDigit, text.dropWhile Char.isDigit)

/-- The fraction of a number, without its point. -/
def readFraction : List Char → Option (List Char × List Char)
  | '.' :: rest =>
    match takeDigits rest with
    | ([], _) => none
    | taken => some taken
  | rest => some ([], rest)

/-- The exponent of a number. -/
def readExponent : List Char → Option (Option Int × List Char)
  | c :: rest =>
    if c = 'e' ∨ c = 'E' then
      let (negative, rest) := match rest with
        | '-' :: after => (true, after)
        | '+' :: after => (false, after)
        | after => (false, after)
      match takeDigits rest with
      | ([], _) => none
      | (digits, after) =>
        let n := Int.ofNat (readDigits 10 digits)
        some (some (if negative then -n else n), after)
    else some (none, c :: rest)
  | [] => some (none, [])

/-- A number. Without a fraction and an exponent it is a whole number. -/
def readNumber (text : List Char) : Option (Json × List Char) := do
  let (negative, text) := match text with
    | '-' :: rest => (true, rest)
    | rest => (false, rest)
  let (whole, rest) := takeDigits text
  if whole.isEmpty ∨ (whole.head? = some '0' ∧ whole.length ≠ 1) then none
  else
    let (fraction, rest) ← readFraction rest
    let (exponent, rest) ← readExponent rest
    let digits := readDigits 10 (whole ++ fraction)
    if fraction.isEmpty ∧ exponent.isNone then
      let n := Int.ofNat digits
      some (.integer (if negative then -n else n), rest)
    else
      let scale := exponent.getD 0 - Int.ofNat fraction.length
      some (.decimal negative (Decimal.ofDecimal digits scale), rest)

/-- A field set in an object: a name that is there keeps its place. -/
def setField (fields : List (String × Json)) (name : String) (value : Json) :
    List (String × Json) :=
  if fields.any fun field => field.1 == name then
    fields.map fun field => if field.1 == name then (name, value) else field
  else fields ++ [(name, value)]

/-- The items of an array up to its closing bracket. -/
def readItems (item : Reader Json) : (fuel : Nat) → (read : List Json) → Reader (List Json)
  | 0, _, _ => none
  | fuel + 1, read, text => do
    let (value, rest) ← item text
    match skipBlank rest with
    | ',' :: after => readItems item fuel (value :: read) after
    | ']' :: after => some ((value :: read).reverse, after)
    | _ => none

/-- The fields of an object up to its closing brace. -/
def readFields (item : Reader Json) :
    (fuel : Nat) → (read : List (String × Json)) → Reader (List (String × Json))
  | 0, _, _ => none
  | fuel + 1, read, text => do
    let rest ← takeMark doubleQuote text
    let (name, rest) ← readString (rest.length + 1) rest
    let rest ← takeMark ':' rest
    let (value, rest) ← item rest
    let fields := setField read (String.ofList name) value
    match skipBlank rest with
    | ',' :: after => readFields item fuel fields after
    | '\x7d' :: after => some (fields, after)
    | _ => none

/-- A word such as `null` at the front of a text. -/
def readWord (word : String) (value : Json) (text : List Char) : Option (Json × List Char) :=
  if word.toList.isPrefixOf text then some (value, text.drop word.length) else none

/-- One value, given a reader for the values inside it. -/
def readValue (item : Reader Json) (text : List Char) : Option (Json × List Char) :=
  match skipBlank text with
  | [] => none
  | c :: rest =>
    if c = doubleQuote then do
      let (content, after) ← readString (rest.length + 1) rest
      some (.string (String.ofList content), after)
    else if c = '[' then
      match takeMark ']' rest with
      | some after => some (.array [], after)
      | none => do
        let (items, after) ← readItems item (rest.length + 1) [] rest
        some (.array items, after)
    else if c = '\x7b' then
      match takeMark '\x7d' rest with
      | some after => some (.object [], after)
      | none => do
        let (fields, after) ← readFields item (rest.length + 1) [] rest
        some (.object fields, after)
    else if c = 'n' then readWord "null" .null (c :: rest)
    else if c = 't' then readWord "true" (.bool true) (c :: rest)
    else if c = 'f' then readWord "false" (.bool false) (c :: rest)
    else readNumber (c :: rest)

/-- A value that is nested at most `depth` levels deep. -/
def readNested : (depth : Nat) → Reader Json
  | 0 => fun _ => none
  | depth + 1 => fun text => readValue (readNested depth) text

/-- The value that a text denotes. A text is longer than the nesting of its value. -/
def read? (text : String) : Option Json :=
  let chars := text.toList
  match readNested (chars.length + 1) chars with
  | some (value, rest) => if (skipBlank rest).isEmpty then some value else none
  | none => none

end ExpectFile.Json
