import ExpectFile.Grammar.Expr
import ExpectFile.Text.Quoted
import ExpectFile.Unicode.Name

/-!
# Decoding literals

What a literal denotes. A backslash begins an escape: a control character by a letter, a character
by its number in base eight or sixteen or by its name, nothing at all at the end of a line. Other
characters after a backslash are kept together with it. In raw literals a backslash stands for
itself. Literals of bytes hold ASCII alone, and know neither names nor the longer numbers.
-/

namespace ExpectFile.Grammar

open Text

/-- The character that a letter after a backslash stands for. -/
def controlEscape? (c : Char) : Option Char :=
  match c with
  | 'a' => some '\x07'
  | 'b' => some '\x08'
  | 'f' => some '\x0c'
  | 'n' => some '\n'
  | 'r' => some '\r'
  | 't' => some '\t'
  | 'v' => some '\x0b'
  | _ => if c = '\\' ∨ c = apostrophe ∨ c = doubleQuote then some c else none

/-- The character of a number. A surrogate is no character and is replaced by U+FFFD. -/
def characterOf (n : Nat) : Char :=
  if 0xd800 ≤ n ∧ n < 0xe000 then '\ufffd' else Char.ofNat n

/-- The number that the first `width` characters denote in base sixteen, and what follows. -/
def hexNumber? (width : Nat) (text : List Char) : Option (Nat × List Char) :=
  let digits := text.take width
  if digits.length = width ∧ digits.all (isDigitOf 16) then
    some (readDigits 16 digits, text.drop width)
  else none

/-- The number that up to three characters denote in base eight, and what follows. -/
def octalNumber (text : List Char) : Nat × List Char :=
  let digits := (text.take 3).takeWhile (isDigitOf 8)
  (readDigits 8 digits, text.drop digits.length)

/-- A character by its name in braces. -/
def namedCharacter? : List Char → Option (Char × List Char)
  | '\x7b' :: rest =>
    match rest.dropWhile (· != '\x7d') with
    | [] => none
    | _ :: after => (Unicode.named? (rest.takeWhile (· != '\x7d'))).map fun c => (c, after)
  | _ => none

/-- The text that an escape denotes, given what follows its backslash. -/
def escape? : List Char → Option (List Char × List Char)
  | [] => some (['\\'], [])
  | c :: rest =>
    if c = '\n' then some ([], rest)
    else match controlEscape? c with
      | some control => some ([control], rest)
      | none =>
        if isDigitOf 8 c then
          let (n, after) := octalNumber (c :: rest)
          some ([Char.ofNat n], after)
        else if c = 'x' then (hexNumber? 2 rest).map fun (n, after) => ([Char.ofNat n], after)
        else if c = 'u' then (hexNumber? 4 rest).map fun (n, after) => ([characterOf n], after)
        else if c = 'U' then
          match hexNumber? 8 rest with
          | some (n, after) => if n ≤ 0x10ffff then some ([characterOf n], after) else none
          | none => none
        else if c = 'N' then (namedCharacter? rest).map fun (d, after) => ([d], after)
        else some (['\\', c], rest)

/-- The text that a body denotes. An escape takes a character at least, so the length of the body
is fuel enough. -/
def decodeFrom : (fuel : Nat) → List Char → Option (List Char)
  | _, [] => some []
  | 0, _ => none
  | fuel + 1, c :: rest =>
    if c = '\\' then do
      let (text, after) ← escape? rest
      (decodeFrom fuel after).map (text ++ ·)
    else (decodeFrom fuel rest).map (c :: ·)

/-- The text that the body of a literal denotes. -/
def decodeText (raw : Bool) (body : List Char) : Option (List Char) :=
  if raw then some body else decodeFrom body.length body

/-- The bytes that an escape denotes, given what follows its backslash. -/
def byteEscape? : List Char → Option (List UInt8 × List Char)
  | [] => some ([0x5c], [])
  | c :: rest =>
    if c = '\n' then some ([], rest)
    else match controlEscape? c with
      | some control => some ([control.toNat.toUInt8], rest)
      | none =>
        if isDigitOf 8 c then
          let (n, after) := octalNumber (c :: rest)
          some ([n.toUInt8], after)
        else if c = 'x' then (hexNumber? 2 rest).map fun (n, after) => ([n.toUInt8], after)
        else some ([0x5c, c.toNat.toUInt8], rest)

/-- The bytes that a body denotes. -/
def decodeBytesFrom : (fuel : Nat) → List Char → Option (List UInt8)
  | _, [] => some []
  | 0, _ => none
  | fuel + 1, c :: rest =>
    if c = '\\' then do
      let (bytes, after) ← byteEscape? rest
      (decodeBytesFrom fuel after).map (bytes ++ ·)
    else (decodeBytesFrom fuel rest).map (c.toNat.toUInt8 :: ·)

/-- The bytes that the body of a literal denotes. -/
def decodeBytes (raw : Bool) (body : List Char) : Option (List UInt8) :=
  if body.any (fun c => 0x80 ≤ c.toNat) then none
  else if raw then some (body.map fun c => c.toNat.toUInt8)
  else decodeBytesFrom body.length body

end ExpectFile.Grammar
