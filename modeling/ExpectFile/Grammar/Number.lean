import ExpectFile.Grammar.Token
import ExpectFile.Text.Hex

/-!
# Numbers

The number at the front of a text: whole numbers in base two, eight, ten and sixteen, numbers with
a fraction or an exponent, and imaginary ones. Underscores may stand between digits. A decimal
number with a leading zero is refused, unless a fraction, an exponent or the imaginary unit makes
it more than a whole number. What follows a number must not read as a part of it; only the
keywords that may stand after an operand may follow at once.
-/

namespace ExpectFile.Grammar

open Text

/-- A character that a name may hold, as far as cutting the text into tokens goes. -/
def isWordChar (c : Char) : Bool :=
  c.isAlphanum || c == '_' || 0x80 ≤ c.toNat

/-- The digits at the front of a text, with single underscores between them or in front. Refused
if an underscore is not followed by a digit. -/
def digitRun (isDigit : Char → Bool) : List Char → Option (List Char × List Char)
  | [] => some ([], [])
  | c :: rest =>
    if isDigit c then (digitRun isDigit rest).map fun run => (c :: run.1, run.2)
    else if c = '_' then
      match rest with
      | d :: _ => if isDigit d then digitRun isDigit rest else none
      | [] => none
    else some ([], c :: rest)

/-- The beginnings of words that may follow a number without a space. -/
def followingWords : List String := ["and", "else", "for", "if", "in", "is", "not", "or"]

/-- Whether a number may end in front of this text. -/
def endsNumber (rest : List Char) : Bool :=
  match rest with
  | [] => true
  | c :: _ => !isWordChar c || followingWords.any fun word => word.toList.isPrefixOf rest

/-- The most digits that a whole number in base ten may have. -/
def mostDigits : Nat := 4300

/-- A number in a base other than ten, after its two opening characters. -/
def basedNumber (base : Nat) (text : List Char) : Option (Numeral × List Char) := do
  let (digits, rest) ← digitRun (isDigitOf base) text
  let digitFollows : Bool := match rest with
    | c :: _ => c.isDigit
    | [] => false
  if digits.isEmpty || digitFollows || !endsNumber rest then none
  else some (.whole (readDigits base digits), rest)

/-- The exponent after a significand, if one follows. A letter `e` that begins no exponent is left
in place. -/
def exponentRun (text : List Char) : Option (Option Int × List Char) :=
  match text with
  | c :: rest =>
    if c = 'e' ∨ c = 'E' then
      let signed := fun (negative : Bool) (digits : List Char) =>
        let n := Int.ofNat (readDigits 10 digits)
        some (if negative then -n else n)
      match rest with
      | d :: after =>
        if d = '+' ∨ d = '-' then
          match after with
          | f :: _ =>
            if f.isDigit then
              (digitRun Char.isDigit after).map fun run => (signed (d == '-') run.1, run.2)
            else none
          | [] => none
        else if d.isDigit then
          (digitRun Char.isDigit rest).map fun run => (signed false run.1, run.2)
        else some (none, text)
      | [] => some (none, text)
    else some (none, text)
  | [] => some (none, [])

/-- The fraction after a point: digits, perhaps none. -/
def fractionRun (text : List Char) : Option (List Char × List Char) :=
  match text with
  | c :: _ => if c.isDigit then digitRun Char.isDigit text else some ([], text)
  | [] => some ([], [])

/-- A number in base ten, from its first digit or its point on. -/
def decimalNumber (text : List Char) : Option (Numeral × List Char) := do
  let (whole, rest) ← digitRun Char.isDigit text
  let (hasPoint, fraction, rest) ←
    match rest with
    | '.' :: after => (fractionRun after).map fun run => (true, run.1, run.2)
    | _ => some (false, [], rest)
  let (exponent, rest) ← exponentRun rest
  let (isImaginary, rest) :=
    match rest with
    | 'j' :: after => (true, after)
    | 'J' :: after => (true, after)
    | _ => (false, rest)
  let isReal := hasPoint || exponent.isSome
  let hasLeadingZero := whole.head? == some '0' && whole.any (· != '0')
  let leftLetter := rest.head? == some 'e'
  let magnitude := Decimal.ofDecimal (readDigits 10 (whole ++ fraction))
    (exponent.getD 0 - Int.ofNat fraction.length)
  if !endsNumber rest then none
  else if isImaginary then some (.imaginary magnitude, rest)
  else if isReal then some (.real magnitude, rest)
  else if hasLeadingZero then
    -- in front of the word `else` the zero passes, and the number is not a whole one
    if leftLetter then some (.real magnitude, rest) else none
  else if mostDigits < whole.length ∧ whole.any (· != '0') then none
  else some (.whole (readDigits 10 whole), rest)

/-- The number at the front of a text that begins with a digit, or with a point and a digit. -/
def number? : List Char → Option (Numeral × List Char)
  | '0' :: c :: rest =>
    if c = 'x' ∨ c = 'X' then basedNumber 16 rest
    else if c = 'o' ∨ c = 'O' then basedNumber 8 rest
    else if c = 'b' ∨ c = 'B' then basedNumber 2 rest
    else decimalNumber ('0' :: c :: rest)
  | text => decimalNumber text

end ExpectFile.Grammar
