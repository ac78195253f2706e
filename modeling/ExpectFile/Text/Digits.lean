import ExpectFile.Text.Hex

/-!
# Decimal digits

Whole numbers as they are written: without leading zeros, a minus sign in front of the negative
ones.
-/

namespace ExpectFile.Text

/-- The digits of `n`, when `fuel` is above their number. -/
def decimalFrom : (fuel : Nat) → (n : Nat) → List Char
  | 0, _ => []
  | fuel + 1, n => (if n < 10 then [] else decimalFrom fuel (n / 10)) ++ [hexDigit (n % 10)]

/-- The decimal digits of a number. A number has fewer digits than units, zero apart. -/
def decimal (n : Nat) : List Char := decimalFrom (n + 1) n

/-- A whole number as text. -/
def integer (n : Int) : List Char :=
  if n < 0 then '-' :: decimal n.natAbs else decimal n.natAbs

end ExpectFile.Text
