import ExpectFile.Decimal.Binary64
import ExpectFile.Text.Digits

/-!
# Shortest decimal text

The fewest digits that read back as a given binary64 number, and of those the nearest to it. The
numbers that read back form an interval around the number, its ends included when the significand
is even. For one digit, two digits and so on up to seventeen, the two neighbours of the number on
the grid of that many digits are tried; the first grid with a neighbour in the interval is taken.
-/

namespace ExpectFile.Decimal

open Text

/-- A decimal number: `digits * 10 ^ exponent`. -/
structure Scaled where
  digits : Nat
  exponent : Int
deriving DecidableEq

/-- A number over a common denominator, with the ends of the interval of what reads back as it. -/
structure Surroundings where
  low : Nat
  value : Nat
  high : Nat
  den : Nat
  inclusive : Bool

/-- The surroundings of `m * 2 ^ e`. The gap below a power of two is half the gap above it. -/
def surroundings (m : Nat) (e : Int) : Surroundings :=
  let below := if m = twoTo 52 ∧ leastExponent < e then 1 else 2
  let up := twoTo e.toNat
  { low := (4 * m - below) * up, value := 4 * m * up, high := (4 * m + 2) * up,
    den := 4 * twoTo (-e).toNat, inclusive := m % 2 = 0 }

/-- Whether `digits * 10 ^ exponent` lies in the interval. -/
def Surroundings.holds (s : Surroundings) (d : Scaled) : Bool :=
  let num := d.digits * tenTo d.exponent.toNat * s.den
  let den := tenTo (-d.exponent).toNat
  if s.inclusive then s.low * den ≤ num && num ≤ s.high * den
  else s.low * den < num && num < s.high * den

/-- The neighbour of the number on the grid of spacing `10 ^ exponent` that reads back, the nearer
one if both do, and of two equally near the even one. -/
def Surroundings.onGrid (s : Surroundings) (exponent : Int) : Option Scaled :=
  let num := s.value * tenTo (-exponent).toNat
  let den := s.den * tenTo exponent.toNat
  let below : Scaled := ⟨num / den, exponent⟩
  let above : Scaled := ⟨num / den + 1, exponent⟩
  match s.holds below, s.holds above with
  | true, true => if roundQuotient num den = num / den then some below else some above
  | true, false => some below
  | false, true => some above
  | false, false => none

/-- The exponent of the leading digit of `num / den`, found by counting digits. -/
def leadingExponent (num den : Nat) : Int :=
  let guess : Int := Int.ofNat (decimal num).length - Int.ofNat (decimal den).length
  if num * tenTo (-guess).toNat < den * tenTo guess.toNat then guess - 1 else guess

/-- The decimal number without the zeros at the end of its digits. -/
def Scaled.reduced : (fuel : Nat) → Scaled → Scaled
  | 0, d => d
  | fuel + 1, d =>
    if d.digits ≠ 0 ∧ d.digits % 10 = 0 then Scaled.reduced fuel ⟨d.digits / 10, d.exponent + 1⟩
    else d

/-- The shortest decimal number that reads back as the positive number `m * 2 ^ e`. -/
def shortest (m : Nat) (e : Int) : Scaled :=
  let s := surroundings m e
  let leading := leadingExponent s.value s.den
  let found := (List.range 17).findSome? fun (n : Nat) => s.onGrid (leading - Int.ofNat n)
  (found.getD ⟨0, 0⟩).reduced 17

/-- How a number is laid out: which exponents of the leading digit are written without an exponent
part, and whether a whole number keeps a point and a zero. -/
structure Layout where
  least : Int
  greatest : Int
  keepsPoint : Bool

/-- Numbers from 0.0001 up to below 10^16 are written without an exponent. -/
def Layout.plain : Layout := ⟨-4, 15, true⟩

/-- As `plain`, but a whole number is written without a point. -/
def Layout.bare : Layout := ⟨-4, 15, false⟩

/-- The exponent part: its sign and at least two digits. -/
def exponentPart (e : Int) : List Char :=
  let digits := decimal e.natAbs
  'e' :: (if e < 0 then '-' else '+') :: (if digits.length < 2 then '0' :: digits else digits)

/-- A decimal number laid out. -/
def Layout.write (layout : Layout) (d : Scaled) : List Char :=
  let digits := decimal d.digits
  let count := Int.ofNat digits.length
  let leading := if d.digits = 0 then 0 else d.exponent + count - 1
  let whole := fun (text : List Char) => if layout.keepsPoint then text ++ ['.', '0'] else text
  if layout.least ≤ leading ∧ leading ≤ layout.greatest then
    if 0 ≤ d.exponent ∨ d.digits = 0 then whole (digits ++ List.replicate d.exponent.toNat '0')
    else if leading < 0 then
      ['0', '.'] ++ List.replicate (-leading - 1).toNat '0' ++ digits
    else
      digits.take (leading + 1).toNat ++ ['.'] ++ digits.drop (leading + 1).toNat
  else
    match digits with
    | first :: second :: rest => first :: '.' :: second :: rest ++ exponentPart leading
    | short => short ++ exponentPart leading

/-- The shortest text of a magnitude; `infinite` is the text for what is too large. -/
def Magnitude.text (layout : Layout) (infinite : String) : Magnitude → List Char
  | .infinite => infinite.toList
  | .finite m e => if m = 0 then layout.write ⟨0, 0⟩ else layout.write (shortest m e)

end ExpectFile.Decimal
