/-!
# Rounding to binary64

A decimal number in a program stands for the nearest binary64 number, the one with the even
significand when two are equally near. Only magnitudes are dealt with here; a sign is the business
of whoever wrote it. The computation is on exact integers.
-/

namespace ExpectFile.Decimal

/-- A power of two. -/
def twoTo (n : Nat) : Nat := Nat.pow 2 n

/-- A power of ten. -/
def tenTo (n : Nat) : Nat := Nat.pow 10 n

/-- The magnitude of a binary64 number: `significand * 2 ^ exponent`, or too large to be finite. -/
inductive Magnitude where
  | finite (significand : Nat) (exponent : Int)
  | infinite
deriving DecidableEq

/-- The least exponent of a binary64 number. -/
def leastExponent : Int := -1074

/-- The greatest exponent of a finite binary64 number with a full significand. -/
def greatestExponent : Int := 971

/-- The quotient rounded to the nearest integer, to the even one if two are equally near. -/
def roundQuotient (num den : Nat) : Nat :=
  let q := num / den
  let twice := 2 * (num % den)
  if twice < den then q
  else if den < twice then q + 1
  else if q % 2 = 0 then q else q + 1

/-- The quotient `num / den / 2 ^ e`, rounded. -/
def roundScaled (num den : Nat) (e : Int) : Nat :=
  if 0 ≤ e then roundQuotient num (den * twoTo e.toNat)
  else roundQuotient (num * twoTo (-e).toNat) den

/-- The magnitude nearest to a positive quotient. The first guess at the exponent leaves a
significand of 53 or 54 bits; in the second case the exponent is one more. -/
def ofQuotient (num den : Nat) : Magnitude :=
  let guess : Int := Int.ofNat num.log2 - Int.ofNat den.log2 - 53
  let floor := fun (e : Int) =>
    if 0 ≤ e then num / (den * twoTo e.toNat) else num * twoTo (-e).toNat / den
  let fitted := if floor guess < twoTo 53 then guess else guess + 1
  let e := max fitted leastExponent
  let m := roundScaled num den e
  let (m, e) := if m = twoTo 53 then (twoTo 52, e + 1) else (m, e)
  if greatestExponent < e then .infinite else .finite m e

/-- The magnitude nearest to `digits * 10 ^ exponent`. Numbers far outside the range are decided by
their size alone, before any power is computed. -/
def ofDecimal (digits : Nat) (exponent : Int) : Magnitude :=
  if digits = 0 then .finite 0 leastExponent
  else
    let size := exponent + Int.ofNat (digits.log2 / 3)
    if 400 < exponent then .infinite
    else if size < -400 then .finite 0 leastExponent
    else if 0 ≤ exponent then ofQuotient (digits * tenTo exponent.toNat) 1
    else ofQuotient digits (tenTo (-exponent).toNat)

end ExpectFile.Decimal
