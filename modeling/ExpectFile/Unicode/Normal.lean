import ExpectFile.Unicode.Decomposition

/-!
# Normalization form KC

Two spellings of one name are the same name: a name is kept in normalization form KC. The form is
computed in the three passes of the standard: every character is decomposed, runs of combining
marks are put in the order of their classes, and pairs are composed again.
-/

namespace ExpectFile.Unicode

open Text

/-! ## Hangul

A syllable is composed of a leading consonant, a vowel and perhaps a trailing consonant, by
arithmetic on the four base points. -/

/-- The parts of a Hangul syllable. -/
def hangulParts? (n : Nat) : Option (List Nat) :=
  if 0xac00 ≤ n ∧ n < 0xac00 + 11172 then
    let s := n - 0xac00
    let trailing := s % 28
    some ([0x1100 + s / 588, 0x1161 + s % 588 / 28]
      ++ if trailing = 0 then [] else [0x11a7 + trailing])
  else none

/-- The syllable that two Hangul characters compose to. -/
def hangulPair? (a b : Nat) : Option Nat :=
  if 0x1100 ≤ a ∧ a < 0x1113 ∧ 0x1161 ≤ b ∧ b < 0x1176 then
    some (0xac00 + ((a - 0x1100) * 21 + (b - 0x1161)) * 28)
  else if 0xac00 ≤ a ∧ a < 0xac00 + 11172 ∧ (a - 0xac00) % 28 = 0 ∧ 0x11a7 < b ∧ b < 0x11c3 then
    some (a + (b - 0x11a7))
  else none

/-! ## The three passes -/

/-- The full compatibility decomposition of a character. -/
def decomposition (n : Nat) : List Nat :=
  match hangulParts? n with
  | some parts => parts
  | none =>
    match decompositionBlocks.values n with
    | value :: _ => (pieces '.' value).map (readDigits 16)
    | [] => [n]

/-- The combining class, zero for a character that begins a run. -/
def combiningClass (n : Nat) : Nat :=
  match combiningBlocks.values n with
  | value :: _ => readDigits 16 value
  | [] => 0

/-- Moves a mark behind the marks of lower class that follow it. -/
def placeMark (n : Nat) : List Nat → List Nat
  | [] => [n]
  | m :: rest =>
    if combiningClass m ≠ 0 ∧ combiningClass m < combiningClass n then m :: placeMark n rest
    else n :: m :: rest

/-- Puts every run of marks in the order of their classes; marks of one class keep their order. -/
def reorder (text : List Nat) : List Nat :=
  text.foldr placeMark []

/-- The character that two characters compose to. -/
def composition? (a b : Nat) : Option Nat :=
  match hangulPair? a b with
  | some n => some n
  | none =>
    (compositionBlocks.values a).findSome? fun value =>
      match pieces '.' value with
      | [second, composed] =>
        if readDigits 16 second = b then some (readDigits 16 composed) else none
      | _ => none

/-- Composes what follows the starter. The marks since the starter that did not compose are kept
in `marks`; one of them blocks every later character of its class or a lower one. -/
def composeFrom (starter : Nat) (marks : List Nat) (lastClass : Nat) : List Nat → List Nat
  | [] => starter :: marks
  | n :: rest =>
    let ownClass := combiningClass n
    let composed := if marks.isEmpty ∨ lastClass < ownClass then composition? starter n else none
    match composed with
    | some m => composeFrom m marks lastClass rest
    | none =>
      if ownClass = 0 then starter :: (marks ++ composeFrom n [] 0 rest)
      else composeFrom starter (marks ++ [n]) ownClass rest

/-- Composes every pair that is not blocked. -/
def compose : List Nat → List Nat
  | [] => []
  | n :: rest => if combiningClass n = 0 then composeFrom n [] 0 rest else n :: compose rest

/-- The normal form of a name. ASCII text is its own normal form. -/
def normalForm (text : List Char) : List Char :=
  if text.all (·.toNat < 0x80) then text
  else (compose (reorder (text.flatMap fun c => decomposition c.toNat))).map Char.ofNat

end ExpectFile.Unicode
