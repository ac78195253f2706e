import ExpectFile.Grammar.Number

/-!
# How numbers are cut off

A number is read in steps, each of which takes some characters off the front of the text: the digits,
the point and the fraction, the exponent, the letter of an imaginary number. What is left at the end
has to be something that may follow a number.

* **`decimalNumber_eq`** — the steps of a number in base ten.
* **`number?_suffix`** — a number takes its first character, and goes on from there.
-/

namespace ExpectFile.Grammar

open Text

/-! ## Digits -/

/-- A digit in front is part of the run. -/
theorem digitRun_of_digit {isDigit : Char → Bool} (hc : isDigit c = true) (rest : List Char) :
    digitRun isDigit (c :: rest)
      = (digitRun isDigit rest).map fun run => (c :: run.1, run.2) := by
  rw [digitRun.eq_def]
  exact if_pos hc

/-- A run ends in front of any other character, but for an underscore with a digit behind it. -/
theorem digitRun_of_not_digit {isDigit : Char → Bool} (hc : ¬isDigit c = true) (rest : List Char) :
    digitRun isDigit (c :: rest) = if c = '_' then
        match rest with
        | d :: _ => if isDigit d then digitRun isDigit rest else none
        | [] => none
      else some ([], c :: rest) := by
  rw [digitRun.eq_def]
  exact if_neg hc

/-- A run of digits takes characters off the front. Induction along its equations. -/
theorem digitRun_suffix {isDigit : Char → Bool} {text digits rest : List Char}
    (h : digitRun isDigit text = some (digits, rest)) : rest <:+ text := by
  fun_induction digitRun isDigit text generalizing digits rest with
  | case1 =>
    cases h
    exact List.suffix_refl []
  | case2 c others _ ih =>
    obtain ⟨run, hrun, heq⟩ := Option.map_eq_some_iff.mp h
    cases heq
    exact (ih hrun).trans (List.suffix_cons c others)
  | case3 c d others hdigit ih => exact (ih h).trans (List.suffix_cons _ _)
  | case4 => cases h
  | case5 => cases h
  | case6 c others _ _ =>
    cases h
    exact List.suffix_refl _

/-- So does a number in another base, which is a run of its digits. -/
theorem basedNumber_suffix {base : Nat} {text rest : List Char} {value : Numeral}
    (h : basedNumber base text = some (value, rest)) : rest <:+ text := by
  obtain ⟨⟨digits, after⟩, hdigits, h⟩ := Option.bind_eq_some_iff.mp h
  obtain ⟨-, h⟩ := Option.ite_none_left_eq_some.mp h
  cases h
  exact digitRun_suffix hdigits

/-- So does whatever is made of a run and leaves what it leaves. -/
theorem map_digitRun_suffix {α : Type} {isDigit : Char → Bool} {text : List Char}
    {f : List Char × List Char → α × List Char} {result : α × List Char}
    (h : (digitRun isDigit text).map f = some result) (hrest : ∀ run, (f run).2 = run.2) :
    result.2 <:+ text := by
  obtain ⟨run, hrun, rfl⟩ := Option.map_eq_some_iff.mp h
  rw [hrest run]
  exact digitRun_suffix hrun

/-- An exponent takes characters off the front, or there is none. -/
theorem exponentRun_suffix {text rest : List Char} {value : Option Int}
    (h : exponentRun text = some (value, rest)) : rest <:+ text := by
  unfold exponentRun at h
  dsimp only at h
  -- the digits stand behind the letter, or behind the letter and a sign
  repeat' split at h
  all_goals first
    | (cases h; exact List.suffix_refl _)
    | cases h
    | exact (map_digitRun_suffix h fun _ => rfl).trans (List.suffix_cons _ _)
    | exact ((map_digitRun_suffix h fun _ => rfl).trans (List.suffix_cons _ _)).trans
        (List.suffix_cons _ _)

/-- So does a fraction. -/
theorem fractionRun_suffix {text digits rest : List Char}
    (h : fractionRun text = some (digits, rest)) : rest <:+ text := by
  unfold fractionRun at h
  repeat' split at h
  all_goals first
    | exact digitRun_suffix h
    | (cases h; exact List.suffix_refl _)

/-! ## Numbers in base ten -/

/-- The point and the fraction of a number, if there are. -/
def pointRun (text : List Char) : Option ((Bool × List Char) × List Char) :=
  match text with
  | '.' :: after => (fractionRun after).map fun run => ((true, run.1), run.2)
  | _ => some ((false, []), text)

/-- The letter of an imaginary number, if there is one. -/
def imaginaryRun (text : List Char) : Option (Bool × List Char) :=
  match text with
  | 'j' :: after => some (true, after)
  | 'J' :: after => some (true, after)
  | _ => some (false, text)

/-- The end of a number in base ten, given what it is made of. -/
def numberEnd (whole fraction : List Char) (hasPoint isImaginary : Bool) (exponent : Option Int)
    (rest : List Char) : Option (Numeral × List Char) :=
  let magnitude := Decimal.ofDecimal (readDigits 10 (whole ++ fraction))
    (exponent.getD 0 - Int.ofNat fraction.length)
  if !endsNumber rest then none
  else if isImaginary then some (.imaginary magnitude, rest)
  else if hasPoint || exponent.isSome then some (.real magnitude, rest)
  else if whole.head? == some '0' && whole.any (· != '0') then
    if rest.head? == some 'e' then some (.real magnitude, rest) else none
  else if mostDigits < whole.length ∧ whole.any (· != '0') then none
  else some (.whole (readDigits 10 whole), rest)

/-- **A number in base ten, step by step.** Each step goes on from what the one before left. -/
theorem decimalNumber_eq (text : List Char) : decimalNumber text =
    (digitRun Char.isDigit text >>= fun whole => pointRun whole.2 >>= fun point =>
      exponentRun point.2 >>= fun exponent => imaginaryRun exponent.2 >>= fun imaginary =>
        numberEnd whole.1 point.1.2 point.1.1 imaginary.1 exponent.1 imaginary.2) := by
  unfold decimalNumber
  refine Option.bind_congr fun run hrun => ?_
  clear hrun
  obtain ⟨whole, rest⟩ := run
  -- both branches go on in the same way behind the fraction
  have hend : ∀ (hasPoint : Bool) (fraction rest : List Char) (exponent : Option Int),
      (fun imaginary : Bool × List Char =>
          numberEnd whole fraction hasPoint imaginary.1 exponent imaginary.2)
        (match rest with
          | 'j' :: after => (true, after)
          | 'J' :: after => (true, after)
          | _ => (false, rest))
      = (imaginaryRun rest >>= fun imaginary =>
          numberEnd whole fraction hasPoint imaginary.1 exponent imaginary.2) := by
    intro hasPoint fraction rest exponent
    unfold imaginaryRun
    split <;> rfl
  dsimp only
  split
  next after =>
    change _ = ((fractionRun after).map (fun run => ((true, run.1), run.2)) >>= _)
    cases fractionRun after with
    | none => rfl
    | some run => exact Option.bind_congr fun _ _ => hend true run.1 _ _
  next hpoint =>
    have hrun : pointRun rest = some ((false, []), rest) := by
      unfold pointRun
      split
      next after => exact (hpoint after rfl).elim
      next => rfl
    rw [hrun]
    exact Option.bind_congr fun _ _ => hend false [] _ _

/-- The point and the fraction take characters off the front; the point is one of them, if it is
there. -/
theorem pointRun_suffix {text rest : List Char} {point : Bool × List Char}
    (h : pointRun text = some (point, rest)) :
    rest <:+ text ∧ ∀ after, text = '.' :: after → rest <:+ after := by
  unfold pointRun at h
  split at h
  · rename_i after
    obtain ⟨run, hrun, heq⟩ := Option.map_eq_some_iff.mp h
    cases heq
    have hafter := fractionRun_suffix hrun
    refine ⟨hafter.trans (List.suffix_cons _ _), fun other heq => ?_⟩
    cases heq
    exact hafter
  · rename_i hpoint
    cases h
    exact ⟨List.suffix_refl _, fun after heq => absurd heq (hpoint after)⟩

/-- The letter of an imaginary number is one character or none. -/
theorem imaginaryRun_suffix {text rest : List Char} {isImaginary : Bool}
    (h : imaginaryRun text = some (isImaginary, rest)) : rest <:+ text := by
  unfold imaginaryRun at h
  split at h
  all_goals
    cases h
    first | exact List.suffix_refl _ | exact List.suffix_cons _ _

/-- At its end a number takes nothing more. -/
theorem eq_of_numberEnd {whole fraction text rest : List Char} {hasPoint isImaginary : Bool}
    {exponent : Option Int} {value : Numeral}
    (h : numberEnd whole fraction hasPoint isImaginary exponent text = some (value, rest)) :
    rest = text := by
  unfold numberEnd at h
  dsimp only at h
  repeat' split at h
  all_goals cases h
  all_goals rfl

/-- A number in base ten goes on behind its first digits, and behind the point if there is one. -/
theorem decimalNumber_suffix {text whole behind rest : List Char} {value : Numeral}
    (hwhole : digitRun Char.isDigit text = some (whole, behind))
    (h : decimalNumber text = some (value, rest)) :
    rest <:+ behind ∧ ∀ after, behind = '.' :: after → rest <:+ after := by
  rw [decimalNumber_eq, hwhole] at h
  obtain ⟨_, heq, h⟩ := Option.bind_eq_some_iff.mp h
  cases heq
  obtain ⟨⟨point, tail⟩, hpoint, h⟩ := Option.bind_eq_some_iff.mp h
  obtain ⟨⟨exponent, last⟩, hexponent, h⟩ := Option.bind_eq_some_iff.mp h
  obtain ⟨⟨isImaginary, left⟩, himaginary, h⟩ := Option.bind_eq_some_iff.mp h
  obtain rfl := eq_of_numberEnd h
  have hrest : rest <:+ tail :=
    (imaginaryRun_suffix himaginary).trans (exponentRun_suffix hexponent)
  obtain ⟨hbehind, hafter⟩ := pointRun_suffix hpoint
  exact ⟨hrest.trans hbehind, fun after heq => hrest.trans (hafter after heq)⟩

/-! ## All numbers -/

/-- A number that begins with a zero and a letter for its base. -/
theorem number?_cons (c : Char) (rest : List Char) : number? ('0' :: c :: rest) =
    if c = 'x' ∨ c = 'X' then basedNumber 16 rest
    else if c = 'o' ∨ c = 'O' then basedNumber 8 rest
    else if c = 'b' ∨ c = 'B' then basedNumber 2 rest
    else decimalNumber ('0' :: c :: rest) := rfl

/-- A number that does not begin with a zero is one in base ten. -/
theorem number?_of_ne {c : Char} (hc : c ≠ '0') (rest : List Char) :
    number? (c :: rest) = decimalNumber (c :: rest) := by
  unfold number?
  split
  next heq => exact absurd (List.cons.inj heq).1 hc
  next => rfl

/-- **A number takes its first character**, a digit or the point, and goes on from there. -/
theorem number?_suffix {c : Char} {others rest : List Char} {value : Numeral}
    (hc : c.isDigit = true ∨ c = '.') (h : number? (c :: others) = some (value, rest)) :
    rest <:+ others := by
  have hdecimal : decimalNumber (c :: others) = some (value, rest) → rest <:+ others := by
    intro h
    by_cases hdigit : c.isDigit = true
    · obtain ⟨⟨whole, behind⟩, hwhole, -⟩ := Option.bind_eq_some_iff.mp h
      have hrest := (decimalNumber_suffix hwhole h).1
      rw [digitRun_of_digit hdigit] at hwhole
      obtain ⟨run, hrun, heq⟩ := Option.map_eq_some_iff.mp hwhole
      cases heq
      exact hrest.trans (digitRun_suffix hrun)
    · obtain rfl := hc.resolve_left hdigit
      have hwhole : digitRun Char.isDigit ('.' :: others) = some ([], '.' :: others) := rfl
      exact (decimalNumber_suffix hwhole h).2 others rfl
  by_cases hzero : c = '0'
  · subst hzero
    cases others with
    | nil => exact hdecimal h
    | cons d others =>
      rw [number?_cons] at h
      repeat' split at h
      all_goals first
        | exact (basedNumber_suffix h).trans (List.suffix_cons _ _)
        | exact hdecimal h
  · rw [number?_of_ne hzero] at h
    exact hdecimal h

end ExpectFile.Grammar
