import ExpectFile.Json.Reader
import ExpectFile.Proofs.Text.DecimalDigits

/-!
# JSON numbers read back

A whole number is read from its digits, and a sign in front of them, if what follows does not go on
with it (`Ends`): no digit, no point, and no exponent.

* **`takeDigits_append`** — the digits end where the text ends them.
* **`readNumber_of_ends`** — without a fraction and an exponent, digits are a whole number.
* **`readNumber_integer`** — so a whole number is read from what is written for it.
-/

namespace ExpectFile.Json

open Text

/-- Whether nothing in a text goes on with a number in front of it. -/
def Ends (text : List Char) : Prop :=
  ∀ c ∈ text.head?, c.isDigit = false ∧ c ≠ '.' ∧ c ≠ 'e' ∧ c ≠ 'E'

theorem Ends.nil : Ends [] := nofun

theorem Ends.cons {c : Char} (h : c.isDigit = false ∧ c ≠ '.' ∧ c ≠ 'e' ∧ c ≠ 'E')
    (rest : List Char) : Ends (c :: rest) :=
  fun _ hd => Option.some.inj hd ▸ h

variable {rest : List Char}

/-- **Digits are taken as far as they go.** -/
theorem takeDigits_append {digits : List Char} (hdigits : ∀ c ∈ digits, c.isDigit = true)
    (h : Ends rest) : takeDigits (digits ++ rest) = (digits, rest) := by
  have hnone : rest.takeWhile Char.isDigit = [] ∧ rest.dropWhile Char.isDigit = rest := by
    cases rest with
    | nil => exact ⟨rfl, rfl⟩
    | cons c more =>
      have hc : ¬c.isDigit = true := by
        rw [(h c rfl).1]
        exact Bool.false_ne_true
      exact ⟨List.takeWhile_cons_of_neg hc, List.dropWhile_cons_of_neg hc⟩
  unfold takeDigits
  rw [List.takeWhile_append_of_pos hdigits, List.dropWhile_append_of_pos hdigits, hnone.1, hnone.2,
    List.append_nil]

theorem readFraction_of_ends (h : Ends rest) : readFraction rest = some ([], rest) := by
  unfold readFraction
  split
  · exact absurd rfl (h '.' rfl).2.1
  · rfl

theorem readExponent_of_ends (h : Ends rest) : readExponent rest = some (none, rest) := by
  cases rest with
  | nil => rfl
  | cons c more =>
    obtain ⟨-, -, hsmall, hlarge⟩ := h c rfl
    have hletter : ¬(c = 'e' ∨ c = 'E') := not_or.mpr ⟨hsmall, hlarge⟩
    unfold readExponent
    exact if_neg hletter

/-- **Digits are a whole number**, with a sign and without. That they do not begin with a zero that
could be left out is what the format asks for. -/
theorem readNumber_of_ends {first : Char} {others : List Char}
    (hdigits : ∀ c ∈ first :: others, c.isDigit = true) (hzero : first = '0' → others = [])
    (h : Ends rest) :
    readNumber (first :: others ++ rest)
        = some (.integer (readDigits 10 (first :: others)), rest)
      ∧ readNumber ('-' :: (first :: others) ++ rest)
        = some (.integer (-readDigits 10 (first :: others)), rest) := by
  have htake : takeDigits (first :: (others ++ rest)) = (first :: others, rest) :=
    takeDigits_append hdigits h
  have hwhole : ¬((first :: others).isEmpty = true
      ∨ (first :: others).head? = some '0' ∧ (first :: others).length ≠ 1) := by
    rintro (hnil | ⟨hhead, hlength⟩)
    · exact absurd hnil nofun
    · -- a zero in front is the only digit
      rw [hzero (Option.some.inj hhead)] at hlength
      exact hlength rfl
  have hsign : first ≠ '-' := by
    rintro rfl
    exact absurd (hdigits '-' List.mem_cons_self) (by decide)
  constructor
  · -- the reader looks for a sign first, so the first digit has to be told from one
    rw [List.cons_append, readNumber]
    · simp only [htake]
      rw [if_neg hwhole, readFraction_of_ends h]
      simp [readExponent_of_ends h]
    · intro _ heq
      exact hsign (List.cons.inj heq).1
  · unfold readNumber
    simp only [List.cons_append, htake]
    rw [if_neg hwhole, readFraction_of_ends h]
    simp [readExponent_of_ends h]

/-- **A whole number is read back.** -/
theorem readNumber_integer (n : Int) (h : Ends rest) :
    readNumber (Text.integer n ++ rest) = some (.integer n, rest) := by
  obtain ⟨first, others, hcons, hzero⟩ := exists_decimal_eq_cons n.natAbs
  have hdigits : ∀ c ∈ first :: others, c.isDigit = true :=
    hcons ▸ fun c => isDigit_of_mem_decimal
  have hvalue : readDigits 10 (first :: others) = n.natAbs := hcons ▸ readDigits_decimal n.natAbs
  obtain ⟨hplain, hsigned⟩ := readNumber_of_ends hdigits hzero h
  rw [hvalue] at hplain hsigned
  unfold Text.integer
  rw [hcons]
  split
  · have hn : -(n.natAbs : Int) = n := by omega
    rw [hsigned, hn]
  · have hn : (n.natAbs : Int) = n := by omega
    rw [hplain, hn]

/-- A whole number begins with its sign or with a digit. -/
theorem exists_integer_eq_cons (n : Int) :
    ∃ c more, Text.integer n = c :: more ∧ (c = '-' ∨ c.isDigit = true) := by
  unfold Text.integer
  split
  · exact ⟨'-', _, rfl, Or.inl rfl⟩
  · obtain ⟨first, others, hcons, -⟩ := exists_decimal_eq_cons n.natAbs
    exact ⟨first, others, hcons,
      Or.inr (isDigit_of_mem_decimal (hcons ▸ List.mem_cons_self))⟩

/-- A character that is neither a sign nor a digit begins no number. -/
theorem ne_of_begins_number {c d : Char} (hc : c = '-' ∨ c.isDigit = true)
    (hd : d ≠ '-' ∧ d.isDigit = false) : c ≠ d := by
  rintro rfl
  rcases hc with rfl | hdigit
  · exact hd.1 rfl
  · exact absurd (hdigit.symm.trans hd.2) nofun

end ExpectFile.Json
