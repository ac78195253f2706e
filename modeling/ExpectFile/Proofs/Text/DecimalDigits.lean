import ExpectFile.Proofs.Text.HexDigits
import ExpectFile.Text.Digits

/-!
# Decimal digits read back

* **`readDigits_decimal`** — the digits of a number denote it.
* **`isDigit_of_mem_decimal`** — and nothing but digits is written.
* **`exists_decimal_eq_cons`** — no zero stands in front, but in zero itself.

All three go along the recursion of `decimalFrom`, which stops in front of the first digit; a number
is fuel enough for its own digits.
-/

namespace ExpectFile.Text

/-! ## One digit -/

theorem isDigit_hexDigit {d : Nat} (h : d < 10) : (hexDigit d).isDigit = true := by
  have hall : ∀ d < 10, (hexDigit d).isDigit = true := by decide
  exact hall d h

theorem hexDigit_ne_zero {d : Nat} (h : d < 10) (hpos : 0 < d) : hexDigit d ≠ '0' := by
  have hall : ∀ d < 10, 0 < d → hexDigit d ≠ '0' := by decide
  exact hall d h hpos

/-! ## All digits -/

variable {fuel n : Nat}

/-- A number of one digit. -/
theorem decimalFrom_of_lt (h : n < 10) : decimalFrom (fuel + 1) n = [hexDigit n] := by
  rw [decimalFrom, if_pos h, Nat.mod_eq_of_lt h]
  rfl

/-- A number of more digits is one with a digit less, and the last digit. -/
theorem decimalFrom_of_le (h : 10 ≤ n) :
    decimalFrom (fuel + 1) n = decimalFrom fuel (n / 10) ++ [hexDigit (n % 10)] := by
  have hmany : ¬n < 10 := by omega
  rw [decimalFrom, if_neg hmany]

theorem readDigits_decimalFrom (h : n < fuel) : readDigits 10 (decimalFrom fuel n) = n := by
  induction fuel generalizing n with
  | zero => exact absurd h (Nat.not_lt_zero n)
  | succ fuel ih =>
    by_cases hone : n < 10
    · have hdigit : n < 16 := by omega
      rw [decimalFrom_of_lt hone, ← List.nil_append [hexDigit n], readDigits_concat,
        digitValue?_hexDigit hdigit]
      exact Nat.zero_add n
    · have hdigit : n % 10 < 16 := by omega
      rw [decimalFrom_of_le (by omega), readDigits_concat, ih (by omega),
        digitValue?_hexDigit hdigit, Option.getD_some]
      omega

/-- **The digits of a number denote it.** -/
theorem readDigits_decimal (n : Nat) : readDigits 10 (decimal n) = n :=
  readDigits_decimalFrom (Nat.lt_succ_self n)

theorem isDigit_of_mem_decimalFrom {c : Char} (h : c ∈ decimalFrom fuel n) :
    c.isDigit = true := by
  induction fuel generalizing n with
  | zero => exact absurd h List.not_mem_nil
  | succ fuel ih =>
    have hlast : (hexDigit (n % 10)).isDigit = true :=
      isDigit_hexDigit (Nat.mod_lt n (by decide))
    rw [decimalFrom, List.mem_append, List.mem_singleton] at h
    rcases h with hfront | rfl
    · split at hfront
      · exact absurd hfront List.not_mem_nil
      · exact ih hfront
    · exact hlast

/-- **Nothing but digits is written.** -/
theorem isDigit_of_mem_decimal {c : Char} (h : c ∈ decimal n) : c.isDigit = true :=
  isDigit_of_mem_decimalFrom h

/-- The first digit of a number that is not zero is not zero. -/
theorem exists_decimalFrom_eq_cons (h : n < fuel) (hpos : 0 < n) :
    ∃ first rest, decimalFrom fuel n = first :: rest ∧ first ≠ '0' := by
  induction fuel generalizing n with
  | zero => exact absurd h (Nat.not_lt_zero n)
  | succ fuel ih =>
    by_cases hone : n < 10
    · exact ⟨hexDigit n, [], decimalFrom_of_lt hone, hexDigit_ne_zero hone hpos⟩
    · obtain ⟨first, rest, hfront, hfirst⟩ := ih (n := n / 10) (by omega) (by omega)
      rw [decimalFrom_of_le (by omega), hfront]
      exact ⟨first, _, rfl, hfirst⟩

/-- **A number begins with a zero only if it is one.** -/
theorem exists_decimal_eq_cons (n : Nat) :
    ∃ first rest, decimal n = first :: rest ∧ (first = '0' → rest = []) := by
  by_cases hzero : n = 0
  · subst hzero
    exact ⟨'0', [], rfl, fun _ => rfl⟩
  · obtain ⟨first, rest, hcons, hfirst⟩ :=
      exists_decimalFrom_eq_cons (Nat.lt_succ_self n) (Nat.pos_of_ne_zero hzero)
    exact ⟨first, rest, hcons, fun h => absurd h hfirst⟩

end ExpectFile.Text
