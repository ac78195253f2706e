import ExpectFile.Text.Hex

/-!
# Hexadecimal digits read back

* **`digitValue?_hexDigit`** — a digit that is written has the value that it was written for.
* **`readDigits_hexDigits`** — so have several, where the number fits the width.
* **`exists_of_mem_hexDigits`** — and nothing but digits is written.
-/

namespace ExpectFile.Text

/-- A digit has the value that it was written for. -/
theorem digitValue?_hexDigit {d : Nat} (h : d < 16) : digitValue? (hexDigit d) = some d := by
  have hall : ∀ d < 16, digitValue? (hexDigit d) = some d := by decide
  exact hall d h

theorem isDigitOf_hexDigit {d : Nat} (h : d < 16) : isDigitOf 16 (hexDigit d) = true := by
  unfold isDigitOf
  rw [digitValue?_hexDigit h]
  exact decide_eq_true h

theorem length_hexDigits (width n : Nat) : (hexDigits width n).length = width := by
  induction width generalizing n with
  | zero => rfl
  | succ width ih => rw [hexDigits, List.length_append, ih, List.length_singleton]

/-- Nothing but digits is written. -/
theorem exists_of_mem_hexDigits {width n : Nat} {c : Char} (h : c ∈ hexDigits width n) :
    ∃ d < 16, c = hexDigit d := by
  induction width generalizing n with
  | zero => exact absurd h List.not_mem_nil
  | succ width ih =>
    rw [hexDigits, List.mem_append, List.mem_singleton] at h
    rcases h with hfront | hlast
    · exact ih hfront
    · exact ⟨n % 16, Nat.mod_lt n (by decide), hlast⟩

theorem readDigits_concat (base : Nat) (digits : List Char) (c : Char) :
    readDigits base (digits ++ [c]) = readDigits base digits * base + (digitValue? c).getD 0 := by
  unfold readDigits
  rw [List.foldl_append]
  rfl

/-- **The digits of a number read back**, where there is room for all of them. -/
theorem readDigits_hexDigits {width n : Nat} (h : n < Nat.pow 16 width) :
    readDigits 16 (hexDigits width n) = n := by
  induction width generalizing n with
  | zero =>
    obtain rfl : n = 0 := Nat.lt_one_iff.mp h
    rfl
  | succ width ih =>
    have hdigit : n % 16 < 16 := Nat.mod_lt n (by decide)
    have hwidth : n < Nat.pow 16 width * 16 := h
    have hfront : n / 16 < Nat.pow 16 width := by omega
    rw [hexDigits, readDigits_concat, ih hfront, digitValue?_hexDigit hdigit, Option.getD_some]
    omega

end ExpectFile.Text
