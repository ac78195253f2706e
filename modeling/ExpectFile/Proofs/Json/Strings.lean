import ExpectFile.Json.Reader
import ExpectFile.Json.Writer
import ExpectFile.Proofs.Text.HexDigits

/-!
# JSON strings read back

A character inside a string stands for itself, or an escape stands for it: a letter, its number, or,
beyond the basic plane, the numbers of its two surrogates. Whichever way it is written, the reader
takes it back in one step.

* **`readEscape_escapedUnits`** — a character is read from its number or its surrogates.
* **`readString_character`** — one character of a string, in any style.
* **`readString_string`** — all of them, up to the closing quotation mark.
-/

namespace ExpectFile.Json

open Text

/-! ## Numbers of characters -/

/-- Four digits that were written for a number are read as it. -/
theorem readUnit_hexDigits {n : Nat} (h : n < 0x10000) (rest : List Char) :
    readUnit (hexDigits 4 n ++ rest) = some (n, rest) := by
  have hread : readDigits 16 (hexDigits 4 n) = n := readDigits_hexDigits h
  have hdigits : (hexDigits 4 n).all (isDigitOf 16) = true := by
    refine List.all_eq_true.mpr fun c hc => ?_
    obtain ⟨d, hd, rfl⟩ := exists_of_mem_hexDigits hc
    exact isDigitOf_hexDigit hd
  match hform : hexDigits 4 n, length_hexDigits 4 n with
  | [a, b, c, d], _ =>
    rw [hform] at hread hdigits
    show (if [a, b, c, d].all (isDigitOf 16) then some (readDigits 16 [a, b, c, d], rest)
      else none) = _
    rw [if_pos hdigits, hread]

/-- A number of the basic plane that is no surrogate is a character. -/
theorem readUnits_hexDigits {n : Nat} (hplane : n < 0x10000)
    (hsurrogate : n < 0xd800 ∨ 0xe000 ≤ n) (rest : List Char) :
    readUnits (hexDigits 4 n ++ rest) = some (Char.ofNat n, rest) := by
  have hfirst : ¬(0xd800 ≤ n ∧ n < 0xdc00) := by omega
  have hsecond : ¬(0xdc00 ≤ n ∧ n < 0xe000) := by omega
  unfold readUnits
  rw [readUnit_hexDigits hplane]
  show (if 0xd800 ≤ n ∧ n < 0xdc00 then _ else if 0xdc00 ≤ n ∧ n < 0xe000 then _ else _) = _
  rw [if_neg hfirst, if_neg hsecond]

/-- Two surrogates are a character. -/
theorem readUnits_surrogates {first second : Nat} (hfirst : 0xd800 ≤ first ∧ first < 0xdc00)
    (hsecond : 0xdc00 ≤ second ∧ second < 0xe000) (rest : List Char) :
    readUnits (hexDigits 4 first ++ '\\' :: 'u' :: (hexDigits 4 second ++ rest))
      = some (Char.ofNat (0x10000 + (first - 0xd800) * 0x400 + (second - 0xdc00)), rest) := by
  have hfirstPlane : first < 0x10000 := by omega
  have hsecondPlane : second < 0x10000 := by omega
  unfold readUnits
  rw [readUnit_hexDigits hfirstPlane]
  simp only [Option.bind_eq_bind, Option.bind_some]
  rw [if_pos hfirst, readUnit_hexDigits hsecondPlane]
  exact if_pos hsecond

/-- **A character is read from its number**, or from the numbers of its surrogates. -/
theorem readEscape_escapedUnits (c : Char) (rest : List Char) :
    ∃ form, escapedUnits c.toNat = '\\' :: form ∧ readEscape (form ++ rest) = some (c, rest) := by
  have hvalid : c.toNat < 0xd800 ∨ 0xdfff < c.toNat ∧ c.toNat < 0x110000 := c.valid
  unfold escapedUnits
  by_cases hplane : c.toNat < 0x10000
  · rw [if_pos hplane]
    refine ⟨_, rfl, ?_⟩
    show readUnits (hexDigits 4 c.toNat ++ rest) = _
    rw [readUnits_hexDigits hplane (by omega), Char.ofNat_toNat]
  · rw [if_neg hplane]
    have hhigh : 0xd800 ≤ 0xd800 + (c.toNat - 0x10000) / 0x400
        ∧ 0xd800 + (c.toNat - 0x10000) / 0x400 < 0xdc00 := by omega
    have hlow : 0xdc00 ≤ 0xdc00 + (c.toNat - 0x10000) % 0x400
        ∧ 0xdc00 + (c.toNat - 0x10000) % 0x400 < 0xe000 := by omega
    have hnumber : 0x10000 + (0xd800 + (c.toNat - 0x10000) / 0x400 - 0xd800) * 0x400
        + (0xdc00 + (c.toNat - 0x10000) % 0x400 - 0xdc00) = c.toNat := by omega
    refine ⟨_, rfl, ?_⟩
    have hread := readUnits_surrogates hhigh hlow rest
    rw [hnumber, Char.ofNat_toNat] at hread
    simpa [readEscape] using hread

/-! ## Characters -/

/-- A character that stands for itself. -/
theorem readString_itself {c : Char} (hquote : c ≠ doubleQuote) (hslash : c ≠ '\\')
    (hcontrol : ¬c.toNat < 0x20) (fuel : Nat) (rest : List Char) :
    readString (fuel + 1) (c :: rest)
      = (readString fuel rest).map fun run => (c :: run.1, run.2) := by
  rw [readString, if_neg hquote, if_neg hslash, if_neg hcontrol]
  cases readString fuel rest <;> rfl

/-- A character that an escape stands for. -/
theorem readString_escape {c : Char} (form : List Char) {rest after : List Char}
    (h : readEscape (form ++ rest) = some (c, after)) (fuel : Nat) :
    readString (fuel + 1) ('\\' :: form ++ rest)
      = (readString fuel after).map fun run => (c :: run.1, run.2) := by
  have hslash : '\\' ≠ doubleQuote := by decide
  rw [List.cons_append, readString, if_neg hslash, if_pos rfl, h]
  show (readString fuel after >>= _) = _
  cases readString fuel after <;> rfl

/-- The quotation mark and the backslash stand for themselves behind a backslash. -/
theorem readEscape_special {c : Char} (h : c = doubleQuote ∨ c = '\\') (rest : List Char) :
    readEscape (c :: rest) = some (c, rest) := by
  rcases h with rfl | rfl <;> rfl

/-- **A character of a string is read back**, in whatever style it is written. -/
theorem readString_character (style : Style) (c : Char) (fuel : Nat) (rest : List Char) :
    readString (fuel + 1) (style.character c ++ rest)
      = (readString fuel rest).map fun run => (c :: run.1, run.2) := by
  have hunits : readString (fuel + 1) (escapedUnits c.toNat ++ rest)
      = (readString fuel rest).map fun run => (c :: run.1, run.2) := by
    obtain ⟨form, hform, hread⟩ := readEscape_escapedUnits c rest
    rw [hform, readString_escape form hread]
  -- one case for each of the tests that the writer makes, in its order
  unfold Style.character
  split
  · rename_i hspecial
    exact readString_escape [c] (readEscape_special hspecial rest) fuel
  split
  · rename_i heq
    exact heq ▸ readString_escape ['n'] rfl fuel
  split
  · rename_i heq
    exact heq ▸ readString_escape ['r'] rfl fuel
  split
  · rename_i heq
    exact heq ▸ readString_escape ['t'] rfl fuel
  split
  · rename_i heq
    exact heq ▸ readString_escape ['b'] rfl fuel
  split
  · rename_i heq
    exact heq ▸ readString_escape ['f'] rfl fuel
  split
  · exact hunits
  split
  · exact hunits
  · rename_i hspecial _ _ _ _ _ hcontrol _
    exact readString_itself (fun h => hspecial (Or.inl h)) (fun h => hspecial (Or.inr h)) hcontrol
      fuel rest

theorem length_character_pos (style : Style) (c : Char) : 0 < (style.character c).length := by
  have hunits : 0 < (escapedUnits c.toNat).length := by
    obtain ⟨form, hform, -⟩ := readEscape_escapedUnits c []
    rw [hform]
    exact Nat.succ_pos _
  unfold Style.character
  repeat' split
  all_goals first | exact hunits | exact Nat.succ_pos _

/-! ## Strings -/

/-- Each character takes at least one to be written. -/
theorem length_le_length_flatMap_character (style : Style) (text : List Char) :
    text.length ≤ (text.flatMap style.character).length := by
  induction text with
  | nil => exact Nat.le_refl _
  | cons c text ih =>
    have hone : 0 < (style.character c).length := length_character_pos style c
    rw [List.flatMap_cons, List.length_append, List.length_cons]
    omega

/-- **The rest of a string is read back**, and its quotation mark taken. Induction on the text. -/
theorem readString_flatMap_character (style : Style) {text : List Char} {fuel : Nat}
    (h : text.length < fuel) (rest : List Char) :
    readString fuel (text.flatMap style.character ++ doubleQuote :: rest) = some (text, rest) := by
  induction text generalizing fuel with
  | nil =>
    obtain ⟨fuel, rfl⟩ := Nat.exists_eq_add_one_of_ne_zero (Nat.ne_zero_of_lt h)
    rfl
  | cons c text ih =>
    rw [List.length_cons] at h
    obtain ⟨fuel, rfl⟩ := Nat.exists_eq_add_one_of_ne_zero (Nat.ne_zero_of_lt h)
    rw [List.flatMap_cons, List.append_assoc, readString_character, ih (by omega)]
    rfl

/-- **A string is read back** behind its quotation mark, where the length of what is left is the
fuel. -/
theorem readString_string (style : Style) (text rest : List Char) :
    ∃ tail, style.string text ++ rest = doubleQuote :: tail
      ∧ readString (tail.length + 1) tail = some (text, rest) := by
  refine ⟨text.flatMap style.character ++ doubleQuote :: rest, ?_, ?_⟩
  · simp [Style.string]
  · have hlength := length_le_length_flatMap_character style text
    refine readString_flatMap_character style ?_ rest
    rw [List.length_append]
    omega

end ExpectFile.Json
