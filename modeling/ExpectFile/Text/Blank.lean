/-!
# Blank characters

White space as the character standard counts it: the separators, the line and paragraph ends, the
controls that move the carriage, and the four information separators. Trimming removes blank
characters and nothing else.
-/

namespace ExpectFile.Text

/-- The blank characters. -/
def isBlank (c : Char) : Bool :=
  let n := c.toNat
  (0x09 ≤ n && n ≤ 0x0d) || (0x1c ≤ n && n ≤ 0x20) || n == 0x85 || n == 0xa0 || n == 0x1680
    || (0x2000 ≤ n && n ≤ 0x200a) || n == 0x2028 || n == 0x2029 || n == 0x202f || n == 0x205f
    || n == 0x3000

/-- The text without the blanks at its end. -/
def trimEnd : List Char → List Char
  | [] => []
  | c :: rest =>
    match trimEnd rest with
    | [] => if isBlank c then [] else [c]
    | kept => c :: kept

/-- The text without the blanks at either end. -/
def trim (text : List Char) : List Char := trimEnd (text.dropWhile isBlank)

/-- A trimmed text does not end in a blank. -/
theorem not_isBlank_of_getLast?_trimEnd {text : List Char} {c : Char}
    (h : (trimEnd text).getLast? = some c) : isBlank c = false := by
  induction text with
  | nil => simp [trimEnd] at h
  | cons d rest ih =>
    unfold trimEnd at h
    split at h
    · split at h <;> simp_all
    · rename_i kept hne
      cases hk : trimEnd rest with
      | nil => exact absurd hk hne
      | cons k more =>
        rw [hk, List.getLast?_cons_cons] at h
        rw [hk] at ih
        exact ih h

theorem trimEnd_trimEnd (text : List Char) : trimEnd (trimEnd text) = trimEnd text := by
  induction text with
  | nil => rfl
  | cons c rest ih =>
    rw [trimEnd]
    split
    · split <;> simp_all [trimEnd]
    · rename_i kept hne
      cases hk : trimEnd rest with
      | nil => exact absurd hk hne
      | cons k more =>
        rw [hk] at ih
        rw [trimEnd, ih]

end ExpectFile.Text
