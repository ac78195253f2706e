/-!
# Pieces of a text

Cutting a text at every occurrence of one character, and putting the pieces together again. A text
without the character is one piece, so there is always at least one.
-/

namespace ExpectFile.Text

/-- The pieces between the occurrences of `separator`. -/
def pieces (separator : Char) : List Char → List (List Char)
  | [] => [[]]
  | c :: rest =>
    match pieces separator rest with
    | [] => [[c]]
    | piece :: others => if c = separator then [] :: piece :: others else (c :: piece) :: others

/-- The pieces with `separator` written between each two. -/
def joined (separator : List Char) : List (List Char) → List Char
  | [] => []
  | [piece] => piece
  | piece :: others => piece ++ separator ++ joined separator others

theorem pieces_ne_nil (separator : Char) (text : List Char) : pieces separator text ≠ [] := by
  induction text with
  | nil => simp [pieces]
  | cons c rest ih =>
    unfold pieces
    split
    · simp
    · split <;> simp

/-- Nothing is lost by cutting. -/
theorem joined_pieces (separator : Char) (text : List Char) :
    joined [separator] (pieces separator text) = text := by
  induction text with
  | nil => rfl
  | cons c rest ih =>
    unfold pieces
    split
    · rename_i h; exact absurd h (pieces_ne_nil separator rest)
    · rename_i piece others h
      rw [h] at ih
      split
      · rename_i hc; subst hc; simp [joined, ih]
      · cases others with
        | nil => simpa [joined] using ih
        | cons next more => simpa [joined] using ih

end ExpectFile.Text
