import ExpectFile.Proofs.Text.LineFeeds

/-!
# A line of lexemes

The lexer has to keep track of indentation, brackets and comments. On a single line without
indentation little of that matters: the tokens are the lexemes of the line, one after the other, and
the marks for its end. `TokenLine` says which texts are such lines, and `tokens?_of_line` that the
lexer takes them apart as it says.

* **`tokensFrom_lexeme`** — one lexeme; **`tokensFrom_of_line`** — all of them.
-/

namespace ExpectFile.Grammar

open Text

/-! ## Lines -/

/-- Whether a text begins as a lexeme may: with no blank, and with nothing that begins a comment or
breaks the line. -/
def beginsLexeme : List Char → Bool
  | [] => false
  | c :: _ => !isGap c && c != '\n' && c != '#' && c != '\\'

/-- `TokenLine due position text tokens`: the text is a number of lexemes and a line feed, and the
tokens are these lexemes and the marks for the end. The text begins at the position, and in front of
it the brackets `due` are open. -/
inductive TokenLine : (due : List String) → Position → List Char → List Token → Prop where
  | finish (position : Position) :
      TokenLine [] position ['\n']
        [⟨.newline, position, position⟩,
          ⟨.finish, position.after '\n', position.after '\n'⟩]
  | lexeme {due left : List String} {position : Position} {spelling after : List Char}
      {kind : Token.Kind} {tokens : List Token}
      (hbegins : beginsLexeme spelling = true)
      (hread : lexeme? (spelling ++ after) = some (kind, spelling, after))
      (hleft : bracketsAfter due kind = some left)
      (hrest : TokenLine left (position.afterText spelling) after tokens) :
      TokenLine due position (spelling ++ after)
        (⟨kind, position, position.afterText spelling⟩ :: tokens)

theorem exists_eq_cons_of_beginsLexeme {text : List Char} (h : beginsLexeme text = true) :
    ∃ c rest, text = c :: rest ∧ isGap c = false ∧ c ≠ '\n' ∧ c ≠ '#' ∧ c ≠ '\\' := by
  cases text with
  | nil => exact absurd h nofun
  | cons c rest => exact ⟨c, rest, rfl, by simpa [beginsLexeme, and_assoc] using h⟩

variable {due left : List String} {position : Position} {text : List Char} {tokens : List Token}

/-- A line has at most one token more than it has characters. -/
theorem TokenLine.length_le (h : TokenLine due position text tokens) :
    tokens.length ≤ text.length + 1 := by
  induction h with
  | finish position => exact Nat.le_refl _
  | lexeme hbegins _ _ _ ih =>
    obtain ⟨c, rest, rfl, -⟩ := exists_eq_cons_of_beginsLexeme hbegins
    simp only [List.cons_append, List.length_cons, List.length_append]
    omega

/-- **The lexer takes one lexeme.** -/
theorem tokensFrom_lexeme {spelling after : List Char} {kind : Token.Kind}
    (hbegins : beginsLexeme spelling = true)
    (hread : lexeme? (spelling ++ after) = some (kind, spelling, after))
    (hleft : bracketsAfter due kind = some left) (fuel : Nat) :
    tokensFrom (fuel + 1) false ⟨position, [], due⟩ (spelling ++ after)
      = (tokensFrom fuel false ⟨position.afterText spelling, [], left⟩ after).map
          (⟨kind, position, position.afterText spelling⟩ :: ·) := by
  obtain ⟨c, others, rfl, hgap, hbreak, hcomment, hslash⟩ := exists_eq_cons_of_beginsLexeme hbegins
  have htake : (c :: others ++ after).takeWhile isGap = [] := by
    rw [List.cons_append, List.takeWhile_cons_of_neg (by simp [hgap])]
  have hdrop : (c :: others ++ after).dropWhile isGap = c :: others ++ after := by
    rw [List.cons_append, List.dropWhile_cons_of_neg (by simp [hgap])]
  rw [tokensFrom]
  simp only [htake, hdrop]
  -- the first character of the lexeme leaves one way to go on
  split
  · rename_i heq
    exact absurd heq (by simp)
  · rename_i heq
    exact absurd (List.cons.inj heq).1 hbreak
  · rename_i heq
    exact absurd (List.cons.inj heq).1 hcomment
  · rename_i heq
    exact absurd (List.cons.inj heq).1 hslash
  · rename_i d rest _ _ heq
    rw [← heq, hread]
    show (bracketsAfter due kind >>= _) = _
    rw [hleft]
    show (tokensFrom fuel false ⟨position.afterText (c :: others), [], left⟩ after >>= _) = _
    cases tokensFrom fuel false ⟨position.afterText (c :: others), [], left⟩ after <;> rfl

/-- **The lexer takes a line apart.** Induction on its lexemes. -/
theorem tokensFrom_of_line (h : TokenLine due position text tokens) {fuel : Nat}
    (hfuel : tokens.length ≤ fuel) :
    tokensFrom fuel false ⟨position, [], due⟩ text = some tokens := by
  induction h generalizing fuel with
  | finish position =>
    obtain ⟨fuel, rfl⟩ : ∃ less, fuel = less + 2 := ⟨fuel - 2, by simp at hfuel; omega⟩
    rfl
  | lexeme hbegins hread hleft hrest ih =>
    obtain ⟨fuel, rfl⟩ : ∃ less, fuel = less + 1 := ⟨fuel - 1, by simp at hfuel; omega⟩
    rw [tokensFrom_lexeme hbegins hread hleft, ih (Nat.le_of_succ_le_succ hfuel)]
    rfl

/-- **The tokens of a text that is a line**, when line breaks are read as line feeds. -/
theorem tokens?_of_line {line : List Char} (hline : lineFeeds text = line)
    (hlast : line.getLast? ≠ some '\n') (hbegins : beginsLexeme line = true)
    (h : TokenLine [] ⟨1, 0⟩ (line ++ ['\n']) tokens) : tokens? text = some tokens := by
  have hfuel : tokens.length ≤ 2 * (line ++ ['\n']).length + 1 := by
    have := h.length_le
    omega
  unfold tokens?
  simp only [unifyBreaks_of_getLast? hline hlast]
  obtain ⟨c, rest, rfl, hgap, hbreak, hcomment, hslash⟩ := exists_eq_cons_of_beginsLexeme hbegins
  -- the line begins at the outermost depth, so there is no mark in front of it
  have hdepth : indentation ⟨0, 0⟩ none (c :: rest ++ ['\n'])
      = some (⟨0, 0⟩, [], c :: rest ++ ['\n']) := by
    obtain ⟨⟨hspace, htab⟩, hfeed⟩ : (¬c = ' ' ∧ ¬c = '\t') ∧ ¬c = '\x0c' := by
      simpa [isGap] using hgap
    rw [List.cons_append]
    unfold indentation
    rw [if_neg hspace, if_neg htab, if_neg hfeed, if_neg hslash]
    rfl
  rw [tokensFrom, hdepth]
  simp only [List.cons_append]
  show (if c = '#' ∨ c = '\n' then _ else _) = _
  rw [if_neg (by simp [hcomment, hbreak])]
  show (tokensFrom _ false ⟨⟨1, 0⟩, [], []⟩ (c :: (rest ++ ['\n'])) >>= _) = _
  rw [← List.cons_append, tokensFrom_of_line h hfuel]
  rfl

end ExpectFile.Grammar
