import ExpectFile.Proofs.Reprint.Sites

/-!
# Statements at the end of their lines

A statement that is not printed leaves the semicolon behind it, if there is one, and no statement
begins with a semicolon. Whether there is one can be seen in the text, with the blanks and the
joined lines behind the statement.

* **`Lexed.precedesSemicolon_iff`** — the semicolon in the text is that among the tokens.
* **`Lexed.endLines_iff`** — whether the statements that are not printed end their lines.
-/

namespace ExpectFile.Grammar

open Text Reprint

/-- Whether a semicolon is next in a line, behind blanks and over joined lines. -/
def precedesSemicolon : List Char → Bool
  | [] => false
  | '\\' :: '\n' :: rest => precedesSemicolon rest
  | c :: rest => if isGap c then precedesSemicolon rest else c == ';'

variable {printing : Printing} {p : Position} {text front whole : List Char}
  {statements : List ParsedStatement} {mode : LineMode} {opened : List Indentation}
  {due : List String} {marks : Option Expr → Bool} {nested : Nested} {σ : Stage}
  {items : List Item}

/-- A joined line is passed over. -/
@[simp] theorem precedesSemicolon_join (rest : List Char) :
    precedesSemicolon ('\\' :: '\n' :: rest) = precedesSemicolon rest := by
  simp [precedesSemicolon]

/-- Any other character decides, unless it is a blank. -/
theorem precedesSemicolon_cons {c : Char} {rest : List Char}
    (h : ∀ after, c :: rest ≠ '\\' :: '\n' :: after) :
    precedesSemicolon (c :: rest) = if isGap c then precedesSemicolon rest else c == ';' := by
  rw [precedesSemicolon]
  rintro after rfl rfl
  exact h after rfl

/-- A blank is passed over. -/
theorem precedesSemicolon_gap {c : Char} (hc : isGap c = true) (rest : List Char) :
    precedesSemicolon (c :: rest) = precedesSemicolon rest := by
  rw [precedesSemicolon_cons, if_pos hc]
  rintro after heq
  obtain ⟨rfl, -⟩ := List.cons.inj heq
  exact absurd hc (by decide)

/-- **Behind a statement** there is a semicolon in the text iff there is one among the tokens. -/
theorem Lexed.precedesSemicolon_iff (h : Lexed .inside [] [] p text (flat items))
    (houtline : Outline marks nested .done items) :
    precedesSemicolon text = false ↔ nextKind (flat items) = .newline := by
  generalize hmode : LineMode.inside = mode at h
  generalize hopened : ([] : List Indentation) = opened at h
  generalize hdue : ([] : List String) = due at h
  generalize hflat : flat items = all at h
  induction h with
  | blank | carry | finish | emptyLine | commentLine | line | bracketed => exact absurd hmode nofun
  | wrap hne => exact absurd hdue.symm hne
  | gap hc _ ih =>
    rw [precedesSemicolon_gap hc]
    exact ih rfl hopened hdue hflat
  | join _ _ ih =>
    rw [precedesSemicolon_join]
    exact ih rfl hopened hdue hflat
  -- a comment goes up to the end of the line, so no semicolon comes behind it
  | @comment _ _ _ _ _ all _ hrest =>
    subst hdue
    have hfeed : nextKind all = .newline := by
      cases hrest with
      | gap hc => exact absurd hc (by decide)
      | newline => rfl
      | wrap hne => exact absurd rfl hne
      | token hc => exact absurd hc (by decide)
    rw [List.cons_append, precedesSemicolon_cons (by simp)]
    exact ⟨fun _ => hfeed, fun _ => rfl⟩
  | newline =>
    rw [precedesSemicolon_cons (by simp)]
    exact ⟨fun _ => rfl, fun _ => rfl⟩
  | @token _ _ _ _ c text kind characters rest _ hc hslash hlexeme _ hrest =>
    -- behind a statement comes the end of the line or a semicolon, and the first is no lexeme
    have hsemicolon : kind = .operator ";" := by
      rcases houtline.next_of_done with hnext | hnext
      · rw [hflat] at hnext
        obtain rfl : kind = .newline := hnext
        rcases isInner_of_lexeme? hlexeme with hinner | heq
        · cases hinner
        · cases heq
      · rw [hflat] at hnext
        exact hnext
    subst hsemicolon
    obtain ⟨htext, -, hcharacters⟩ := lexeme?_eq_append hlexeme
    obtain rfl : characters = [';'] := hcharacters ";" rfl
    obtain ⟨rfl, rfl⟩ := List.cons.inj htext
    rw [precedesSemicolon_cons hslash]
    exact ⟨nofun, nofun⟩

/-- Tokens that are kept do not end a statement. -/
theorem EndLines.behind (tokens : List Token) (h : EndLines printing (tokens.map .keep ++ items)) :
    EndLines printing items := by
  induction tokens with
  | nil => exact h
  | cons token tokens ih => exact ih h

/-- **Whether the statements that are not printed end their lines** can be seen in the text behind
them. -/
theorem Lexed.endLines_iff (h : Lexed mode opened due p text (flat items))
    (houtline : Outline marks nested σ items) (hfits : σ.Fits opened due) (hat : At whole p text) :
    EndLines printing items ↔ ∀ statement ∈ marked items, printing statement = none →
      ∀ front back, whole = front ++ back → statement.stop = Position.afterText ⟨1, 0⟩ front →
        precedesSemicolon back = false := by
  revert hat
  refine Lexed.induction_on (motive := fun p text items => At whole p text →
    (EndLines printing items ↔ ∀ statement ∈ marked items, printing statement = none →
      ∀ front back, whole = front ++ back → statement.stop = Position.afterText ⟨1, 0⟩ front →
        precedesSemicolon back = false)) ?_ ?_ ?_ ?_ h houtline hfits
  · intro p text items hnone _
    rw [hnone]
    exact ⟨fun _ _ hmem => absurd hmem List.not_mem_nil, fun _ => endLines_of_marked_eq_nil hnone⟩
  · exact fun p front rest items ih hat => ih (hat.behind front)
  · exact fun p text token items ih hat => ih hat
  · intro p spelled rest tokens items statement _ hstop _ _ _ hlexed hdone ih hat
    have hbehind := hlexed.precedesSemicolon_iff hdone
    obtain ⟨before, hwhole, rfl⟩ := hat
    have hplace : statement.stop = Position.afterText ⟨1, 0⟩ (before ++ spelled) := by
      rw [hstop, Position.afterText_append]
    have hhere : (∀ front back, whole = front ++ back →
        statement.stop = Position.afterText ⟨1, 0⟩ front → precedesSemicolon back = false)
        ↔ precedesSemicolon rest = false := by
      rw [← List.append_assoc] at hwhole
      -- a position is that of one place only, so there is one text behind the statement
      refine ⟨fun hall => hall _ _ hwhole hplace, fun hrest front back hfront hend => ?_⟩
      obtain ⟨-, rfl⟩ :=
        Position.eq_of_afterText_eq (hwhole.symm.trans hfront) (hplace.symm.trans hend)
      exact hrest
    rw [EndLines, marked_mark, List.forall_mem_cons, hhere, hbehind,
      ih (At.behind spelled ⟨before, hwhole, rfl⟩)]

end ExpectFile.Grammar
