import ExpectFile.Proofs.Reprint.Reads
import Mathlib.Data.Prod.Lex

/-!
# Texts with statements overwritten

A text next to what is printed of it: the statements in their places are overwritten, and everything
else is copied. Places are ordered as a text goes, so a place says how many characters are in front
of it.

* **`Position.eq_of_afterText_eq`** — a place is behind one piece of a text only.
* **`Overwrites.copies`** — what is in front of the first statement is copied.
* **`Lexed.behind_tokens`** — the lexer behind the tokens of a statement.
-/

namespace ExpectFile.Grammar.Position

/-- Places in the order of a text: by lines, and by bytes in a line. -/
instance : Preorder Position := .lift fun p => toLex (p.line, p.column)

variable {p q : Position} {front front' back back' : List Char}

theorem lt_iff : p < q ↔ p.line < q.line ∨ p.line = q.line ∧ p.column < q.column :=
  Prod.Lex.toLex_lt_toLex

/-- Every character leads on. -/
theorem lt_after (p : Position) (c : Char) : p < p.after c := by
  rw [lt_iff]
  unfold after
  split
  · exact .inl (Nat.lt_add_one _)
  · exact .inr ⟨rfl, Nat.lt_add_of_pos_right c.utf8Size_pos⟩

theorem le_afterText (p : Position) (text : List Char) : p ≤ p.afterText text := by
  induction text generalizing p with
  | nil => exact le_refl p
  | cons c rest ih => exact (lt_after p c).le.trans (ih (p.after c))

theorem lt_afterText (p : Position) {text : List Char} (h : text ≠ []) : p < p.afterText text := by
  obtain ⟨c, rest, rfl⟩ := List.exists_cons_of_ne_nil h
  exact (lt_after p c).trans_le (le_afterText (p.after c) rest)

/-- **A place behind some characters of a text says how many they are.** -/
theorem eq_of_afterText_eq (htext : front ++ back = front' ++ back')
    (h : p.afterText front = p.afterText front') : front = front' ∧ back = back' := by
  have hnil : ∀ {front more : List Char}, p.afterText front = p.afterText (front ++ more) →
      more = [] := by
    intro front more heq
    by_contra hmore
    rw [afterText_append] at heq
    exact absurd heq (lt_afterText (p.afterText front) hmore).ne
  rcases List.append_eq_append_iff.mp htext with ⟨more, rfl, rfl⟩ | ⟨more, rfl, rfl⟩
  · obtain rfl := hnil h
    exact ⟨(List.append_nil front).symm, rfl⟩
  · obtain rfl := hnil h.symm
    exact ⟨List.append_nil front', rfl⟩

end ExpectFile.Grammar.Position

namespace ExpectFile.Grammar

open Text Reprint

/-! ## Texts with statements overwritten -/

/-- **A text next to what is printed of it**: each of the statements, in its place, is overwritten
by a call or removed, and the characters between them are kept. With a statement that is removed,
the end of its line may go. `stands` is known of what a printed call is in front of, and `drops` of
the statement whose line has no end any more, with what comes behind. -/
inductive Overwrites (printing : Printing) (stands : List Char → String → String → Prop)
    (drops : ParsedStatement → List Char → Prop) :
    Position → List Char → List ParsedStatement → List Char → Prop where
  | nil {p} : Overwrites printing stands drops p [] [] []
  | copy {p c text statements text'}
      (h : Overwrites printing stands drops (p.after c) text statements text') :
      Overwrites printing stands drops p (c :: text) statements (c :: text')
  | call {p statement spelled text statements text' name content} (hstart : statement.start = p)
      (hstop : statement.stop = p.afterText spelled)
      (hprinted : printing statement = some (name, content))
      (hstands : stands (call name content ++ text') name content)
      (h : Overwrites printing stands drops (p.afterText spelled) text statements text') :
      Overwrites printing stands drops p (spelled ++ text) (statement :: statements)
        (call name content ++ text')
  | drop {p statement spelled text statements text'} (hstart : statement.start = p)
      (hstop : statement.stop = p.afterText spelled) (hprinted : printing statement = none)
      (h : Overwrites printing stands drops (p.afterText spelled) text statements text') :
      Overwrites printing stands drops p (spelled ++ text) (statement :: statements) text'
  | dropLine {p statement spelled text statements text'} (hstart : statement.start = p)
      (hstop : statement.stop = p.afterText spelled) (hprinted : printing statement = none)
      (hdrops : drops statement text')
      (h : Overwrites printing stands drops ((p.afterText spelled).after '\n') text statements
        text') :
      Overwrites printing stands drops p (spelled ++ '\n' :: text) (statement :: statements) text'

/-- The rest of a text from the start of a line on. So is what is behind a line end that is gone. -/
def AtLineStart (whole text : List Char) : Prop :=
  ∀ seen, whole = seen ++ text → seen.getLast? = some '\n'

/-- The line of a statement has no end any more, where the rest of a reprint is `text`: the break
behind the statement is one with the break in front of it. -/
def LineGone (whole : List Char) (merges : ParsedStatement → Prop) (statement : ParsedStatement)
    (text : List Char) : Prop :=
  AtLineStart whole text ∧ merges statement

variable {printing : Printing} {stands : List Char → String → String → Prop}
  {drops : ParsedStatement → List Char → Prop} {p q : Position}
  {text text' rest front : List Char} {statement : ParsedStatement}
  {statements : List ParsedStatement} {c : Char}

namespace Overwrites

/-- The statements are still to come. -/
theorem le_start (h : Overwrites printing stands drops p text statements text')
    (hhead : statements.head? = some statement) : p ≤ statement.start := by
  induction h with
  | nil => exact absurd hhead nofun
  | copy _ ih => exact (Position.lt_after _ _).le.trans (ih hhead)
  | call hstart | drop hstart | dropLine hstart =>
    obtain rfl := Option.some.inj hhead
    exact hstart.ge

/-- What stands in front of the statements is kept. -/
theorem copies (front : List Char)
    (h : Overwrites printing stands drops p (front ++ rest) statements text')
    (hfront : ∀ statement ∈ statements, p.afterText front ≤ statement.start) :
    ∃ rest', text' = front ++ rest'
      ∧ Overwrites printing stands drops (p.afterText front) rest statements rest' := by
  induction front generalizing p text' with
  | nil => exact ⟨text', rfl, h⟩
  | cons c front ih =>
    have hlater : ∀ {statement : ParsedStatement}, statement.start = p →
        statement ∉ statements := by
      rintro statement rfl hmem
      have hless := Position.lt_afterText statement.start (List.cons_ne_nil c front)
      exact absurd (hfront statement hmem) hless.not_ge
    generalize htext : c :: front ++ rest = text at h
    cases h with
    | nil => exact absurd htext nofun
    | copy h =>
      obtain ⟨rfl, rfl⟩ := List.cons.inj htext
      obtain ⟨rest', rfl, hrest⟩ := ih h hfront
      exact ⟨rest', rfl, hrest⟩
    | call hstart | drop hstart | dropLine hstart =>
      exact absurd List.mem_cons_self (hlater hstart)

theorem copies_one (h : Overwrites printing stands drops p (c :: rest) statements text')
    (hc : ∀ statement ∈ statements, p.after c ≤ statement.start) :
    ∃ rest', text' = c :: rest'
      ∧ Overwrites printing stands drops (p.after c) rest statements rest' :=
  h.copies [c] hc

/-- Where a statement starts, it is overwritten. -/
theorem of_start {spelled : List Char} (hstart : statement.start = p)
    (hstop : statement.stop = p.afterText spelled)
    (h : Overwrites printing stands drops p (spelled ++ text) (statement :: statements) text') :
    (∃ name content rest', printing statement = some (name, content)
        ∧ stands (Reprint.call name content ++ rest') name content
        ∧ text' = Reprint.call name content ++ rest'
        ∧ Overwrites printing stands drops (p.afterText spelled) text statements rest')
      ∨ printing statement = none
        ∧ (Overwrites printing stands drops (p.afterText spelled) text statements text'
          ∨ ∃ rest, text = '\n' :: rest ∧ drops statement text'
            ∧ Overwrites printing stands drops ((p.afterText spelled).after '\n') rest
              statements text') := by
  have hsame : ∀ {other back : List Char}, statement.stop = p.afterText other →
      spelled ++ text = other ++ back → spelled = other ∧ text = back := fun hother heq =>
    Position.eq_of_afterText_eq heq (hstop.symm.trans hother)
  generalize htext : spelled ++ text = whole at h
  cases h with
  | copy h =>
    have hlate := h.le_start rfl
    rw [hstart] at hlate
    exact absurd hlate (Position.lt_after _ _).not_ge
  | call _ hother hprinted hstands h =>
    obtain ⟨rfl, rfl⟩ := hsame hother htext
    exact .inl ⟨_, _, _, hprinted, hstands, rfl, h⟩
  | drop _ hother hprinted h =>
    obtain ⟨rfl, rfl⟩ := hsame hother htext
    exact .inr ⟨hprinted, .inl h⟩
  | dropLine _ hother hprinted hdrops h =>
    obtain ⟨rfl, rfl⟩ := hsame hother htext
    exact .inr ⟨hprinted, .inr ⟨_, rfl, hdrops, h⟩⟩

end Overwrites

/-! ## Where tokens are -/

variable {mode : LineMode} {opened : List Indentation} {due left : List String} {ts : List Token}
  {marks : Option Expr → Bool} {nested : Nested} {σ : Stage} {items : List Item}

/-- The tokens of statements are still to come. -/
theorem Lexed.le_start (h : Lexed mode opened due p text ts) {token : Token} (hmem : token ∈ ts)
    (hinner : token.kind.isInner = true) : p ≤ token.start := by
  induction h with
  | blank _ _ ih | gap _ _ ih | emptyLine _ ih | wrap _ _ ih =>
    exact (Position.lt_after _ _).le.trans (ih hmem)
  | carry _ _ ih | join _ _ ih =>
    exact ((Position.lt_after _ _).trans (Position.lt_after _ _)).le.trans (ih hmem)
  | commentLine _ _ ih | comment _ _ ih => exact (Position.le_afterText _ _).trans (ih hmem)
  | @finish _ _ _ _ p marks hmarks =>
    obtain ⟨kind, hkind, rfl⟩ := List.mem_map.mp hmem
    exact le_refl p
  | @line _ _ _ _ p _ _ marks _ _ _ _ _ ih =>
    rcases List.mem_append.mp hmem with hmem | hmem
    · obtain ⟨kind, hkind, rfl⟩ := List.mem_map.mp hmem
      exact le_refl p
    · exact ih hmem
  | bracketed _ _ _ _ ih => exact ih hmem
  | newline _ ih =>
    rcases List.mem_cons.mp hmem with rfl | hmem
    · exact le_refl _
    · exact (Position.lt_after _ _).le.trans (ih hmem)
  | token _ _ _ _ _ ih =>
    rcases List.mem_cons.mp hmem with rfl | hmem
    · exact le_refl _
    · exact (Position.le_afterText _ _).trans (ih hmem)

/-- A marked statement starts at one of the tokens. -/
theorem Outline.exists_token (h : Outline marks nested σ items) (hmem : statement ∈ marked items) :
    ∃ token ∈ flat items, token.start = statement.start ∧ token.kind.isInner = true := by
  induction h with
  | finish tokens => simp at hmem
  | token _ _ ih | plain _ _ _ _ _ ih =>
    obtain ⟨token, htoken, hfound⟩ := ih hmem
    exact ⟨token, List.mem_cons_of_mem _ htoken, hfound⟩
  | mark _ _ _ hturns hstart _ _ _ ih =>
    rcases List.mem_cons.mp hmem with rfl | hmem
    · obtain ⟨first, others, due, rfl, hfirst, hturn, -⟩ := exists_of_turns hturns hstart
      exact ⟨first, List.mem_cons_self, hfirst, Token.Kind.isInner_of_turn hturn⟩
    · obtain ⟨token, htoken, hfound⟩ := ih hmem
      exact ⟨token, List.mem_append_right _ htoken, hfound⟩

/-- Marked statements are still to come. -/
theorem Lexed.le_start_of_marked (h : Lexed mode opened due p text (flat items))
    (houtline : Outline marks nested σ items) (hmem : statement ∈ marked items) :
    p ≤ statement.start := by
  obtain ⟨token, htoken, hstart, hinner⟩ := houtline.exists_token hmem
  exact hstart ▸ h.le_start htoken hinner

/-! ## Through a statement -/

/-- No lexeme ends in a line feed. -/
theorem getLast?_of_lexeme? {kind : Token.Kind} {characters : List Char}
    (h : lexeme? text = some (kind, characters, rest)) : characters.getLast? ≠ some '\n' := by
  cases hletters : literalLetters text with
  | some found =>
    obtain ⟨letters, quoted⟩ := found
    rw [lexeme?_literal_eq hletters] at h
    obtain ⟨mark, behind, rfl, hmark, -⟩ := literalLetters_eq_some hletters
    obtain ⟨⟨marks, body, left⟩, hbody, h⟩ := Option.bind_eq_some_iff.mp h
    cases h
    have hmarks : marks.getLast? = some mark := by
      unfold quotedBody at hbody
      dsimp only at hbody
      split at hbody
      all_goals
        obtain ⟨_, -, heq⟩ := Option.map_eq_some_iff.mp hbody
        cases heq
        rfl
    rw [List.getLast?_append, hmarks, Option.some_or]
    rintro heq
    obtain rfl := Option.some.inj heq
    exact absurd hmark (by decide)
  | none =>
    cases text with
    | nil => cases h
    | cons c behind =>
      rw [lexeme?_cons hletters] at h
      split at h
      next hnumber =>
        have hsplit :=
          (lexeme?_eq_append ((lexeme?_cons hletters).trans ((if_pos hnumber).trans h))).1
        obtain ⟨⟨value, after⟩, hvalue, h⟩ := Option.bind_eq_some_iff.mp h
        dsimp only at h
        obtain ⟨-, rfl, rfl⟩ : _ ∧ _ ∧ _ := by simpa using h
        rw [hsplit] at hvalue
        intro hlast
        -- a number would have come to rest in front of the line feed
        obtain ⟨hsettles, hrest⟩ := settles_number? _ '\n' rfl hlast after
        rw [hsettles] at hvalue
        obtain ⟨⟨value', left⟩, hfound, heq⟩ := Option.map_eq_some_iff.mp hvalue
        obtain ⟨-, hleft⟩ : _ ∧ _ := by simpa using heq
        obtain rfl : left = [] := by simpa using hleft
        exact absurd (hrest _ hfound) nofun
      next =>
        split at h
        next hword =>
          obtain ⟨rfl, -⟩ := word_eq_some h
          intro hlast
          have hmem := List.mem_of_getLast? hlast
          have := List.all_eq_true.mp List.all_takeWhile _ hmem
          exact absurd this (by decide)
        next =>
          obtain ⟨symbol, hsymbol, h⟩ := Option.bind_eq_some_iff.mp h
          cases h
          have hsymbols : ∀ symbol ∈ longOperators ++ pairOperators ++ singleOperators,
              symbol.toList.getLast? ≠ some '\n' := by decide
          exact hsymbols symbol (List.mem_of_find?_eq_some hsymbol)

/-- The closing brackets that are due are counted alike. -/
theorem eq_of_turn {kind : Token.Kind} {next other : List String}
    (h : bracketsAfter due kind = some next)
    (hturn : kind.turn due = some other) : next = other := by
  cases kind with
  | operator symbol =>
    simp only [bracketsAfter] at h
    simp only [Token.Kind.turn] at hturn
    grind
  | newline | indent | dedent | finish => cases hturn
  | _ => exact Option.some.inj (h.symm.trans hturn)

/-- **Behind the tokens of a statement** the lexer is in the line. -/
theorem Lexed.behind_tokens {tokens : List Token} (h : Lexed mode opened due p text (tokens ++ ts))
    (hmode : mode = .inside ∨ due ≠ []) (hne : tokens ≠ [])
    (hturns : turns due tokens = some left) :
    ∃ front rest, text = front ++ rest ∧ (∃ d, front.getLast? = some d ∧ d ≠ '\n')
      ∧ Lexed .inside opened left (p.afterText front) rest ts
      ∧ tokens.getLast?.map (·.stop) = some (p.afterText front) := by
  have hskip : ∀ (skipped : List Char) {front : List Char},
      (∃ d, front.getLast? = some d ∧ d ≠ '\n') →
      ∃ d, (skipped ++ front).getLast? = some d ∧ d ≠ '\n' := by
    rintro skipped front ⟨d, hlast, hd⟩
    exact ⟨d, by rw [List.getLast?_append, hlast]; rfl, hd⟩
  generalize hall : tokens ++ ts = all at h
  induction h generalizing tokens with
  | blank _ _ ih | emptyLine _ ih =>
    obtain ⟨front, rest, rfl, hend, hrest⟩ := ih (.inr (hmode.resolve_left nofun)) hne hturns hall
    exact ⟨_ :: front, rest, rfl, hskip [_] hend, hrest⟩
  | gap _ _ ih =>
    obtain ⟨front, rest, rfl, hend, hrest⟩ := ih (.inl rfl) hne hturns hall
    exact ⟨_ :: front, rest, rfl, hskip [_] hend, hrest⟩
  | wrap hdue _ ih =>
    obtain ⟨front, rest, rfl, hend, hrest⟩ := ih (.inr hdue) hne hturns hall
    exact ⟨_ :: front, rest, rfl, hskip [_] hend, hrest⟩
  | carry _ _ ih =>
    obtain ⟨front, rest, rfl, hend, hrest⟩ := ih (.inr (hmode.resolve_left nofun)) hne hturns hall
    exact ⟨_ :: _ :: front, rest, rfl, hskip [_, _] hend, hrest⟩
  | join _ _ ih =>
    obtain ⟨front, rest, rfl, hend, hrest⟩ := ih (.inl rfl) hne hturns hall
    exact ⟨_ :: _ :: front, rest, rfl, hskip [_, _] hend, hrest⟩
  | commentLine _ _ ih =>
    obtain ⟨front, rest, hfeed, hend, hrest⟩ := ih (.inr (hmode.resolve_left nofun)) hne hturns hall
    rw [hfeed, ← List.append_assoc]
    rw [← Position.afterText_append] at hrest
    exact ⟨_, rest, rfl, hskip _ hend, hrest⟩
  | comment _ _ ih =>
    obtain ⟨front, rest, hfeed, hend, hrest⟩ := ih (.inl rfl) hne hturns hall
    rw [hfeed, ← List.append_assoc]
    rw [← Position.afterText_append] at hrest
    exact ⟨_, rest, rfl, hskip _ hend, hrest⟩
  -- a mark of layout is due only at the start of a line outside of brackets
  | finish | line => exact absurd hmode (by simp)
  | bracketed _ _ _ _ ih => exact ih (.inl rfl) hne hturns hall
  -- the end of a line is no token of a statement
  | newline h =>
    obtain ⟨first, others, rfl⟩ := List.exists_cons_of_ne_nil hne
    obtain ⟨next, hturn, -⟩ := Option.bind_eq_some_iff.mp hturns
    obtain ⟨rfl, -⟩ := List.cons.inj hall
    exact absurd hturn nofun
  -- no lexeme ends in a line feed, so the last one of the statement does not
  | @token opened due due' p c text kind characters rest all _ _ hlexeme hdue h ih =>
    obtain ⟨first, others, rfl⟩ := List.exists_cons_of_ne_nil hne
    obtain ⟨next, hturn, hothers⟩ := Option.bind_eq_some_iff.mp hturns
    obtain ⟨rfl, rfl⟩ := List.cons.inj hall
    obtain rfl := eq_of_turn hdue hturn
    rw [(lexeme?_eq_append hlexeme).1]
    cases others with
    | nil =>
      obtain rfl := Option.some.inj hothers
      have hlast := List.getLast?_eq_some_getLast (ne_nil_of_lexeme? hlexeme)
      exact ⟨characters, rest, rfl,
        ⟨_, hlast, fun heq => getLast?_of_lexeme? hlexeme (heq ▸ hlast)⟩, h, rfl⟩
    | cons second others =>
      obtain ⟨front, last, rfl, hend, hlast, hstop⟩ :=
        ih (.inl rfl) (List.cons_ne_nil _ _) hothers rfl
      rw [← List.append_assoc]
      rw [← Position.afterText_append] at hlast hstop
      exact ⟨_, last, rfl, hskip _ hend, hlast, hstop⟩

end ExpectFile.Grammar
