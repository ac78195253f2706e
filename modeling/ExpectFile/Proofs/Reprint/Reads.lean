import ExpectFile.Proofs.Reprint.Lockstep

/-!
# Reading a text on

Where a text is read from a place on, its first characters decide how it goes on. There is one lemma
for each of the steps of the lexer, the other way round than `Lexed` has them: from the characters
in front to what the tokens behind are.

* **`Reads.of_blank`**, **`Reads.of_line`**, **`Reads.of_newline`** — blanks and breaks.
* **`Reads.of_token`** — a lexeme is the next token.
* **`Reads.of_call`** — a printed call is read as its tokens.
-/

namespace ExpectFile.Grammar

open Text Reprint

/-! ## Where a text is read -/

/-- The rest of a text, and the place where it begins. -/
def At (whole : List Char) (p : Position) (text : List Char) : Prop :=
  ∃ front, whole = front ++ text ∧ p = Position.afterText ⟨1, 0⟩ front

/-- Behind some of its characters, the rest of a text begins further on. -/
theorem At.behind {whole text : List Char} {p : Position} (front : List Char)
    (h : At whole p (front ++ text)) :
    At whole (p.afterText front) text := by
  obtain ⟨before, rfl, rfl⟩ := h
  exact ⟨before ++ front, by rw [List.append_assoc], (Position.afterText_append _ _ _).symm⟩

/-- No line begins with a semicolon, and no statement is empty in front of one. `fresh` says whether
the tokens are those of a new line. -/
def tidy : (fresh : Bool) → List Token → Bool
  | _, [] => true
  | fresh, token :: rest =>
    match token.kind with
    | .newline => tidy true rest
    | .indent | .dedent => tidy fresh rest
    | .operator symbol => !(fresh && symbol == ";") && tidy false rest
    | .finish => true
    | _ => tidy false rest

/-- Tokens that are tidy on a new line are so behind the start of one. -/
theorem tidy_false_of_true {ts : List Token} (h : tidy true ts = true) : tidy false ts = true := by
  induction ts with
  | nil => rfl
  | cons token rest ih =>
    unfold tidy at h ⊢
    cases hkind : token.kind with
    | indent | dedent =>
      rw [hkind] at h
      exact ih h
    | operator symbol =>
      rw [hkind] at h
      exact (Bool.and_eq_true _ _ |>.mp h).2
    | finish => rfl
    | _ =>
      rw [hkind] at h
      exact h

/-- A text is read from a place on, in a mode of the lexer. -/
structure Reads (whole : List Char) (fresh : Bool) (mode : LineMode) (opened : List Indentation)
    (due : List String) (p : Position) (text : List Char) (ts : List Token) : Prop where
  lexed : Lexed mode opened due p text ts
  place : At whole p text
  tidy : tidy fresh ts = true

variable {whole text rest : List Char} {fresh : Bool} {depth : Indentation} {carried : Option Nat}
  {opened : List Indentation} {due : List String} {p : Position} {ts : List Token} {c : Char}

/-- A character that counts for the depth of a line is a blank. -/
theorem isGap_of_behind {deeper : Indentation} (h : depth.behind c = some deeper) :
    isGap c = true := by
  unfold Indentation.behind at h
  split at h
  next heq => rw [heq]; rfl
  split at h
  next heq => rw [heq]; rfl
  split at h
  next heq => rw [heq]; rfl
  exact absurd h nofun

/-- Every blank counts for the depth of a line. -/
theorem exists_behind_of_isGap (h : isGap c = true) (depth : Indentation) :
    ∃ deeper, depth.behind c = some deeper := by
  unfold Indentation.behind
  simp only [isGap, Bool.or_eq_true, beq_iff_eq] at h
  rcases h with (rfl | rfl) | rfl
  · exact ⟨_, rfl⟩
  · exact ⟨_, rfl⟩
  · exact ⟨_, rfl⟩

/-- The marks in front of a line. -/
theorem kinds_of_indentationMarks {opened' : List Indentation} {marks : List Token.Kind}
    (h : indentationMarks depth opened = some (marks, opened')) :
    ∀ kind ∈ marks, kind = .indent ∨ kind = .dedent := by
  unfold indentationMarks at h
  dsimp only at h
  split at h
  · split at h
    · obtain ⟨rfl, -⟩ := Prod.mk.inj (Option.some.inj h)
      exact fun kind hkind => .inl (List.mem_singleton.mp hkind)
    · exact absurd h nofun
  · obtain ⟨result, -, heq⟩ := Option.map_eq_some_iff.mp h
    obtain ⟨rfl, -⟩ := Prod.mk.inj heq
    exact fun kind hkind => .inr (List.eq_of_mem_replicate hkind)

/-- A lexeme is no mark of layout. -/
theorem isInner_of_lexeme? {text characters rest : List Char} {kind : Token.Kind}
    (h : lexeme? text = some (kind, characters, rest)) :
    kind.isInner = true ∨ kind = .operator ";" := by
  -- among the operators only the semicolon ends a statement
  have hoperator : ∀ symbol : String, (Token.Kind.operator symbol).isInner = true
      ∨ Token.Kind.operator symbol = .operator ";" := by
    intro symbol
    by_cases hsymbol : symbol = ";"
    · exact .inr (congrArg _ hsymbol)
    · exact .inl (bne_iff_ne.mpr hsymbol)
  cases hletters : literalLetters text with
  | some found =>
    rw [lexeme?_literal_eq hletters] at h
    obtain ⟨_, -, h⟩ := Option.bind_eq_some_iff.mp h
    obtain ⟨rfl, -⟩ := Prod.mk.inj (Option.some.inj h)
    exact .inl rfl
  | none =>
    cases text with
    | nil => exact absurd h nofun
    | cons c behind =>
      rw [lexeme?_cons hletters] at h
      split at h
      · obtain ⟨_, -, h⟩ := Option.bind_eq_some_iff.mp h
        obtain ⟨rfl, -⟩ := Prod.mk.inj (Option.some.inj h)
        exact .inl rfl
      split at h
      · unfold word at h
        split at h
        · obtain ⟨rfl, -⟩ := Prod.mk.inj (Option.some.inj h)
          exact .inl rfl
        split at h
        · obtain ⟨rfl, -⟩ := Prod.mk.inj (Option.some.inj h)
          exact .inl rfl
        · exact absurd h nofun
      · obtain ⟨symbol, -, h⟩ := Option.bind_eq_some_iff.mp h
        obtain ⟨rfl, -⟩ := Prod.mk.inj (Option.some.inj h)
        exact hoperator symbol

namespace Reads

/-! ### At the start of a line -/

/-- A blank at the start of a line counts for its depth. -/
theorem of_blank {deeper : Indentation} (hc : depth.behind c = some deeper)
    (h : Reads whole fresh (.fresh depth carried) opened due p (c :: rest) ts) :
    Reads whole fresh (.fresh deeper carried) opened due (p.after c) rest ts := by
  obtain ⟨hlexed, hplace, htidy⟩ := h
  have hgap := isGap_of_behind hc
  cases hlexed with
  | blank hc' hrest =>
    obtain rfl := Option.some.inj (hc.symm.trans hc')
    exact ⟨hrest, hplace.behind [c], htidy⟩
  | carry | emptyLine | commentLine => exact absurd hgap (by decide)
  | line hvisible | bracketed hvisible => simp [startsVisible, hgap] at hvisible

/-- A joined line at the start of a line goes on counting. -/
theorem of_carry
    (h : Reads whole fresh (.fresh depth carried) opened due p ('\\' :: '\n' :: rest) ts) :
    Reads whole fresh (.fresh depth (depth.carriedOn carried)) opened due
      ((p.after '\\').after '\n') rest ts := by
  obtain ⟨hlexed, hplace, htidy⟩ := h
  cases hlexed with
  | blank hc => exact absurd (isGap_of_behind hc) (by decide)
  | carry _ hrest => exact ⟨hrest, hplace.behind ['\\', '\n'], htidy⟩
  | line _ hslash | bracketed _ hslash => exact absurd rfl hslash

/-- A line without anything is passed over. -/
theorem of_emptyLine (h : Reads whole fresh (.fresh depth carried) opened due p ('\n' :: rest) ts) :
    Reads whole fresh .start opened due (p.after '\n') rest ts := by
  obtain ⟨hlexed, hplace, htidy⟩ := h
  cases hlexed with
  | blank hc => exact absurd (isGap_of_behind hc) (by decide)
  | emptyLine hrest => exact ⟨hrest, hplace.behind ['\n'], htidy⟩
  | line hvisible | bracketed hvisible => exact absurd hvisible (by decide)

/-- Two texts up to the first line feed are the same. -/
theorem eq_of_append_lineFeed {front front' rest rest' : List Char} (hfront : ∀ c ∈ front, c ≠ '\n')
    (hfront' : ∀ c ∈ front', c ≠ '\n') (h : front ++ '\n' :: rest = front' ++ '\n' :: rest') :
    front = front' ∧ rest = rest' := by
  induction front generalizing front' with
  | nil =>
    cases front' with
    | nil => exact ⟨rfl, (List.cons.inj h).2⟩
    | cons c front' => exact absurd (List.cons.inj h).1.symm (hfront' c List.mem_cons_self)
  | cons c front ih =>
    cases front' with
    | nil => exact absurd (List.cons.inj h).1 (hfront c List.mem_cons_self)
    | cons c' front' =>
      obtain ⟨rfl, hrest⟩ := List.cons.inj h
      obtain ⟨rfl, rfl⟩ := ih (fun c hc => hfront c (List.mem_cons_of_mem _ hc))
        (fun c hc => hfront' c (List.mem_cons_of_mem _ hc)) hrest
      exact ⟨rfl, rfl⟩

/-- So is a comment that stands alone. -/
theorem of_commentLine {comment : List Char} (hcomment : ∀ c ∈ comment, c ≠ '\n')
    (h : Reads whole fresh (.fresh depth carried) opened due p
      ('#' :: comment ++ '\n' :: rest) ts) :
    Reads whole fresh (.fresh depth carried) opened due (p.afterText ('#' :: comment))
      ('\n' :: rest) ts := by
  obtain ⟨hlexed, hplace, htidy⟩ := h
  generalize htext : '#' :: comment ++ '\n' :: rest = text at hlexed
  cases hlexed with
  | blank hc =>
    obtain ⟨rfl, -⟩ := List.cons.inj htext
    exact absurd (isGap_of_behind hc) (by decide)
  | carry | emptyLine => exact absurd (List.cons.inj htext).1 (by decide)
  | finish => exact absurd htext nofun
  | commentLine hcomment' hrest =>
    obtain ⟨rfl, rfl⟩ := eq_of_append_lineFeed hcomment hcomment' (List.cons.inj htext).2
    exact ⟨hrest, hplace.behind _, htidy⟩
  | line hvisible | bracketed hvisible =>
    obtain ⟨rfl, -⟩ := List.cons.inj htext
    exact absurd hvisible (by decide)

/-- Marks of indentation do not make a line untidy. -/
theorem tidy_of_indentationMarks {opened' : List Indentation} {marks : List Token.Kind}
    (hmarks : indentationMarks depth opened = some (marks, opened'))
    (h : Grammar.tidy fresh (marksAt p marks ++ ts) = true) : Grammar.tidy fresh ts = true := by
  have hkinds := kinds_of_indentationMarks hmarks
  clear hmarks
  induction marks with
  | nil => exact h
  | cons kind marks ih =>
    obtain ⟨hkind, hrest⟩ := List.forall_mem_cons.mp hkinds
    refine ih ?_ hrest
    rcases hkind with rfl | rfl <;> exact h

/-- The first token of a line comes behind the marks for its depth, of which none are due in
brackets. -/
theorem of_line (hvisible : startsVisible c = true) (hslash : c ≠ '\\')
    (h : Reads whole fresh (.fresh depth carried) opened [] p (c :: rest) ts) :
    ∃ marks opened' behind,
      indentationMarks (indentation.settled depth carried) opened = some (marks, opened')
        ∧ ts = marksAt p marks ++ behind
        ∧ Reads whole fresh .inside opened' [] p (c :: rest) behind := by
  obtain ⟨hlexed, hplace, htidy⟩ := h
  cases hlexed with
  | blank hc => simp [startsVisible, isGap_of_behind hc] at hvisible
  | carry => exact absurd rfl hslash
  | emptyLine | commentLine => exact absurd hvisible (by decide)
  | line _ _ hmarks hrest =>
    exact ⟨_, _, _, hmarks, rfl, hrest, hplace, tidy_of_indentationMarks hmarks htidy⟩
  | bracketed _ _ hdue => exact absurd rfl hdue

/-- In brackets the depth of a line does not matter. -/
theorem of_bracketed (hvisible : startsVisible c = true) (hslash : c ≠ '\\') (hdue : due ≠ [])
    (h : Reads whole fresh (.fresh depth carried) opened due p (c :: rest) ts) :
    Reads whole fresh .inside opened due p (c :: rest) ts := by
  obtain ⟨hlexed, hplace, htidy⟩ := h
  cases hlexed with
  | blank hc => simp [startsVisible, isGap_of_behind hc] at hvisible
  | carry => exact absurd rfl hslash
  | emptyLine | commentLine => exact absurd hvisible (by decide)
  | line => exact absurd rfl hdue
  | bracketed _ _ _ hrest => exact ⟨hrest, hplace, htidy⟩

/-! ### Inside a line -/

/-- No lexeme begins with a character that cannot start one. -/
theorem of_gap (hc : isGap c = true) (h : Reads whole fresh .inside opened due p (c :: rest) ts) :
    Reads whole fresh .inside opened due (p.after c) rest ts := by
  obtain ⟨hlexed, hplace, htidy⟩ := h
  cases hlexed with
  | gap _ hrest => exact ⟨hrest, hplace.behind [c], htidy⟩
  | newline | wrap | comment | join => exact absurd hc (by decide)
  | token hvisible => simp [startsVisible, hc] at hvisible

/-- The end of a line is a token where no brackets are due. -/
theorem of_newline (h : Reads whole fresh .inside opened [] p ('\n' :: rest) ts) :
    ∃ token behind, ts = token :: behind ∧ token.kind = .newline
      ∧ Reads whole true .start opened [] (p.after '\n') rest behind := by
  obtain ⟨hlexed, hplace, htidy⟩ := h
  cases hlexed with
  | gap hc => exact absurd hc (by decide)
  | newline hrest => exact ⟨_, _, rfl, rfl, hrest, hplace.behind ['\n'], htidy⟩
  | wrap hdue => exact absurd rfl hdue
  | token hvisible => exact absurd hvisible (by decide)

/-- In brackets it is none. -/
theorem of_wrap (hdue : due ≠ []) (h : Reads whole fresh .inside opened due p ('\n' :: rest) ts) :
    Reads whole fresh .start opened due (p.after '\n') rest ts := by
  obtain ⟨hlexed, hplace, htidy⟩ := h
  cases hlexed with
  | gap hc => exact absurd hc (by decide)
  | newline => exact absurd rfl hdue
  | wrap _ hrest => exact ⟨hrest, hplace.behind ['\n'], htidy⟩
  | token hvisible => exact absurd hvisible (by decide)

/-- A comment behind a token is passed over up to the end of the line. -/
theorem of_comment {comment : List Char} (hcomment : ∀ c ∈ comment, c ≠ '\n')
    (h : Reads whole fresh .inside opened due p ('#' :: comment ++ '\n' :: rest) ts) :
    Reads whole fresh .inside opened due (p.afterText ('#' :: comment)) ('\n' :: rest) ts := by
  obtain ⟨hlexed, hplace, htidy⟩ := h
  generalize htext : '#' :: comment ++ '\n' :: rest = text at hlexed
  cases hlexed with
  | gap hc =>
    obtain ⟨rfl, -⟩ := List.cons.inj htext
    exact absurd hc (by decide)
  | newline | wrap | join => exact absurd (List.cons.inj htext).1 (by decide)
  | comment hcomment' hrest =>
    obtain ⟨rfl, rfl⟩ := eq_of_append_lineFeed hcomment hcomment' (List.cons.inj htext).2
    exact ⟨hrest, hplace.behind _, htidy⟩
  | token hvisible =>
    obtain ⟨rfl, -⟩ := List.cons.inj htext
    exact absurd hvisible (by decide)

/-- So is a backslash with the line break behind it. -/
theorem of_join (h : Reads whole fresh .inside opened due p ('\\' :: '\n' :: rest) ts) :
    Reads whole fresh .inside opened due ((p.after '\\').after '\n') rest ts := by
  obtain ⟨hlexed, hplace, htidy⟩ := h
  cases hlexed with
  | gap hc => exact absurd hc (by decide)
  | join _ hrest => exact ⟨hrest, hplace.behind ['\\', '\n'], htidy⟩
  | token _ hslash => exact absurd rfl (hslash rest)

/-- What a token leaves to be tidy. -/
theorem tidy_behind {token : Token} (h : Grammar.tidy fresh (token :: ts) = true)
    (hkind : token.kind.isInner = true ∨ token.kind = .operator ";") :
    (fresh = true → token.kind ≠ .operator ";") ∧ Grammar.tidy false ts = true := by
  unfold Grammar.tidy at h
  cases hfound : token.kind with
  | newline | indent | dedent | finish =>
    rw [hfound] at hkind
    rcases hkind with hkind | hkind <;> exact absurd hkind nofun
  | operator symbol =>
    rw [hfound] at h
    obtain ⟨hfirst, hrest⟩ := (Bool.and_eq_true _ _).mp h
    refine ⟨fun hfresh heq => ?_, hrest⟩
    obtain rfl := Token.Kind.operator.inj heq
    rw [hfresh] at hfirst
    exact absurd hfirst (by decide)
  | _ =>
    rw [hfound] at h
    exact ⟨fun _ => nofun, h⟩

/-- **A lexeme is the next token.** It is no semicolon where a line is new, because the tokens are
tidy. -/
theorem of_token {due' : List String} {kind : Token.Kind} {characters : List Char}
    (hvisible : startsVisible c = true) (hslash : ∀ after, c :: text ≠ '\\' :: '\n' :: after)
    (hlexeme : lexeme? (c :: text) = some (kind, characters, rest))
    (hdue : bracketsAfter due kind = some due')
    (h : Reads whole fresh .inside opened due p (c :: text) ts) :
    (fresh = true → kind ≠ .operator ";")
      ∧ ∃ behind, ts = ⟨kind, p, p.afterText characters⟩ :: behind
        ∧ Reads whole false .inside opened due' (p.afterText characters) rest behind := by
  obtain ⟨hlexed, hplace, htidy⟩ := h
  cases hlexed with
  | gap hc => simp [startsVisible, hc] at hvisible
  | newline | wrap | comment => exact absurd hvisible (by decide)
  | join => exact absurd rfl (hslash _)
  | token _ _ hlexeme' hdue' hrest =>
    obtain ⟨rfl, rfl, rfl⟩ : kind = _ ∧ characters = _ ∧ rest = _ := by
      simpa using hlexeme.symm.trans hlexeme'
    obtain rfl := Option.some.inj (hdue.symm.trans hdue')
    rw [(lexeme?_eq_append hlexeme).1] at hplace
    obtain ⟨hfirst, hmore⟩ := tidy_behind htidy (isInner_of_lexeme? hlexeme)
    exact ⟨hfirst, _, rfl, hrest, hplace.behind _, hmore⟩

/-- **A printed call is read as its tokens.** -/
theorem of_call {name content : String} (hname : Callable name)
    (h : Reads whole fresh .inside opened [] p (call name content ++ rest) ts) :
    ∃ q r s behind,
      ts = callTokens name content p q r s (p.afterText (call name content)) ++ behind
        ∧ Reads whole false .inside opened [] (p.afterText (call name content)) rest behind := by
  have hbegin : ∀ {text : List Char}, beginsLexeme text = true → ∃ c behind, text = c :: behind
      ∧ startsVisible c = true ∧ c ≠ '\\' := by
    intro text hbegins
    obtain ⟨c, behind, rfl, hgap, hfeed, hcomment, hslash⟩ := exists_eq_cons_of_beginsLexeme hbegins
    exact ⟨c, behind, rfl, by simp [startsVisible, hgap, hfeed, hcomment], hslash⟩
  have hstep : ∀ {fresh : Bool} {due due' : List String} {p : Position} {kind : Token.Kind}
      (characters : List Char) {rest : List Char} {ts : List Token},
      beginsLexeme characters = true →
      lexeme? (characters ++ rest) = some (kind, characters, rest) →
      bracketsAfter due kind = some due' →
      Reads whole fresh .inside opened due p (characters ++ rest) ts →
      ∃ behind, ts = ⟨kind, p, p.afterText characters⟩ :: behind
        ∧ Reads whole false .inside opened due' (p.afterText characters) rest behind := by
    intro fresh due due' p kind characters rest ts hbegins hlexeme hdue h
    obtain ⟨c, behind, rfl, hvisible, hslash⟩ := hbegin hbegins
    exact (of_token hvisible (fun after heq => hslash (List.cons.inj heq).1) hlexeme hdue h).2
  -- a call is four lexemes, each of which is read in front of the next
  have hsplit : call name content ++ rest
      = name.toList ++ ('(' :: (literal content.toList ++ (')' :: rest))) := by
    simp [call]
  have hplace : p.afterText (call name content)
      = (((p.afterText name.toList).afterText ['(']).afterText (literal content.toList)).afterText
          [')'] := by
    simp only [call, ← Position.afterText_append]
    simp
  rw [hsplit] at h
  obtain ⟨_, rfl, hopening⟩ := hstep _ hname.begins (hname.lexeme _) rfl h
  obtain ⟨_, rfl, hliteral⟩ := hstep ['('] rfl (lexeme?_mark (.inl rfl) _) rfl hopening
  obtain ⟨_, rfl, hclosing⟩ := hstep _ (beginsLexeme_literal _) (lexeme?_literal _ _) rfl hliteral
  obtain ⟨_, rfl, hrest⟩ := hstep [')'] rfl (lexeme?_mark (.inr (.inl rfl)) _) rfl hclosing
  exact ⟨_, _, _, _, by rw [hplace]; rfl, hplace ▸ hrest⟩

end Reads

end ExpectFile.Grammar
