import ExpectFile.Proofs.Reprint.Fitting

/-!
# The lexer on a reprint

The reprint of a text can be lexed, and so its tokens are those of a reprint (`Reprints`). The text
and its reprint are lexed next to each other, with the stages of the outline going along (`Synced`).
The one thing that comes out of step are the dedents in front of a line of which nothing is printed:
in the reprint they come in front of a later line, and `Pends` keeps them until then.

* **`leads_of_emptied`**, **`reprints_of_joined`** — behind a statement that is not printed.
* **`reprints_of_call`** — behind a printed call.
* **`leads_inside`**, **`leads_fresh`** — one step of the lexer, in a line and in front of one.
* **`follows`** — the reprint has the tokens of a reprint, by induction on the steps.
-/

namespace ExpectFile.Grammar

open Text Reprint

variable {printing : Printing} {stands : List Char → String → String → Prop}
  {drops : ParsedStatement → List Char → Prop} {p q p' : Position}
  {text text' rest front whole : List Char} {statement : ParsedStatement}
  {statements : List ParsedStatement} {c : Char} {mode : LineMode} {fresh : Bool}
  {opened opened' : List Indentation} {due due' left : List String} {ts ts' : List Token}
  {marks : Option Expr → Bool} {nested : Nested} {σ τ : Stage} {items : List Item} {token : Token}
  {depth : Indentation} {carried : Option Nat} {kinds : List Token.Kind}
  {placed : Position → String → String → Prop}

/-! ## At the next token -/

theorem Overwrites.eq_nil (h : Overwrites printing stands drops p [] [] text') : text' = [] := by
  generalize htext : ([] : List Char) = text at h
  generalize hstatements : ([] : List ParsedStatement) = statements at h
  cases h with
  | nil => rfl
  | copy => exact absurd htext nofun
  | call | drop | dropLine => exact absurd hstatements nofun

/-- Inside of a line, the first character that is no blank begins a token. -/
theorem Lexed.of_visible (h : Lexed .inside opened due p (c :: text) ts)
    (hc : startsVisible c = true) (hslash : ∀ after, c :: text ≠ '\\' :: '\n' :: after) :
    ∃ kind characters rest due' behind, lexeme? (c :: text) = some (kind, characters, rest)
      ∧ bracketsAfter due kind = some due' ∧ ts = ⟨kind, p, p.afterText characters⟩ :: behind
      ∧ Lexed .inside opened due' (p.afterText characters) rest behind := by
  cases h with
  | gap hgap => simp [startsVisible, hgap] at hc
  | newline | wrap | comment => exact absurd hc (by decide)
  | join => exact absurd rfl (hslash _)
  | token _ _ hlexeme hdue hrest => exact ⟨_, _, _, _, _, hlexeme, hdue, rfl, hrest⟩

theorem lexeme?_backslash (text : List Char) : lexeme? ('\\' :: text) = none := by
  unfold lexeme?
  rw [literalLetters_eq_none_of (by decide) (by decide) (fun _ => rfl)]
  rfl

/-- A lexeme begins with the first character of the text, which is no backslash. -/
theorem exists_eq_cons_of_lexeme? {kind : Token.Kind} {characters : List Char}
    (h : lexeme? (c :: text) = some (kind, characters, rest)) :
    ∃ more, characters = c :: more ∧ text = more ++ rest ∧ c ≠ '\\' := by
  obtain ⟨d, more, rfl⟩ := List.exists_cons_of_ne_nil (ne_nil_of_lexeme? h)
  obtain ⟨rfl, htext⟩ := List.cons.inj (lexeme?_eq_append h).1
  refine ⟨more, rfl, htext, ?_⟩
  rintro rfl
  rw [lexeme?_backslash] at h
  cases h

/-- A token that is no part of a marked statement is kept, with what the lexer sees of it. -/
theorem Overwrites.of_lexeme {kind : Token.Kind} {characters : List Char}
    (hlexeme : lexeme? text = some (kind, characters, rest))
    (h : Lexed .inside opened due (p.afterText characters) rest (flat items))
    (houtline : Outline marks nested τ items) (hfits : τ.Fits opened due)
    (hready : kind.isInner = true → τ.isReady = false)
    (hover : Overwrites printing stands drops p text (marked items) text') :
    ∃ rest', text' = characters ++ rest'
      ∧ Overwrites printing stands drops (p.afterText characters) rest (marked items) rest'
      ∧ lexeme? text' = some (kind, characters, rest') := by
  obtain rfl : text = characters ++ rest := (lexeme?_eq_append hlexeme).1
  obtain ⟨rest', rfl, hrest'⟩ :=
    hover.copies _ fun statement hmem => h.le_start_of_marked houtline hmem
  refine ⟨rest', rfl, hrest', ?_⟩
  rcases isInner_of_lexeme? hlexeme with hinner | rfl
  · by_cases hmarked : marked items = []
    · rw [hmarked, ← List.append_nil rest] at hrest'
      obtain ⟨last, rfl, hlast⟩ := hrest'.copies rest (by simp)
      obtain rfl := hlast.eq_nil
      rwa [List.append_nil]
    -- up to the next marked statement there is a stop, and up to the stop the texts are the same
    · obtain ⟨front, d, back, rfl, hlast, hd, hstart⟩ :=
        h.exists_stop (.inl rfl) houtline (hready hinner) hfits hmarked
      obtain ⟨back', rfl, -⟩ := hrest'.copies _ hstart
      rw [← List.append_assoc] at hlexeme ⊢
      exact lexeme?_append hd hlast hlexeme back'
  · obtain rfl : characters = [';'] := (lexeme?_eq_append hlexeme).2.2 ";" rfl
    exact lexeme?_mark (.inr (.inr rfl)) rest'

/-- What stands in front of the next token is kept. -/
theorem Overwrites.behind (front : List Char)
    (h : Overwrites printing stands drops p (front ++ rest) (marked items) text')
    (hrest : Lexed mode opened due (p.afterText front) rest (flat items))
    (houtline : Outline marks nested σ items) :
    ∃ rest', text' = front ++ rest'
      ∧ Overwrites printing stands drops (p.afterText front) rest (marked items) rest' :=
  h.copies front fun _ hmem => hrest.le_start_of_marked houtline hmem

/-- So is the line feed at the end of a line. -/
theorem Overwrites.behind_feed
    (h : Overwrites printing stands drops p ('\n' :: rest) (marked items) text')
    (hfeed : Lexed mode opened due p ('\n' :: rest) (flat items))
    (houtline : Outline marks nested σ items) :
    ∃ rest', text' = '\n' :: rest' := by
  suffices hstart : ∀ statement ∈ marked items, p.after '\n' ≤ statement.start by
    obtain ⟨rest', rfl, -⟩ := h.copies_one hstart
    exact ⟨rest', rfl⟩
  intro statement hmem
  generalize hflat : flat items = all at hfeed
  cases hfeed with
  | blank hc => exact absurd (isGap_of_behind hc) (by decide)
  | gap hc => exact absurd hc (by decide)
  | line hc | bracketed hc | token hc => exact absurd hc (by decide)
  | emptyLine hrest | wrap _ hrest => exact (hflat ▸ hrest).le_start_of_marked houtline hmem
  | newline hrest =>
    obtain ⟨opens, τ, items', rfl, rfl, -, houtline'⟩ := houtline.of_outer hflat rfl nofun
    exact hrest.le_start_of_marked houtline' hmem

/-- Between marks of layout there is no marked statement. -/
theorem Outline.marked_eq_nil (h : Outline marks nested σ items)
    (houter : ∀ token ∈ flat items, token.kind.isInner = false) : marked items = [] := by
  rw [List.eq_nil_iff_forall_not_mem]
  intro statement hmem
  obtain ⟨token, htoken, -, hinner⟩ := h.exists_token hmem
  exact absurd (hinner.symm.trans (houter token htoken)) nofun

/-- The tokens at the end of a text are marks of layout. -/
theorem isInner_of_finish {found : List Token.Kind}
    (h : indentationMarks depth opened = some (found, opened')) :
    ∀ token ∈ marksAt p (found ++ [.finish]), token.kind.isInner = false := by
  intro token hmem
  obtain ⟨kind, hkind, rfl⟩ := List.mem_map.mp hmem
  rcases List.mem_append.mp hkind with hkind | hkind
  · exact isInner_of_indentationMarks h kind hkind
  · obtain rfl := List.mem_singleton.mp hkind
    rfl

/-- A token that is no part of a marked statement begins alike. -/
theorem Overwrites.of_visible (hc : startsVisible c = true) (hslash : c ≠ '\\')
    (h : Lexed .inside opened due p (c :: text) (flat items))
    (houtline : Outline marks nested σ items) (hfits : σ.Fits opened due)
    (hover : Overwrites printing stands drops p (c :: text) (marked items) text') :
    (∃ rest', text' = c :: rest')
      ∨ σ.isReady = true ∧ ∃ tokens statement items', items = .mark tokens statement :: items' := by
  obtain ⟨kind, characters, rest, due', behind, hlexeme, hdue, hflat, hrest⟩ :=
    h.of_visible hc fun _ heq => hslash (List.cons.inj heq).1
  rcases houtline.of_inside hflat (isInner_of_lexeme? hlexeme) hfits hdue with
    ⟨τ, items', rfl, rfl, houtline', -⟩ | ⟨tokens, statement, items', rfl⟩
  · obtain ⟨more, rfl, rfl, -⟩ := exists_eq_cons_of_lexeme? hlexeme
    have hover : Overwrites printing stands drops p (c :: more ++ rest) (marked items') text' :=
      hover
    obtain ⟨rest', rfl, -⟩ := hover.behind (c :: more) hrest houtline'
    exact .inl ⟨more ++ rest', rfl⟩
  · exact .inr ⟨houtline.isReady_of_mark, tokens, statement, items', rfl⟩

/-! ## At a marked statement -/

/-- **A marked statement has its place in the text**, and the lexer is behind it. -/
theorem Lexed.behind_mark {tokens : List Token} (hc : startsVisible c = true)
    (hslash : ∀ after, c :: text ≠ '\\' :: '\n' :: after)
    (h : Lexed .inside [] [] p (c :: text) (flat (.mark tokens statement :: items)))
    (houtline : Outline marks nested σ (.mark tokens statement :: items)) :
    ∃ spelled rest, c :: text = spelled ++ rest ∧ spelled.head? = some c
      ∧ (∃ d, spelled.getLast? = some d ∧ d ≠ '\n')
      ∧ statement.start = p ∧ statement.stop = p.afterText spelled ∧ statement.decorator = none
      ∧ Lexed .inside [] [] (p.afterText spelled) rest (flat items)
      ∧ Outline marks nested .done items := by
  cases houtline with
  | mark _ _ _ hturns hstart hstop hdecorator houtline =>
    obtain ⟨first, others, due, rfl, hfirst, -⟩ := exists_of_turns hturns hstart
    obtain ⟨kind, characters, after, due', behind, -, -, hts, -⟩ := h.of_visible hc hslash
    obtain ⟨rfl, -⟩ := List.cons.inj hts
    have h : Lexed .inside [] [] p (c :: text) ((_ :: others) ++ flat items) := h
    obtain ⟨spelled, rest, hspelled, hend, hrest, hlast⟩ :=
      h.behind_tokens (.inl rfl) (List.cons_ne_nil _ _) hturns
    refine ⟨spelled, rest, hspelled, ?_, hend, hfirst.symm,
      Option.some.inj (hstop.symm.trans hlast), hdecorator, hrest, houtline⟩
    cases spelled with
    | nil =>
      obtain ⟨_, hend, -⟩ := hend
      cases hend
    | cons d spelled => exact congrArg some (List.cons.inj hspelled).1.symm

/-- A marked statement is overwritten, and the lexer is behind it. -/
theorem Overwrites.of_mark {tokens : List Token} (hc : startsVisible c = true)
    (hslash : ∀ after, c :: text ≠ '\\' :: '\n' :: after)
    (h : Lexed .inside [] [] p (c :: text) (flat (.mark tokens statement :: items)))
    (houtline : Outline marks nested σ (.mark tokens statement :: items))
    (hover : Overwrites printing stands drops p (c :: text) (statement :: marked items) text') :
    ∃ spelled rest, c :: text = spelled ++ rest ∧ spelled ≠ []
      ∧ Lexed .inside [] [] (p.afterText spelled) rest (flat items)
      ∧ Outline marks nested .done items
      ∧ ((∃ name content rest', printing statement = some (name, content)
            ∧ stands (Reprint.call name content ++ rest') name content
            ∧ text' = Reprint.call name content ++ rest'
            ∧ Overwrites printing stands drops (p.afterText spelled) rest (marked items) rest')
        ∨ printing statement = none
          ∧ Overwrites printing stands drops (p.afterText spelled) rest (marked items) text'
        ∨ printing statement = none
          ∧ ∃ feed items' rest', rest = '\n' :: rest' ∧ items = .keep feed :: items'
            ∧ feed.kind = .newline ∧ Outline marks nested .top items'
            ∧ Lexed .start [] [] ((p.afterText spelled).after '\n') rest' (flat items')
            ∧ drops statement text'
            ∧ Overwrites printing stands drops ((p.afterText spelled).after '\n') rest'
                (marked items') text') := by
  obtain ⟨spelled, rest, hspelled, hhead, -, hstart, hstop, -, hrest, houtline⟩ :=
    h.behind_mark hc hslash houtline
  have hne : spelled ≠ [] := by
    rintro rfl
    cases hhead
  rw [hspelled] at hover
  refine ⟨spelled, rest, hspelled, hne, hrest, houtline, ?_⟩
  rcases hover.of_start hstart hstop with hcall | ⟨hnone, hdrop | ⟨rest', rfl, hdrops, hdrop⟩⟩
  · exact .inl hcall
  · exact .inr (.inl ⟨hnone, hdrop⟩)
  · refine .inr (.inr ⟨hnone, ?_⟩)
    generalize hflat : flat items = all at hrest
    cases hrest with
    | gap hgap => exact absurd hgap (by decide)
    | newline hrest =>
      -- a line feed behind the statement ends its line, as no brackets are due
      obtain ⟨-, -, items', rfl, rfl, -, -⟩ := houtline.of_outer hflat rfl nofun
      exact ⟨_, items', rest', rfl, rfl, rfl, houtline.of_feed rfl, hrest, hdrops, hdrop⟩
    | wrap hdue => exact absurd rfl hdue
    | token hvisible => exact absurd hvisible (by decide)

/-! ## Dedents that are left over -/

/-- What is left over in the reprint in front of a line: nothing, or the dedents of a line of which
nothing is printed. `opened'` are the indentations that are open in the reprint. -/
def Pends (σ : Stage) (mode : LineMode) (opened opened' : List Indentation)
    (kinds : List Token.Kind) : Prop :=
  kinds = [] ∧ opened' = opened
    ∨ mode ≠ .inside ∧ σ = .top ∧ indentationMarks ⟨0, 0⟩ opened' = some (kinds, [])

/-- The marks of the next line come behind them. -/
theorem Pends.next_line {opened'' : List Indentation} {found : List Token.Kind}
    (h : Pends σ mode opened opened' kinds) (hfits : σ.Fits opened [])
    (hmarks : indentationMarks depth opened = some (found, opened''))
    (hnone : σ = .top → found = []) :
    indentationMarks depth opened' = some (kinds ++ found, opened'') := by
  rcases h with ⟨rfl, rfl⟩ | ⟨-, rfl, hpends⟩
  · exact hmarks
  · obtain rfl := hnone rfl
    obtain ⟨rfl, -⟩ := hfits
    rcases indentationMarks_cases hmarks with ⟨heq, -⟩ | ⟨closed, -, hclosed, hdepth⟩
    · exact absurd heq nofun
    · obtain ⟨-, rfl⟩ := List.append_eq_nil_iff.mp hclosed.symm
      rw [hdepth rfl, hpends, List.append_nil]

/-- The tokens of a reprint, behind the dedents that are left over. -/
def Leads (printing : Printing) (placed : Position → String → String → Prop)
    (kinds : List Token.Kind) (items : List Item) (ts : List Token) : Prop :=
  ∃ front back, ts = front ++ back ∧ front.map (·.kind) = kinds
    ∧ Reprints printing placed items back

theorem leads_nil (h : Reprints printing placed items ts) : Leads printing placed [] items ts :=
  ⟨[], ts, rfl, rfl, h⟩

theorem Leads.reprints
    (h : Leads printing placed [] items ts) : Reprints printing placed items ts := by
  obtain ⟨front, back, rfl, hfront, hback⟩ := h
  obtain rfl := List.map_eq_nil_iff.mp hfront
  exact hback

theorem Leads.mono {items' : List Item} (h : Leads printing placed kinds items ts)
    (hmono : ∀ {ts}, Reprints printing placed items ts → Reprints printing placed items' ts) :
    Leads printing placed kinds items' ts := by
  obtain ⟨front, back, rfl, hfront, hback⟩ := h
  exact ⟨front, back, rfl, hfront, hmono hback⟩

/-- Tokens that are kept. -/
theorem Reprints.keeps {tokens tokens' : List Token}
    (hkinds : tokens.map (·.kind) = tokens'.map (·.kind))
    (h : Reprints printing placed items ts) :
    Reprints printing placed (tokens.map .keep ++ items) (tokens' ++ ts) := by
  induction tokens generalizing tokens' with
  | nil =>
    obtain rfl := List.map_eq_nil_iff.mp hkinds.symm
    exact h
  | cons token tokens ih =>
    cases tokens' with
    | nil => exact absurd hkinds nofun
    | cons token' tokens' =>
      obtain ⟨hkind, hrest⟩ := List.cons.inj hkinds
      exact .keep hkind (ih hrest)

theorem kinds_marksAt (p : Position) (kinds : List Token.Kind) :
    (marksAt p kinds).map (·.kind) = kinds := by
  unfold marksAt
  rw [List.map_map]
  exact List.map_id kinds

/-- Dedents that are left over are items that come late. -/
theorem Leads.keeps {found : List Token.Kind}
    (h : Leads printing placed (kinds ++ found) items ts) :
    Leads printing placed kinds ((marksAt p found).map .keep ++ items) ts := by
  obtain ⟨front, back, rfl, hfront, hback⟩ := h
  obtain ⟨first, second, rfl, hfirst, hsecond⟩ := List.map_eq_append_iff.mp hfront
  refine ⟨first, second ++ back, by rw [List.append_assoc], hfirst, hback.keeps ?_⟩
  rw [kinds_marksAt, hsecond]

/-- The marks of a line. -/
theorem leads_marksAt (h : Reprints printing placed items ts) (p : Position)
    (kinds : List Token.Kind) : Leads printing placed kinds items (marksAt p kinds ++ ts) :=
  ⟨marksAt p kinds, ts, rfl, kinds_marksAt p kinds, h⟩

/-! ## The lexer in a text and in its reprint -/

/-- What holds at the start of a line: no backslash has decided on depth zero, and outside of
brackets the line is a new one. -/
def LineMode.Begins (fresh : Bool) (due : List String) : LineMode → Prop
  | .fresh _ carried => carried ≠ some 0 ∧ (due = [] → fresh = true)
  | .inside => True

/-- **A text and its reprint are lexed next to each other.** -/
structure Synced (printing : Printing) (stands : List Char → String → String → Prop)
    (drops : ParsedStatement → List Char → Prop)
    (marks : Option Expr → Bool) (nested : Nested) (whole : List Char) (mode : LineMode)
    (opened opened' : List Indentation) (due : List String) (kinds : List Token.Kind)
    (p p' : Position) (text text' : List Char) (items : List Item) (σ : Stage) (fresh : Bool)
    (ts' : List Token) : Prop where
  lexed : Lexed mode opened due p text (flat items)
  outline : Outline marks nested σ items
  fits : σ.Fits opened due
  overwrites : Overwrites printing stands drops p text (marked items) text'
  pends : Pends σ mode opened opened' kinds
  begins : mode.Begins fresh due
  reads : Reads whole fresh mode opened' due p' text' ts'

/-- Where a printed call stands. -/
def Stands (whole : List Char) (stands : List Char → String → String → Prop) (p : Position)
    (name content : String) : Prop :=
  ∃ rest, At whole p (call name content ++ rest) ∧ stands (call name content ++ rest) name content

/-- The reprint of a shorter text has the tokens of a reprint. -/
def Follows (printing : Printing) (stands : List Char → String → String → Prop)
    (drops : ParsedStatement → List Char → Prop)
    (marks : Option Expr → Bool) (nested : Nested) (whole : List Char) (steps : Nat) : Prop :=
  ∀ {mode : LineMode} {opened opened' : List Indentation} {due : List String}
    {kinds : List Token.Kind} {p p' : Position} {text text' : List Char} {items : List Item}
    {σ : Stage} {fresh : Bool} {ts' : List Token}, mode.steps text < steps →
    Synced printing stands drops marks nested whole mode opened opened' due kinds p p' text text'
      items σ fresh ts' → Leads printing (Stands whole stands) kinds items ts'

variable {steps : Nat} (hfollows : Follows printing stands drops marks nested whole steps)
include hfollows

/-! ### Behind a statement that is not printed, the first of its line -/

/-- In the reprint the line goes on being empty. -/
theorem leads_of_emptied (hsteps : LineMode.inside.steps text ≤ steps)
    (h : Lexed .inside [] [] p text (flat items)) (houtline : Outline marks nested .done items)
    (hover : Overwrites printing stands drops p text (marked items) text')
    (hpends : indentationMarks ⟨0, 0⟩ opened' = some (kinds, []))
    (hreads : Reads whole true (.fresh depth carried) opened' [] p' text' ts') :
    ∃ feed items', items = .keep feed :: items' ∧ feed.kind = .newline
      ∧ Leads printing (Stands whole stands) kinds items' ts' := by
  generalize hmode : LineMode.inside = mode at h
  generalize hopened : ([] : List Indentation) = opened at h
  generalize hdue : ([] : List String) = due at h
  generalize hflat : flat items = all at h
  induction h generalizing text' p' depth carried with
  | blank | carry | finish | emptyLine | commentLine | line | bracketed => exact absurd hmode nofun
  | wrap hne => exact absurd hdue.symm hne
  | @gap _ _ p c rest _ hc hrest ih =>
    obtain ⟨rest', rfl, hover'⟩ := hover.behind [c] (hflat ▸ hrest) houtline
    obtain ⟨deeper, hdeeper⟩ := exists_behind_of_isGap hc depth
    exact ih (LineMode.steps_lt_of_append [c] nofun hsteps).le hover' (hreads.of_blank hdeeper) rfl
      hopened hdue hflat
  | @comment _ _ p comment rest _ hcomment hrest ih =>
    obtain ⟨rest', rfl, hover'⟩ := hover.behind ('#' :: comment) (hflat ▸ hrest) houtline
    obtain ⟨last, rfl⟩ := hover'.behind_feed (hflat ▸ hrest) houtline
    exact ih (LineMode.steps_lt_of_append ('#' :: comment) nofun hsteps).le hover'
      (hreads.of_commentLine hcomment) rfl hopened hdue hflat
  | @join _ _ p rest _ hne hrest ih =>
    obtain ⟨rest', rfl, hover'⟩ := hover.behind ['\\', '\n'] (hflat ▸ hrest) houtline
    exact ih (LineMode.steps_lt_of_append ['\\', '\n'] nofun hsteps).le hover' hreads.of_carry rfl
      hopened hdue hflat
  | @newline _ p rest _ hrest =>
    subst hopened
    obtain ⟨-, -, items', rfl, rfl, -, -⟩ := houtline.of_outer hflat rfl nofun
    have houtline' := houtline.of_feed rfl
    have hover : Overwrites printing stands drops p (['\n'] ++ rest) (marked items') text' := hover
    obtain ⟨rest', rfl, hover'⟩ := hover.behind ['\n'] hrest houtline'
    have hlength : LineMode.start.steps rest < steps :=
      LineMode.steps_lt_of_append _ (List.cons_ne_nil '\n' []) hsteps
    exact ⟨_, items', rfl, rfl, hfollows hlength ⟨hrest, houtline', ⟨rfl, rfl⟩, hover',
      .inr ⟨nofun, rfl, hpends⟩, ⟨nofun, fun _ => rfl⟩, hreads.of_emptyLine⟩⟩
  | @token _ _ _ p c text kind characters rest _ hc hslash hlexeme _ hrest ih =>
    cases houtline with
    | finish _ hσ => exact absurd hσ (by simp)
    | plain hready => exact absurd hready nofun
    | mark hready => exact absurd hready nofun
    | @token _ _ _ items' hafter houtline' =>
      obtain ⟨rfl, rfl⟩ := List.cons.inj hflat
      have hsemicolon : kind = .operator ";" := by
        rcases Stage.after_done hafter with ⟨heq, -⟩ | ⟨heq, -⟩
        · rcases isInner_of_lexeme? hlexeme with hinner | hkind
          · rw [show kind = .newline from heq] at hinner
            exact absurd hinner nofun
          · exact hkind
        · exact heq
      subst hsemicolon
      obtain ⟨htext, -, hcharacters⟩ := lexeme?_eq_append hlexeme
      obtain rfl : characters = [';'] := hcharacters ";" rfl
      rw [htext] at hover
      have hover : Overwrites printing stands drops p ([';'] ++ rest) (marked items') text' := hover
      obtain ⟨rest', rfl, -⟩ := hover.behind [';'] hrest houtline'
      -- the reprint would have a line that begins with a semicolon
      obtain ⟨_, _, _, -, -, hinside⟩ := hreads.of_line (by decide) (by decide)
      exact absurd rfl ((hinside.of_token (by decide) (fun _ => by simp)
        (lexeme?_mark (.inr (.inr rfl)) rest') rfl).1
        rfl)

/-! ### Behind the end of a line that is not printed -/

/-- In the reprint the next line is part of the line before it. -/
theorem reprints_of_joined (hsteps : LineMode.start.steps text ≤ steps)
    (h : Lexed (.fresh depth carried) [] [] p text (flat items))
    (houtline : Outline marks nested .top items)
    (hover : Overwrites printing stands drops p text (marked items) text')
    (hreads : Reads whole fresh .inside [] [] p' text' ts') :
    Reprints printing (Stands whole stands) items ts'
      ∨ ∃ feed behind, ts' = feed :: behind ∧ feed.kind = .newline
        ∧ Reprints printing (Stands whole stands) items behind := by
  generalize hmode : LineMode.fresh depth carried = mode at h
  generalize hopened : ([] : List Indentation) = opened at h
  generalize hdue : ([] : List String) = due at h
  generalize hflat : flat items = all at h
  induction h generalizing text' p' depth carried with
  | gap | newline | wrap | comment | join | token => exact absurd hmode nofun
  | bracketed _ _ hne => exact absurd hdue.symm hne
  -- nothing is left of the file, but the lexer has not come to the end of the reprint
  | finish =>
    rw [houtline.marked_eq_nil (hflat ▸ isInner_of_finish ‹_›)] at hover
    exact absurd hover.eq_nil hreads.lexed.ne_nil
  | @blank _ _ _ _ _ p c rest _ hc hrest ih =>
    obtain ⟨rest', rfl, hover'⟩ := hover.behind [c] (hflat ▸ hrest) houtline
    have hreads' := hreads.of_gap (isGap_of_behind hc)
    exact ih (LineMode.steps_lt_of_append [c] nofun hsteps).le hover' hreads' rfl hopened hdue hflat
  | @carry _ _ _ _ p rest _ hne hrest ih =>
    obtain ⟨rest', rfl, hover'⟩ := hover.behind ['\\', '\n'] (hflat ▸ hrest) houtline
    exact ih (LineMode.steps_lt_of_append ['\\', '\n'] nofun hsteps).le hover' hreads.of_join rfl
      hopened hdue hflat
  | @commentLine _ _ _ _ p comment rest _ hcomment hrest ih =>
    obtain ⟨rest', rfl, hover'⟩ := hover.behind ('#' :: comment) (hflat ▸ hrest) houtline
    obtain ⟨last, rfl⟩ := hover'.behind_feed (hflat ▸ hrest) houtline
    exact ih (LineMode.steps_lt_of_append ('#' :: comment) nofun hsteps).le hover'
      (hreads.of_comment hcomment) rfl hopened hdue hflat
  -- the line in the file is empty, so the line in the reprint ends here
  | @emptyLine _ _ _ _ p rest _ hrest =>
    subst hopened hdue hflat
    obtain ⟨rest', rfl, hover'⟩ := hover.behind ['\n'] hrest houtline
    obtain ⟨feed, behind, rfl, hfeed, hreads'⟩ := hreads.of_newline
    have hlength : LineMode.start.steps rest < steps :=
      LineMode.steps_lt_of_append _ (List.cons_ne_nil '\n' []) hsteps
    exact .inr ⟨feed, behind, rfl, hfeed, (hfollows hlength ⟨hrest, houtline, ⟨rfl, rfl⟩, hover',
      .inl ⟨rfl, rfl⟩, ⟨nofun, fun _ => rfl⟩, hreads'⟩).reprints⟩
  | @line _ _ _ opened' p c rest found _ hc hslash hmarks hrest =>
    subst hopened
    obtain ⟨τ, items', rfl, rfl, houtline', hfits, hnone, -⟩ :=
      houtline.of_indentationMarks hmarks hflat ⟨rfl, rfl⟩
    obtain rfl := hnone rfl
    -- the line begins with a token: no block is opened or closed by it, and its tokens go on behind
    -- the join
    rcases indentationMarks_cases hmarks with ⟨heq, -⟩ | ⟨closed, -, hclosed, -⟩
    · exact absurd heq nofun
    obtain ⟨-, rfl⟩ := List.append_eq_nil_iff.mp hclosed.symm
    have hlength : LineMode.inside.steps (c :: rest) < steps := by
      simp only [LineMode.start, LineMode.steps] at hsteps ⊢
      omega
    exact .inl (hfollows hlength
      ⟨hrest, houtline', hfits, hover, .inl ⟨rfl, rfl⟩, trivial, hreads⟩).reprints

/-! ### At a marked statement -/

omit hfollows in
/-- A printed call begins like a token. -/
theorem exists_visible_of_call {name content : String} (rest : List Char) (hname : Callable name) :
    ∃ d behind, call name content ++ rest = d :: behind ∧ startsVisible d = true ∧ d ≠ '\\' := by
  obtain ⟨d, behind, hd, hgap, hfeed, hcomment, hslash⟩ :=
    exists_eq_cons_of_beginsLexeme hname.begins
  refine ⟨d, behind ++ '(' :: literal content.toList ++ [')'] ++ rest, ?_, ?_, hslash⟩
  · rw [call, hd]
    simp
  · simp [startsVisible, hgap, hfeed, hcomment]

variable (hcallable : ∀ statement name content, printing statement = some (name, content) →
  Callable name)
include hcallable

/-- A call in the place of a marked statement. -/
theorem reprints_of_call {tokens : List Token} {spelled : List Char} {name content : String}
    (hsteps : LineMode.inside.steps rest < steps)
    (h : Lexed .inside [] [] (p.afterText spelled) rest (flat items))
    (houtline : Outline marks nested .done items)
    (hprinted : printing statement = some (name, content))
    (hstands : stands (call name content ++ text') name content)
    (hover : Overwrites printing stands drops (p.afterText spelled) rest (marked items) text')
    (hreads : Reads whole fresh .inside [] [] p' (call name content ++ text') ts') :
    Reprints printing (Stands whole stands) (.mark tokens statement :: items) ts' := by
  obtain ⟨q, r, s, behind, rfl, hbehind⟩ := hreads.of_call (hcallable _ _ _ hprinted)
  refine .call hprinted ⟨text', hreads.place, hstands⟩ ?_
  exact (hfollows hsteps
    ⟨h, houtline, ⟨rfl, rfl⟩, hover, .inl ⟨rfl, rfl⟩, trivial, hbehind⟩).reprints

/-- A marked statement that is not the first of its line. -/
theorem reprints_of_mark {tokens : List Token} (hc : startsVisible c = true)
    (hslash : ∀ after, c :: text ≠ '\\' :: '\n' :: after)
    (hsteps : LineMode.inside.steps (c :: text) ≤ steps)
    (h : Lexed .inside [] [] p (c :: text) (flat (.mark tokens statement :: items)))
    (houtline : Outline marks nested σ (.mark tokens statement :: items))
    (hover : Overwrites printing stands drops p (c :: text) (statement :: marked items) text')
    (hreads : Reads whole fresh .inside [] [] p' text' ts') :
    Reprints printing (Stands whole stands) (.mark tokens statement :: items) ts' := by
  obtain ⟨spelled, rest, htext, hne, hrest, houtline', hcases⟩ := hover.of_mark hc hslash h houtline
  have hlength : LineMode.inside.steps rest < steps :=
    LineMode.steps_lt_of_append _ hne (htext ▸ hsteps)
  rcases hcases with ⟨name, content, rest', hprinted, hstands, rfl, hover'⟩ | ⟨hnone, hover'⟩
    | ⟨hnone, feed, items', rest', rfl, rfl, hfeed, houtline'', hrest', -, hover'⟩
  · exact reprints_of_call hfollows hcallable hlength hrest houtline' hprinted hstands hover' hreads
  · exact .drop hnone (hfollows hlength
      ⟨hrest, houtline', ⟨rfl, rfl⟩, hover', .inl ⟨rfl, rfl⟩, trivial, hreads⟩).reprints
  · have hlength' : LineMode.start.steps rest' ≤ steps :=
      (LineMode.steps_lt_of_append _ (List.cons_ne_nil '\n' []) hlength.le).le
    rcases reprints_of_joined hfollows hlength' hrest' houtline'' hover' hreads with
      hjoined | ⟨feed', behind, rfl, hfeed', hbehind⟩
    · exact .dropLine hnone hfeed hjoined
    · exact .drop hnone (.keep (hfeed.trans hfeed'.symm) hbehind)

/-- A marked statement that is the first of its line. -/
theorem leads_of_mark {tokens : List Token} (hc : startsVisible c = true) (hslash : c ≠ '\\')
    (hsteps : LineMode.start.steps (c :: text) ≤ steps)
    (h : Lexed .inside [] [] p (c :: text) (flat (.mark tokens statement :: items)))
    (houtline : Outline marks nested σ (.mark tokens statement :: items))
    (hover : Overwrites printing stands drops p (c :: text) (statement :: marked items) text')
    (hpends : indentationMarks ⟨0, 0⟩ opened' = some (kinds, []))
    (hreads : Reads whole true .start opened' [] p' text' ts') :
    Leads printing (Stands whole stands) kinds (.mark tokens statement :: items) ts' := by
  obtain ⟨spelled, rest, htext, hne, hrest, houtline', hcases⟩ :=
    hover.of_mark hc (fun _ heq => hslash (List.cons.inj heq).1) h houtline
  have hlength : LineMode.inside.steps rest < steps :=
    LineMode.steps_lt_of_append _ hne (htext ▸ hsteps)
  rcases hcases with ⟨name, content, rest', hprinted, hstands, rfl, hover'⟩ | ⟨hnone, hover'⟩
    | ⟨hnone, feed, items', rest', rfl, rfl, hfeed, houtline'', hrest', -, hover'⟩
  · obtain ⟨d, behind, hcall, hd, hslash'⟩ :=
      exists_visible_of_call rest' (hcallable _ _ _ hprinted)
    rw [hcall] at hreads
    obtain ⟨found, opened'', back, hmarks, rfl, hinside⟩ := hreads.of_line hd hslash'
    obtain ⟨rfl, rfl⟩ := Prod.mk.inj (Option.some.inj (hpends.symm.trans hmarks))
    rw [← hcall] at hinside
    exact leads_marksAt (reprints_of_call hfollows hcallable hlength hrest houtline' hprinted
      hstands hover' hinside) p' kinds
  -- nothing is printed, and the rest of the line is read on as it is in the file
  · obtain ⟨feed, items', rfl, hfeed, hleads⟩ :=
      leads_of_emptied hfollows hlength.le hrest houtline' hover' hpends hreads
    exact hleads.mono fun hreprints => .dropLine hnone hfeed hreprints
  · have hlength' : LineMode.start.steps rest' < steps :=
      LineMode.steps_lt_of_append _ (List.cons_ne_nil '\n' []) hlength.le
    have hleads := hfollows hlength' ⟨hrest', houtline'', ⟨rfl, rfl⟩, hover',
      .inr ⟨nofun, rfl, hpends⟩, ⟨nofun, fun _ => rfl⟩, hreads⟩
    exact hleads.mono fun hreprints => .dropLine hnone hfeed hreprints

/-! ### Step by step -/

/-- At a token: it is kept, or it is the first of a marked statement. -/
theorem reprints_of_token {kind : Token.Kind} {characters : List Char} (hc : startsVisible c = true)
    (hslash : ∀ after, c :: text ≠ '\\' :: '\n' :: after)
    (hlexeme : lexeme? (c :: text) = some (kind, characters, rest))
    (hdue : bracketsAfter due kind = some due')
    (hrest : Lexed .inside opened due' (p.afterText characters) rest ts)
    (hflat : flat items = ⟨kind, p, p.afterText characters⟩ :: ts)
    (hsteps : LineMode.inside.steps (c :: text) ≤ steps)
    (houtline : Outline marks nested σ items) (hfits : σ.Fits opened due)
    (hover : Overwrites printing stands drops p (c :: text) (marked items) text')
    (hreads : Reads whole fresh .inside opened due p' text' ts') :
    Reprints printing (Stands whole stands) items ts' := by
  rcases houtline.of_inside hflat (isInner_of_lexeme? hlexeme) hfits hdue with
    ⟨τ, items', rfl, rfl, houtline', hfits', hready⟩ | ⟨tokens, statement, items', rfl⟩
  · have hover : Overwrites printing stands drops p (c :: text) (marked items') text' := hover
    obtain ⟨rest', rfl, hover', hlexeme'⟩ := hover.of_lexeme hlexeme hrest houtline' hfits' hready
    -- no lexeme begins with a backslash, so this is no joined line in the reprint either
    obtain ⟨more, rfl, rfl, hbackslash⟩ := exists_eq_cons_of_lexeme? hlexeme
    obtain ⟨-, behind, rfl, hreads'⟩ :=
      hreads.of_token hc (fun _ heq => hbackslash (List.cons.inj heq).1) hlexeme' hdue
    exact .keep rfl (hfollows (LineMode.steps_lt_of_append _ (List.cons_ne_nil c more) hsteps)
      ⟨hrest, houtline', hfits', hover', .inl ⟨rfl, rfl⟩, trivial, hreads'⟩).reprints
  · obtain ⟨rfl, rfl⟩ := hfits.of_isReady houtline.isReady_of_mark
    have hlexed : Lexed .inside [] [] p (c :: text) (flat (.mark tokens statement :: items')) := by
      rw [hflat]
      exact .token hc hslash hlexeme hdue hrest
    exact reprints_of_mark hfollows hcallable hc hslash hsteps hlexed houtline hover hreads

/-- Inside of a line. -/
theorem leads_inside (hsteps : LineMode.inside.steps text ≤ steps)
    (h : Synced printing stands drops marks nested whole .inside opened opened' due kinds p p' text
      text' items σ fresh ts') : Leads printing (Stands whole stands) kinds items ts' := by
  obtain ⟨hlexed, houtline, hfits, hover, hpends, -, hreads⟩ := h
  -- dedents are left over at the start of a line only
  obtain ⟨rfl, rfl⟩ : kinds = [] ∧ opened' = opened := hpends.resolve_right fun h => h.1 rfl
  have hpends : ∀ {σ : Stage} {mode : LineMode}, Pends σ mode opened' opened' [] := .inl ⟨rfl, rfl⟩
  generalize hflat : flat items = all at hlexed
  cases hlexed with
  | gap hc hrest =>
    subst hflat
    obtain ⟨rest', rfl, hover'⟩ := hover.behind [_] hrest houtline
    exact hfollows (LineMode.steps_lt_of_append [_] nofun hsteps)
      ⟨hrest, houtline, hfits, hover', hpends, trivial, hreads.of_gap hc⟩
  | join _ hrest =>
    subst hflat
    obtain ⟨rest', rfl, hover'⟩ := hover.behind ['\\', '\n'] hrest houtline
    exact hfollows (LineMode.steps_lt_of_append ['\\', '\n'] nofun hsteps)
      ⟨hrest, houtline, hfits, hover', hpends, trivial, hreads.of_join⟩
  | comment hcomment hrest =>
    subst hflat
    obtain ⟨rest', rfl, hover'⟩ := hover.behind _ hrest houtline
    obtain ⟨last, rfl⟩ := hover'.behind_feed hrest houtline
    exact hfollows (LineMode.steps_lt_of_append _ (List.cons_ne_nil _ _) hsteps)
      ⟨hrest, houtline, hfits, hover', hpends, trivial, hreads.of_comment hcomment⟩
  | wrap hdue hrest =>
    subst hflat
    obtain ⟨rest', rfl, hover'⟩ := hover.behind ['\n'] hrest houtline
    exact hfollows (LineMode.steps_lt_of_append ['\n'] nofun hsteps)
      ⟨hrest, houtline, hfits, hover', hpends, ⟨nofun, fun heq => absurd heq hdue⟩,
        hreads.of_wrap hdue⟩
  | newline hrest =>
    obtain ⟨opens, τ, items', rfl, rfl, hafter, houtline'⟩ := houtline.of_outer hflat rfl nofun
    have hover : Overwrites printing stands drops p (['\n'] ++ _) (marked items') text' := hover
    obtain ⟨rest', rfl, hover'⟩ := hover.behind ['\n'] hrest houtline'
    obtain ⟨feed, behind, rfl, hfeed, hreads'⟩ := hreads.of_newline
    have hleads := hfollows (LineMode.steps_lt_of_append ['\n'] nofun hsteps)
      ⟨hrest, houtline', hfits.newline hafter, hover', hpends, ⟨nofun, fun _ => rfl⟩, hreads'⟩
    exact leads_nil (.keep hfeed.symm hleads.reprints)
  | token hc hslash hlexeme hdue hrest =>
    exact leads_nil (reprints_of_token hfollows hcallable hc hslash hlexeme hdue hrest hflat hsteps
      houtline hfits hover hreads)

omit hfollows hcallable in
/-- The depth that a backslash hands on is not zero. -/
theorem carriedOn_ne_zero (depth : Indentation) (h : carried ≠ some 0) :
    depth.carriedOn carried ≠ some 0 := by
  cases carried with
  | some n => exact h
  | none =>
    unfold Indentation.carriedOn
    dsimp only
    split
    · nofun
    · simpa

omit hfollows hcallable in
/-- A line at depth zero is one without blanks in front. -/
theorem eq_start_of_settled (h : carried ≠ some 0)
    (hdepth : indentation.settled depth carried = ⟨0, 0⟩) :
    LineMode.fresh depth carried = .start := by
  cases carried with
  | none => exact congrArg (LineMode.fresh · none) hdepth
  | some n =>
    obtain ⟨rfl, -⟩ := Indentation.mk.inj hdepth
    exact absurd rfl h

omit hfollows hcallable in
/-- At the end of the text the dedents that are left over come at last. -/
theorem leads_of_finish {found : List Token.Kind} {opened'' : List Indentation}
    (hmarks : indentationMarks (indentation.settled depth carried) opened = some (found, opened''))
    (hflat : flat items = marksAt p (found ++ [.finish]))
    (houtline : Outline marks nested σ items) (hfits : σ.Fits opened [])
    (hover : Overwrites printing stands drops p [] (marked items) text')
    (hpends : Pends σ (.fresh depth carried) opened opened' kinds)
    (hreads : Reads whole fresh (.fresh depth carried) opened' [] p' text' ts') :
    Leads printing (Stands whole stands) kinds items ts' := by
  rw [houtline.marked_eq_nil (hflat ▸ isInner_of_finish hmarks)] at hover
  obtain rfl := hover.eq_nil
  have hsplit : flat items = marksAt p found ++ [⟨.finish, p, p⟩] := by
    rw [hflat, marksAt, List.map_append]
    rfl
  obtain ⟨τ, items', rfl, hlast, houtline', -, hnone, -⟩ :=
    houtline.of_indentationMarks hmarks hsplit hfits
  obtain rfl := houtline'.of_finish hlast rfl
  obtain ⟨hlexed', -, -⟩ := hreads
  cases hlexed' with
  | finish hmarks' =>
    obtain ⟨rfl, -⟩ := Prod.mk.inj (Option.some.inj
      ((hpends.next_line hfits hmarks hnone).symm.trans hmarks'))
    have hreprints : Reprints printing (Stands whole stands) [.keep ⟨.finish, p, p⟩]
        [⟨.finish, p', p'⟩] := .keep rfl .nil
    have hleads := leads_marksAt hreprints p' (kinds ++ found)
    rw [marksAt, ← List.map_singleton (f := fun kind => Token.mk kind p' p'), ← List.map_append]
      at hleads
    exact hleads.keeps

/-- At the first token of a line: its marks come behind the dedents that are left over. -/
theorem leads_of_line {found : List Token.Kind} {opened'' : List Indentation}
    (hc : startsVisible c = true) (hslash : c ≠ '\\')
    (hmarks : indentationMarks (indentation.settled depth carried) opened = some (found, opened''))
    (hrest : Lexed .inside opened'' [] p (c :: rest) ts)
    (hflat : flat items = marksAt p found ++ ts)
    (hsteps : (LineMode.fresh depth carried).steps (c :: rest) ≤ steps)
    (houtline : Outline marks nested σ items) (hfits : σ.Fits opened [])
    (hover : Overwrites printing stands drops p (c :: rest) (marked items) text')
    (hpends : Pends σ (.fresh depth carried) opened opened' kinds)
    (hcarried : carried ≠ some 0) (hfresh : fresh = true)
    (hreads : Reads whole fresh (.fresh depth carried) opened' [] p' text' ts') :
    Leads printing (Stands whole stands) kinds items ts' := by
  obtain ⟨τ, items', rfl, rfl, houtline', hfits', hnone, -⟩ :=
    houtline.of_indentationMarks hmarks hflat hfits
  have hmarks' := hpends.next_line hfits hmarks hnone
  have hover : Overwrites printing stands drops p (c :: rest) (marked items') text' := by
    simpa using hover
  have hlength : LineMode.inside.steps (c :: rest) < steps := by
    simp only [LineMode.steps] at hsteps ⊢
    omega
  refine Leads.keeps ?_
  rcases hover.of_visible hc hslash hrest houtline' hfits' with
    ⟨rest', rfl⟩ | ⟨hready, tokens, statement, items'', rfl⟩
  · obtain ⟨_, _, back, heq, rfl, hreads'⟩ := hreads.of_line hc hslash
    obtain ⟨rfl, rfl⟩ := Prod.mk.inj (Option.some.inj (hmarks'.symm.trans heq))
    exact leads_marksAt (hfollows hlength
      ⟨hrest, houtline', hfits', hover, .inl ⟨rfl, rfl⟩, trivial, hreads'⟩).reprints p' _
  · -- only a line at depth zero begins with a marked statement, and that line closes every block
    obtain ⟨rfl, -⟩ := hfits'.of_isReady hready
    subst hfresh
    have hdepth : indentation.settled depth carried = ⟨0, 0⟩ := depth_eq_of_closed hmarks
    rw [hdepth] at hmarks'
    rw [eq_start_of_settled hcarried hdepth] at hreads
    exact leads_of_mark hfollows hcallable hc hslash hsteps hrest houtline' hover hmarks' hreads

/-- At the start of a line. -/
theorem leads_fresh (hsteps : (LineMode.fresh depth carried).steps text ≤ steps)
    (h : Synced printing stands drops marks nested whole
      (.fresh depth carried) opened opened' due kinds p p'
      text text' items σ fresh ts') : Leads printing (Stands whole stands) kinds items ts' := by
  obtain ⟨hlexed, houtline, hfits, hover, hpends, ⟨hcarried, hfresh⟩, hreads⟩ := h
  have hpends' : ∀ {depth : Indentation} {carried : Option Nat},
      Pends σ (.fresh depth carried) opened opened' kinds :=
    hpends.imp_right fun ⟨_, hrest⟩ => ⟨nofun, hrest⟩
  generalize hflat : flat items = all at hlexed
  cases hlexed with
  | blank hc hrest =>
    subst hflat
    obtain ⟨rest', rfl, hover'⟩ := hover.behind [_] hrest houtline
    exact hfollows (LineMode.steps_lt_of_append [_] nofun hsteps)
      ⟨hrest, houtline, hfits, hover', hpends', ⟨hcarried, hfresh⟩, hreads.of_blank hc⟩
  | carry _ hrest =>
    subst hflat
    obtain ⟨rest', rfl, hover'⟩ := hover.behind ['\\', '\n'] hrest houtline
    exact hfollows (LineMode.steps_lt_of_append ['\\', '\n'] nofun hsteps)
      ⟨hrest, houtline, hfits, hover', hpends', ⟨carriedOn_ne_zero depth hcarried, hfresh⟩,
        hreads.of_carry⟩
  | emptyLine hrest =>
    subst hflat
    obtain ⟨rest', rfl, hover'⟩ := hover.behind ['\n'] hrest houtline
    exact hfollows (LineMode.steps_lt_of_append ['\n'] nofun hsteps)
      ⟨hrest, houtline, hfits, hover', hpends', ⟨nofun, hfresh⟩, hreads.of_emptyLine⟩
  | commentLine hcomment hrest =>
    subst hflat
    obtain ⟨rest', rfl, hover'⟩ := hover.behind _ hrest houtline
    obtain ⟨last, rfl⟩ := hover'.behind_feed hrest houtline
    exact hfollows (LineMode.steps_lt_of_append _ (List.cons_ne_nil _ _) hsteps)
      ⟨hrest, houtline, hfits, hover', hpends', ⟨hcarried, hfresh⟩, hreads.of_commentLine hcomment⟩
  | finish hmarks => exact leads_of_finish hmarks hflat houtline hfits hover hpends hreads
  | line hc hslash hmarks hrest =>
    exact leads_of_line hfollows hcallable hc hslash hmarks hrest hflat hsteps houtline hfits hover
      hpends hcarried (hfresh rfl) hreads
  | @bracketed _ _ _ _ _ c rest _ hc hslash hdue hrest =>
    -- in brackets there is no statement to begin, and no dedent to wait for
    subst hflat
    obtain ⟨rfl, rfl⟩ : kinds = [] ∧ opened' = opened := by
      refine hpends.resolve_right ?_
      rintro ⟨-, hσ, -⟩
      rw [hσ] at hfits
      exact hdue hfits.2
    rcases hover.of_visible hc hslash hrest houtline hfits with ⟨rest', rfl⟩ | ⟨hready, -⟩
    · refine hfollows ?_ ⟨hrest, houtline, hfits, hover, .inl ⟨rfl, rfl⟩, trivial,
        hreads.of_bracketed hc hslash hdue⟩
      simp only [LineMode.steps] at hsteps ⊢
      omega
    · exact absurd (hfits.of_isReady hready).2 hdue

omit hfollows in
/-- **The reprint has the tokens of a reprint.** Induction on the steps of the lexer. -/
theorem follows (steps : Nat) : Follows printing stands drops marks nested whole steps := by
  induction steps with
  | zero => exact fun hsteps => absurd hsteps (Nat.not_lt_zero _)
  | succ steps ih =>
    intro mode _ _ _ _ _ _ text _ _ _ _ _ hsteps h
    cases mode with
    | inside => exact leads_inside ih hcallable (Nat.le_of_lt_succ hsteps) h
    | fresh => exact leads_fresh ih hcallable (Nat.le_of_lt_succ hsteps) h

end ExpectFile.Grammar
