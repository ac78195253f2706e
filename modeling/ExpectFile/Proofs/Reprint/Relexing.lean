import ExpectFile.Proofs.Reprint.LineEnds
import ExpectFile.Proofs.Reprint.Restating

/-!
# A reprint is cut into tokens

Where the statements that are not printed end their lines, the reprint can be lexed. The text and
its reprint are gone through next to each other, as where the tokens of a reprint are followed, but
now the tokens of the reprint are found on the way. Right behind a joined line, a statement that is
not printed must leave the end of its line, as nothing may be left to be joined.

* **`Lexed.exists_blank`** — behind the last statement of a line there is no token up to its end.
* **`Lexed.exists_lineGone`** — where nothing is left of a text, the end of a line is gone.
* **`Lexed.of_call`** — a printed call is cut into its tokens.
* **`relexed_inside`**, **`relexed_fresh`** — one step of the lexer, in a line and in front of one.
* **`relexes`** — the reprint has tokens, by induction on the steps.
-/

namespace ExpectFile.Grammar

open Text Reprint

/-- A place right behind a joined line. -/
def BehindJoin (whole : List Char) (p : Position) : Prop :=
  ∃ front back, whole = front ++ '\\' :: '\n' :: back
    ∧ p = Position.afterText ⟨1, 0⟩ (front ++ ['\\', '\n'])

variable {printing : Printing} {stands : List Char → String → String → Prop}
  {drops : ParsedStatement → List Char → Prop} {merges : ParsedStatement → Prop}
  {p q p' : Position}
  {text text' rest front whole whole' : List Char} {statement : ParsedStatement}
  {statements : List ParsedStatement} {c : Char} {mode : LineMode} {fresh : Bool}
  {opened opened' : List Indentation} {due due' left : List String} {ts ts' : List Token}
  {marks : Option Expr → Bool} {nested : Nested} {σ τ : Stage} {items : List Item} {token : Token}
  {depth : Indentation} {carried : Option Nat} {kinds : List Token.Kind}

theorem At.behindJoin (h : At whole p ('\\' :: '\n' :: rest)) :
    BehindJoin whole ((p.after '\\').after '\n') := by
  obtain ⟨front, rfl, rfl⟩ := h
  exact ⟨front, rest, rfl, (Position.afterText_append _ front ['\\', '\n']).symm⟩

/-! ## Where nothing is printed -/

/-- Characters up to the end of a line, without a token among them. -/
inductive Blank : List Char → Prop where
  | feed : Blank ['\n']
  | gap {c : Char} {front : List Char} (hc : isGap c = true) (h : Blank front) : Blank (c :: front)
  | join {front : List Char} (h : Blank front) : Blank ('\\' :: '\n' :: front)
  | comment {comment : List Char} (hcomment : ∀ c ∈ comment, c ≠ '\n') :
      Blank ('#' :: comment ++ ['\n'])

theorem Blank.ne_nil (h : Blank front) : front ≠ [] := by
  cases h <;> simp

/-- A line is empty if it has no token. -/
theorem Blank.lexed (h : Blank front)
    (hrest : Lexed .start opened due (p.afterText front) rest ts) :
    Lexed (.fresh depth carried) opened due p (front ++ rest) ts := by
  induction h generalizing p depth carried with
  | feed => exact .emptyLine hrest
  | gap hc _ ih =>
    obtain ⟨deeper, hdeeper⟩ := exists_behind_of_isGap hc depth
    exact .blank hdeeper (ih hrest)
  | join h ih => exact .carry (by simp [h.ne_nil]) (ih hrest)
  | @comment comment hcomment =>
    rw [List.append_assoc]
    rw [Position.afterText_append] at hrest
    exact .commentLine hcomment (.emptyLine hrest)

/-- **Behind the last statement of a line** there is no token up to its end. -/
theorem Lexed.exists_blank (h : Lexed .inside [] [] p text (flat items))
    (houtline : Outline marks nested .done items) (hnext : nextKind (flat items) = .newline) :
    ∃ front rest feed items', Blank front ∧ text = front ++ rest ∧ items = .keep feed :: items'
      ∧ feed.kind = .newline ∧ Lexed .start [] [] (p.afterText front) rest (flat items')
      ∧ Outline marks nested .top items' := by
  generalize hmode : LineMode.inside = mode at h
  generalize hopened : ([] : List Indentation) = opened at h
  generalize hdue : ([] : List String) = due at h
  generalize hflat : flat items = all at h
  -- the line feed at the end
  have hend : ∀ {p q : Position} {rest : List Char} {ts : List Token},
      Lexed .start [] [] (p.after '\n') rest ts → flat items = ⟨.newline, p, q⟩ :: ts →
      ∃ feed items', items = .keep feed :: items' ∧ feed.kind = .newline
        ∧ Lexed .start [] [] (p.after '\n') rest (flat items')
        ∧ Outline marks nested .top items' := by
    intro p q rest ts hrest hflat
    obtain ⟨-, -, items', rfl, rfl, -, -⟩ := houtline.of_outer hflat rfl nofun
    exact ⟨_, items', rfl, rfl, hrest, houtline.of_feed rfl⟩
  induction h with
  | blank | carry | finish | emptyLine | commentLine | line | bracketed => exact absurd hmode nofun
  | wrap hne => exact absurd hdue.symm hne
  | gap hc _ ih =>
    obtain ⟨front, rest, feed, items', hfront, rfl, hfound⟩ := ih rfl hopened hdue hflat
    exact ⟨_ :: front, rest, feed, items', .gap hc hfront, rfl, hfound⟩
  | join _ _ ih =>
    obtain ⟨front, rest, feed, items', hfront, rfl, hfound⟩ := ih rfl hopened hdue hflat
    exact ⟨_ :: _ :: front, rest, feed, items', .join hfront, rfl, hfound⟩
  | @comment _ _ p comment rest _ hcomment hrest =>
    subst hdue hopened
    cases hrest with
    | gap hc => exact absurd hc (by decide)
    | newline hrest =>
      obtain ⟨feed, items', hitems, hfeed, hfound⟩ := hend hrest hflat
      refine ⟨'#' :: comment ++ ['\n'], rest, feed, items', .comment hcomment, by simp, hitems,
        hfeed, ?_⟩
      rw [Position.afterText_append]
      exact hfound
    | wrap hne => exact absurd rfl hne
    | token hc => exact absurd hc (by decide)
  | newline hrest =>
    subst hopened
    obtain ⟨feed, items', hitems, hfeed, hfound⟩ := hend hrest hflat
    exact ⟨['\n'], _, feed, items', .feed, rfl, hitems, hfeed, hfound⟩
  | @token _ _ _ _ _ _ kind _ _ _ _ _ hlexeme =>
    rw [hflat] at hnext
    have hkind : kind = .newline := hnext
    rcases isInner_of_lexeme? hlexeme with hinner | heq
    · rw [hkind] at hinner
      cases hinner
    · rw [hkind] at heq
      cases heq

/-- **Where nothing is left of a text**, it begins with a statement of which nothing is printed, and
the end of its line is gone with it. Else the rest of the line would be left. -/
theorem Lexed.exists_lineGone (h : Lexed mode opened due p text (flat items))
    (houtline : Outline marks nested σ items) (hfits : σ.Fits opened due)
    (hends : EndLines printing items)
    (hover : Overwrites printing stands drops p text (marked items) []) (hne : text ≠ []) :
    ∃ statement ∈ marked items, printing statement = none ∧ statement.start = p
      ∧ drops statement [] := by
  -- characters in front of the first statement would be kept, so it is at the beginning
  refine (Lexed.induction_on (motive := fun p text items =>
    (∀ statement ∈ marked items, p ≤ statement.start)
      ∧ (EndLines printing items →
        Overwrites printing stands drops p text (marked items) [] → text ≠ [] →
        ∃ statement ∈ marked items, printing statement = none ∧ statement.start = p
          ∧ drops statement [])) ?_ ?_ ?_ ?_ h houtline hfits).2 hends hover hne
  · intro p text items hnone
    rw [hnone]
    refine ⟨fun _ hmem => absurd hmem List.not_mem_nil, fun _ hover hne => ?_⟩
    rw [← List.append_nil text] at hover
    obtain ⟨rest', hrest', -⟩ := hover.copies text fun _ hmem => absurd hmem List.not_mem_nil
    exact absurd (List.append_eq_nil_iff.mp hrest'.symm).1 hne
  · rintro p front rest items ⟨hstarts, hgone⟩
    refine ⟨fun statement hmem => (Position.le_afterText p front).trans (hstarts statement hmem),
      fun hends hover hne => ?_⟩
    obtain ⟨rest', hrest', hbehind⟩ := hover.copies front hstarts
    obtain ⟨rfl, rfl⟩ := List.append_eq_nil_iff.mp hrest'.symm
    exact hgone hends hbehind hne
  · exact fun p text token items hfound => hfound
  · intro p spelled rest tokens items statement hstart hstop _ _ _ hrest hdone hfound
    refine ⟨fun other hmem => ?_, fun hends hover _ => ?_⟩
    · rcases List.mem_cons.mp hmem with rfl | hmem
      · exact hstart.ge
      · exact (Position.le_afterText p spelled).trans (hfound.1 other hmem)
    · rcases hover.of_start hstart hstop with
        ⟨name, content, rest', -, -, heq, -⟩ | ⟨hnone, hdrop | ⟨_, -, hdrops, -⟩⟩
      · exact absurd heq.symm (by simp [call])
      · -- the end of the line is left
        obtain ⟨front, last, feed, items', hblank, rfl, rfl, -, hlast, htop⟩ :=
          hrest.exists_blank hdone (hends.1 hnone)
        have hdrop : Overwrites printing stands drops _ (front ++ last) (marked items') [] := hdrop
        obtain ⟨rest', hrest', -⟩ := hdrop.behind front hlast htop
        exact absurd (List.append_eq_nil_iff.mp hrest'.symm).1 hblank.ne_nil
      · exact ⟨statement, List.mem_cons_self, hnone, hstart, hdrops⟩

/-- **A printed call is cut into its tokens.** -/
theorem Lexed.of_call {name content : String} (hname : Callable name)
    (h : Lexed .inside opened [] (p.afterText (call name content)) rest ts) :
    ∃ q r s, Lexed .inside opened [] p (call name content ++ rest)
      (callTokens name content p q r s (p.afterText (call name content)) ++ ts) := by
  have hstep : ∀ {due due' : List String} {p : Position} {kind : Token.Kind}
      (characters : List Char) {rest : List Char} {ts : List Token},
      beginsLexeme characters = true →
      lexeme? (characters ++ rest) = some (kind, characters, rest) →
      bracketsAfter due kind = some due' →
      Lexed .inside opened due' (p.afterText characters) rest ts →
      Lexed .inside opened due p (characters ++ rest)
        (⟨kind, p, p.afterText characters⟩ :: ts) := by
    intro due due' p kind characters rest ts hbegins hlexeme hdue h
    obtain ⟨c, behind, rfl, hgap, hfeed, hcomment, hslash⟩ := exists_eq_cons_of_beginsLexeme hbegins
    exact .token (by simp [startsVisible, hgap, hfeed, hcomment])
      (fun after heq => hslash (List.cons.inj heq).1) hlexeme hdue h
  have hsplit : call name content ++ rest
      = name.toList ++ ('(' :: (literal content.toList ++ (')' :: rest))) := by
    simp [call]
  have hplace : p.afterText (call name content)
      = (((p.afterText name.toList).afterText ['(']).afterText (literal content.toList)).afterText
          [')'] := by
    simp only [call, ← Position.afterText_append]
    simp
  rw [hplace] at h
  have hclosing : Lexed .inside opened [")"] _ (')' :: rest) _ :=
    hstep [')'] rfl (lexeme?_mark (.inr (.inl rfl)) rest) rfl h
  have hliteral : Lexed .inside opened [")"] _ (literal content.toList ++ _) _ :=
    hstep _ (beginsLexeme_literal _) (lexeme?_literal _ _) rfl hclosing
  have hopening : Lexed .inside opened [] _ ('(' :: _) _ :=
    hstep ['('] rfl (lexeme?_mark (.inl rfl) _) rfl hliteral
  have hname : Lexed .inside opened [] p (name.toList ++ _) _ :=
    hstep _ hname.begins (hname.lexeme _) rfl hopening
  rw [hsplit, hplace]
  exact ⟨_, _, _, hname⟩

/-! ## At the next token -/

theorem Stage.after_semicolon_cases {opened : Bool} (h : σ.after opened (.operator ";") = some τ) :
    τ = .next ∨ τ.isReady = false := by
  have hinner : Token.Kind.isInner (.operator ";") = false := rfl
  cases σ with
  | line | top => simp [Stage.after, hinner] at h
  | head depth =>
    rw [Stage.after_semicolon] at h
    obtain rfl := Option.some.inj h
    exact .inr rfl
  | next | mid | done =>
    rcases Stage.isSimple_after rfl rfl h with ⟨heq, -⟩ | ⟨-, rfl⟩
    · cases heq
    · exact .inl rfl

/-- A token in a line that is kept, and where the outline is behind it. -/
theorem Outline.of_keep_inside (h : Outline marks nested σ (.keep token :: items))
    (hkind : token.kind.isInner = true ∨ token.kind = .operator ";") (hfits : σ.Fits opened due)
    (hdue : bracketsAfter due token.kind = some due') :
    ∃ τ, Outline marks nested τ items ∧ τ.Fits opened due'
      ∧ token.kind.leavesFresh σ.isFresh = τ.isFresh
      ∧ (τ.isReady = true → token.kind = .operator ";" ∧ τ = .next) := by
  cases h with
  | finish _ _ hfinish =>
    rcases hkind with hkind | hkind <;> rw [hfinish] at hkind <;> cases hkind
  | @token _ τ _ _ hafter hrest =>
    refine ⟨τ, hrest, hfits.inside hkind hdue hafter, Stage.isFresh_after hafter, fun hready => ?_⟩
    rcases hkind with hinner | hsemicolon
    · cases hready.symm.trans (Stage.not_isReady_after hinner hafter)
    · rw [hsemicolon] at hafter
      rcases Stage.after_semicolon_cases hafter with hnext | hnot
      · exact ⟨hsemicolon, hnext⟩
      · cases hready.symm.trans hnot
  | plain hready _ _ hturn hrest =>
    obtain ⟨hopened, rfl⟩ := hfits.of_isReady hready
    exact ⟨_, hrest, ⟨hopened, eq_of_turn hdue hturn⟩,
      Token.Kind.leavesFresh_of_isInner (Token.Kind.isInner_of_turn hturn), nofun⟩

/-- What is in front of the rest of a text. -/
theorem At.getLast?_eq {seen : List Char} (h : At whole p (front ++ rest)) (hne : front ≠ [])
    (hseen : whole = seen ++ rest) : seen.getLast? = front.getLast? := by
  obtain ⟨before, rfl, -⟩ := h
  rw [← List.append_assoc] at hseen
  rw [← List.append_cancel_right hseen, List.getLast?_append,
    List.getLast?_eq_some_getLast hne, Option.some_or]

/-! ## The lexer in a text and in its reprint -/

/-- The reprint is cut into tokens, those that are left over and those behind them. -/
def Relexed (printing : Printing) (mode : LineMode) (opened' : List Indentation)
    (due : List String) (p' : Position) (text' : List Char) (kinds : List Token.Kind)
    (fresh : Bool) (items : List Item) : Prop :=
  ∃ front back, front.map (·.kind) = kinds ∧ Lexed mode opened' due p' text' (front ++ back)
    ∧ Restates printing fresh items back

/-- **A text next to its reprint**, which is still to be lexed. -/
structure Paired (printing : Printing) (stands : List Char → String → String → Prop)
    (merges : ParsedStatement → Prop) (marks : Option Expr → Bool) (nested : Nested)
    (whole whole' : List Char) (mode : LineMode) (opened opened' : List Indentation)
    (due : List String) (kinds : List Token.Kind) (p p' : Position) (text text' : List Char)
    (items : List Item) (σ : Stage) : Prop where
  lexed : Lexed mode opened due p text (flat items)
  outline : Outline marks nested σ items
  fits : σ.Fits opened due
  overwrites : Overwrites printing stands (LineGone whole' merges) p text (marked items) text'
  pends : Pends σ mode opened opened' kinds
  begins : mode.Begins σ.isFresh due
  place : At whole p text
  place' : At whole' p' text'
  endLines : EndLines printing items
  apart : ∀ statement ∈ marked items, printing statement = none →
    BehindJoin whole statement.start → ¬merges statement

/-- Characters without a token among them are in the reprint too. -/
theorem Paired.behind {mode' : LineMode} (front : List Char)
    (h : Paired printing stands merges marks nested whole whole' mode opened opened' due kinds p p'
      (front ++ rest) text' items σ)
    (hrest : Lexed mode' opened due (p.afterText front) rest (flat items))
    (hpends : Pends σ mode' opened opened' kinds) (hbegins : mode'.Begins σ.isFresh due) :
    ∃ rest', text' = front ++ rest' ∧ Paired printing stands merges marks nested whole whole' mode'
      opened opened' due kinds (p.afterText front) (p'.afterText front) rest rest' items σ := by
  obtain ⟨rest', rfl, hover⟩ := h.overwrites.behind front hrest h.outline
  exact ⟨rest', rfl, hrest, h.outline, h.fits, hover, hpends, hbegins, h.place.behind front,
    h.place'.behind front, h.endLines, h.apart⟩

/-- Behind a marked statement, whatever is printed of it. -/
theorem Paired.behind_mark {tokens : List Token} {spelled rest' : List Char}
    (h : Paired printing stands merges marks nested whole whole' .inside [] [] [] [] p p'
      (spelled ++ rest) text' (.mark tokens statement :: items) σ)
    (hrest : Lexed .inside [] [] (p.afterText spelled) rest (flat items))
    (hdone : Outline marks nested .done items)
    (hover : Overwrites printing stands (LineGone whole' merges) (p.afterText spelled) rest
      (marked items) rest') (hplace' : At whole' q rest') :
    Paired printing stands merges marks nested whole whole' .inside [] [] [] []
      (p.afterText spelled) q rest rest' items .done :=
  ⟨hrest, hdone, ⟨rfl, rfl⟩, hover, .inl ⟨rfl, rfl⟩, trivial, h.place.behind _, hplace',
    h.endLines.2, fun statement hmem => h.apart statement (List.mem_cons_of_mem _ hmem)⟩

/-- Where a statement can begin in a line, the next one is none that is marked, or it is behind
another. In the second case the reprint is not at the start of a line, or the place is right behind
a joined line. -/
def Ready (whole whole' : List Char) (p : Position) (text' : List Char) (items : List Item)
    (σ : Stage) : Prop :=
  (∃ token items', items = .keep token :: items')
    ∨ σ = .next ∧ (AtLineStart whole' text' → BehindJoin whole p)

/-- The reprint of a shorter text can be lexed. -/
def Relexes (printing : Printing) (stands : List Char → String → String → Prop)
    (merges : ParsedStatement → Prop) (marks : Option Expr → Bool) (nested : Nested)
    (whole whole' : List Char) (steps : Nat) : Prop :=
  ∀ {mode : LineMode} {opened opened' : List Indentation} {due : List String}
    {kinds : List Token.Kind} {p p' : Position} {text text' : List Char} {items : List Item}
    {σ : Stage}, mode.steps text < steps →
    Paired printing stands merges marks nested whole whole' mode opened opened' due kinds p p' text
      text' items σ →
    (mode = .inside → σ.isReady = true → Ready whole whole' p text' items σ) →
    Relexed printing mode opened' due p' text' kinds σ.isFresh items

/-- Marks of indentation leave a line new. -/
theorem Restates.keeps {tokens : List Token} {found : List Token.Kind}
    (hkinds : tokens.map (·.kind) = found)
    (hfound : ∀ kind ∈ found, kind = .indent ∨ kind = .dedent)
    (h : Restates printing fresh items ts) :
    Restates printing fresh ((marksAt p found).map .keep ++ items) (tokens ++ ts) := by
  induction found generalizing tokens with
  | nil =>
    obtain rfl := List.map_eq_nil_iff.mp hkinds
    exact h
  | cons kind found ih =>
    cases tokens with
    | nil => cases hkinds
    | cons token tokens =>
      rw [List.map_cons, List.cons.injEq] at hkinds
      obtain ⟨rfl, hkinds⟩ := hkinds
      obtain ⟨hkind, hfound⟩ := List.forall_mem_cons.mp hfound
      refine .keep rfl ?_
      have hfresh : token.kind.leavesFresh fresh = fresh := by
        rcases hkind with heq | heq <;> rw [heq] <;> rfl
      rw [hfresh]
      exact ih hkinds hfound

/-- A statement that is not the first of its line goes without the end of it. -/
theorem Restates.drop_of_done {tokens : List Token} (h : Restates printing false items ts)
    (hdone : Outline marks nested .done items) (hprinted : printing statement = none)
    (hnext : nextKind (flat items) = .newline) :
    Restates printing false (.mark tokens statement :: items) ts := by
  cases hdone with
  | finish _ hσ => exact absurd hσ (by simp)
  | @token _ _ feed items _ _ =>
    have hfeed : feed.kind = .newline := hnext
    cases h with
    | keep hkind h =>
      rw [hfeed] at h
      exact .drop hprinted hfeed (hkind.symm.trans hfeed) h
  | plain hready => cases hready
  | mark hready => cases hready

namespace Relexed

/-- Marks that are left over are items that come late. -/
theorem keeps {found : List Token.Kind}
    (hfound : ∀ kind ∈ found, kind = .indent ∨ kind = .dedent)
    (h : Relexed printing mode opened' due p' text' (kinds ++ found) fresh items) :
    Relexed printing mode opened' due p' text' kinds fresh
      ((marksAt p found).map .keep ++ items) := by
  obtain ⟨front, back, hfront, hlexed, hback⟩ := h
  obtain ⟨first, second, rfl, hfirst, hsecond⟩ := List.map_eq_append_iff.mp hfront
  exact ⟨first, second ++ back, hfirst, by rwa [← List.append_assoc], hback.keeps hsecond hfound⟩

/-- With other characters in front. -/
theorem of_lexed {mode' : LineMode} {opened'' : List Indentation} {due' : List String}
    {p'' : Position} {text'' : List Char}
    (h : Relexed printing mode opened' due p' text' kinds fresh items)
    (hlexed : ∀ {ts}, Lexed mode opened' due p' text' ts →
      Lexed mode' opened'' due' p'' text'' ts) :
    Relexed printing mode' opened'' due' p'' text'' kinds fresh items := by
  obtain ⟨front, back, hfront, hback, hrest⟩ := h
  exact ⟨front, back, hfront, hlexed hback, hrest⟩

/-- Where nothing is left over. -/
theorem of_nil (h : Relexed printing mode opened' due p' text' [] fresh items) :
    ∃ ts, Lexed mode opened' due p' text' ts ∧ Restates printing fresh items ts := by
  obtain ⟨front, back, hfront, hlexed, hback⟩ := h
  obtain rfl := List.map_eq_nil_iff.mp hfront
  exact ⟨back, hlexed, hback⟩

theorem nil (hlexed : Lexed mode opened' due p' text' ts) (h : Restates printing fresh items ts) :
    Relexed printing mode opened' due p' text' [] fresh items := ⟨[], ts, rfl, hlexed, h⟩

end Relexed

section

variable {steps : Nat} (hrelexes : Relexes printing stands merges marks nested whole whole' steps)
  (hcallable : ∀ statement name content, printing statement = some (name, content) →
    Callable name)
include hrelexes

/-! ### At a marked statement -/

include hcallable in
/-- A call in the place of a marked statement. -/
theorem exists_of_call {tokens : List Token} {spelled : List Char} {name content : String}
    (hsteps : LineMode.inside.steps rest < steps)
    (h : Paired printing stands merges marks nested whole whole' .inside [] [] [] [] p p'
      (spelled ++ rest) (call name content ++ text') (.mark tokens statement :: items) σ)
    (hrest : Lexed .inside [] [] (p.afterText spelled) rest (flat items))
    (hdone : Outline marks nested .done items)
    (hprinted : printing statement = some (name, content))
    (hover : Overwrites printing stands (LineGone whole' merges) (p.afterText spelled) rest
      (marked items) text') :
    ∃ ts, Lexed .inside [] [] p' (call name content ++ text') ts
      ∧ Restates printing fresh (.mark tokens statement :: items) ts := by
  have hbehind := h.behind_mark hrest hdone hover (h.place'.behind _)
  obtain ⟨ts, hlexed, hts⟩ := (hrelexes hsteps hbehind nofun).of_nil
  obtain ⟨q, r, s, hcall⟩ := Lexed.of_call (hcallable _ _ _ hprinted) hlexed
  exact ⟨_, hcall, .call hprinted hts⟩

include hcallable in
/-- A marked statement that is not the first of its line. -/
theorem exists_of_mark {tokens : List Token} (hc : startsVisible c = true)
    (hslash : ∀ after, c :: text ≠ '\\' :: '\n' :: after)
    (hsteps : LineMode.inside.steps (c :: text) ≤ steps)
    (h : Paired printing stands merges marks nested whole whole' .inside [] [] [] [] p p'
      (c :: text) text' (.mark tokens statement :: items) .next)
    (hready : AtLineStart whole' text' → BehindJoin whole p) :
    ∃ ts, Lexed .inside [] [] p' text' ts
      ∧ Restates printing false (.mark tokens statement :: items) ts := by
  obtain ⟨spelled, rest, htext, hne, hrest, hdone, hcases⟩ :=
    Overwrites.of_mark hc hslash h.lexed h.outline h.overwrites
  have hlength : LineMode.inside.steps rest < steps :=
    LineMode.steps_lt_of_append _ hne (htext ▸ hsteps)
  rcases hcases with ⟨name, content, rest', hprinted, -, rfl, hover⟩ | ⟨hnone, hover⟩
    | ⟨hnone, feed, items', rest', -, -, -, -, -, hdrops, -⟩
  · exact exists_of_call hrelexes hcallable hlength (htext ▸ h) hrest hdone hprinted hover
  · have hbehind := (htext ▸ h).behind_mark hrest hdone hover h.place'
    obtain ⟨ts, hlexed, hts⟩ := (hrelexes hlength hbehind nofun).of_nil
    exact ⟨ts, hlexed, hts.drop_of_done hdone hnone (h.endLines.1 hnone)⟩
  · obtain ⟨hstart', hmerges⟩ := hdrops
    obtain ⟨_, _, _, _, _, hstart, -⟩ := h.lexed.behind_mark hc hslash h.outline
    exact (h.apart statement List.mem_cons_self hnone (hstart ▸ hready hstart') hmerges).elim

include hcallable in
/-- A marked statement that is the first of its line. If nothing is printed of it, the line is an
empty one, or it is gone. -/
theorem relexed_of_mark {tokens : List Token} (hc : startsVisible c = true) (hslash : c ≠ '\\')
    (hsteps : LineMode.start.steps (c :: text) ≤ steps)
    (h : Paired printing stands merges marks nested whole whole' .inside [] [] [] [] p p'
      (c :: text) text' (.mark tokens statement :: items) σ)
    (hpends : indentationMarks ⟨0, 0⟩ opened' = some (kinds, [])) :
    Relexed printing .start opened' [] p' text' kinds true (.mark tokens statement :: items) := by
  obtain ⟨hends, hmore⟩ := h.endLines
  obtain ⟨spelled, rest, htext, hne, hrest, hdone, hcases⟩ :=
    Overwrites.of_mark hc (fun _ heq => hslash (List.cons.inj heq).1) h.lexed h.outline h.overwrites
  have hlength : LineMode.inside.steps rest < steps :=
    LineMode.steps_lt_of_append _ hne (htext ▸ hsteps)
  have hplace : At whole (p.afterText spelled) rest := (htext ▸ h.place).behind _
  have hapart : ∀ statement ∈ marked items, printing statement = none →
      BehindJoin whole statement.start → ¬merges statement :=
    fun statement hmem => h.apart statement (List.mem_cons_of_mem _ hmem)
  -- behind the end of a line of which nothing is printed
  have hbehind : ∀ {q q' : Position} {text text' : List Char} {items : List Item},
      LineMode.start.steps text < steps → Lexed .start [] [] q text (flat items) →
      Outline marks nested .top items →
      Overwrites printing stands (LineGone whole' merges) q text (marked items) text' →
      At whole q text → At whole' q' text' → EndLines printing items →
      (∀ statement ∈ marked items, printing statement = none →
        BehindJoin whole statement.start → ¬merges statement) →
      Relexed printing .start opened' [] q' text' kinds true items :=
    fun hsteps hlexed houtline hover hplace hplace' hends hapart => hrelexes hsteps
      ⟨hlexed, houtline, ⟨rfl, rfl⟩, hover, .inr ⟨nofun, rfl, hpends⟩, ⟨nofun, fun _ => rfl⟩,
        hplace, hplace', hends, hapart⟩ nofun
  rcases hcases with ⟨name, content, rest', hprinted, -, rfl, hover⟩ | ⟨hnone, hover⟩
    | ⟨hnone, feed, items', rest', rfl, rfl, hfeed, htop, hstart, -, hover⟩
  · obtain ⟨d, behind, hcall, hd, hslash'⟩ :=
      exists_visible_of_call rest' (hcallable _ _ _ hprinted)
    obtain ⟨ts, hlexed, hts⟩ :=
      exists_of_call hrelexes hcallable hlength (htext ▸ h) hrest hdone hprinted hover
    rw [hcall] at hlexed ⊢
    exact ⟨marksAt p' kinds, ts, kinds_marksAt p' kinds, .line hd hslash' hpends hlexed, hts⟩
  · obtain ⟨front, last, feed, items', hblank, rfl, rfl, hfeed, hstart, htop⟩ :=
      hrest.exists_blank hdone (hends hnone)
    have hover : Overwrites printing stands (LineGone whole' merges) _ (front ++ last)
        (marked items') text' := hover
    obtain ⟨last', rfl, hover'⟩ := hover.behind front hstart htop
    have hless : LineMode.start.steps last < steps :=
      LineMode.steps_lt_of_append _ hblank.ne_nil hlength.le
    obtain ⟨first, back, hfirst, hlexed, hback⟩ := hbehind hless hstart htop hover'
      (hplace.behind front) (h.place'.behind front) hmore hapart
    exact ⟨first, back, hfirst, hblank.lexed hlexed, .dropLine hnone hfeed hback⟩
  · have hless : LineMode.start.steps rest' < steps :=
      LineMode.steps_lt_of_append _ (List.cons_ne_nil '\n' []) hlength.le
    obtain ⟨first, back, hfirst, hlexed, hback⟩ := hbehind hless hstart htop hover
      (hplace.behind ['\n']) h.place' hmore hapart
    exact ⟨first, back, hfirst, hlexed, .dropLine hnone hfeed hback⟩

/-! ### Step by step -/

include hcallable in
/-- At a token: it is kept, or it is the first of a marked statement. -/
theorem exists_of_token {kind : Token.Kind} {characters : List Char} (hc : startsVisible c = true)
    (hslash : ∀ after, c :: text ≠ '\\' :: '\n' :: after)
    (hlexeme : lexeme? (c :: text) = some (kind, characters, rest))
    (hdue : bracketsAfter due kind = some due')
    (hrest : Lexed .inside opened due' (p.afterText characters) rest ts)
    (hflat : flat items = ⟨kind, p, p.afterText characters⟩ :: ts)
    (hsteps : LineMode.inside.steps (c :: text) ≤ steps)
    (h : Paired printing stands merges marks nested whole whole' .inside opened opened due [] p p'
      (c :: text) text' items σ)
    (hready : σ.isReady = true → Ready whole whole' p text' items σ) :
    ∃ ts, Lexed .inside opened due p' text' ts ∧ Restates printing σ.isFresh items ts := by
  have hkind := isInner_of_lexeme? hlexeme
  rcases h.outline.of_inside hflat hkind h.fits hdue with
    ⟨-, items, rfl, rfl, -⟩ | ⟨tokens, statement, items, rfl⟩
  · obtain ⟨τ, houtline, hfits, hfresh, hnext⟩ := h.outline.of_keep_inside hkind h.fits hdue
    have hover : Overwrites printing stands (LineGone whole' merges) p (c :: text) (marked items)
        text' := h.overwrites
    obtain ⟨rest', rfl, hover', hlexeme'⟩ := hover.of_lexeme hlexeme hrest houtline hfits
      fun hinner => Bool.eq_false_iff.mpr fun hτ => by
        have hsemicolon : kind = .operator ";" := (hnext hτ).1
        rw [hsemicolon] at hinner
        cases hinner
    have hcharacters := (lexeme?_eq_append hlexeme).2.2
    obtain ⟨more, rfl, rfl, hbackslash⟩ := exists_eq_cons_of_lexeme? hlexeme
    have hless : LineMode.inside.steps rest < steps :=
      LineMode.steps_lt_of_append _ (List.cons_ne_nil c more) hsteps
    have hbehind : Paired printing stands merges marks nested whole whole' .inside opened opened
        due' [] (p.afterText (c :: more)) (p'.afterText (c :: more)) rest rest' items τ :=
      ⟨hrest, houtline, hfits, hover', .inl ⟨rfl, rfl⟩, trivial, h.place.behind (c :: more),
        h.place'.behind _, h.endLines, h.apart⟩
    obtain ⟨ts', hlexed, hts⟩ := (hrelexes hless hbehind fun _ hτ => .inr ⟨(hnext hτ).2, by
      -- a semicolon is no line feed
      intro hstart
      obtain ⟨seen, hseen, -⟩ := h.place'.behind (c :: more)
      have hlast := hstart seen hseen
      rw [h.place'.getLast?_eq (List.cons_ne_nil c more) hseen,
        hcharacters ";" (hnext hτ).1] at hlast
      cases hlast⟩).of_nil
    refine ⟨_, .token hc (fun _ heq => hbackslash (List.cons.inj heq).1) hlexeme' hdue hlexed,
      .keep rfl ?_⟩
    rw [hfresh]
    exact hts
  · have hσ := h.outline.isReady_of_mark
    obtain ⟨rfl, rfl⟩ := h.fits.of_isReady hσ
    rcases hready hσ with ⟨token, items', heq⟩ | ⟨rfl, hjoin⟩
    · cases heq
    · exact exists_of_mark hrelexes hcallable hc hslash hsteps h hjoin

include hcallable in
/-- Inside of a line. -/
theorem relexed_inside (hsteps : LineMode.inside.steps text ≤ steps)
    (h : Paired printing stands merges marks nested whole whole' .inside opened opened' due kinds p
      p' text text' items σ) (hready : σ.isReady = true → Ready whole whole' p text' items σ) :
    Relexed printing .inside opened' due p' text' kinds σ.isFresh items := by
  obtain ⟨rfl, rfl⟩ : kinds = [] ∧ opened' = opened := h.pends.resolve_right fun h => h.1 rfl
  have hpends : ∀ {σ : Stage} {mode : LineMode}, Pends σ mode opened' opened' [] := .inl ⟨rfl, rfl⟩
  -- behind characters that do not end in a line feed
  have hstill : ∀ {q : Position} {front rest' : List Char} {d : Char}, front ≠ [] →
      front.getLast? = some d → d ≠ '\n' → At whole' p' (front ++ rest') → σ.isReady = true →
      Ready whole whole' p (front ++ rest') items σ → Ready whole whole' q rest' items σ := by
    intro q front rest' d hne hlast hd hplace' hσ hready
    refine hready.imp_right fun ⟨hnext, _⟩ => ⟨hnext, fun hstart => ?_⟩
    obtain ⟨seen, hseen, -⟩ := hplace'.behind front
    have hfeed := hstart seen hseen
    rw [hplace'.getLast?_eq hne hseen, hlast] at hfeed
    exact absurd (Option.some.inj hfeed) hd
  have hlexed := h.lexed
  generalize hflat : flat items = all at hlexed
  cases hlexed with
  | @gap _ _ _ c rest _ hc hrest =>
    subst hflat
    obtain ⟨rest', rfl, hbehind⟩ := h.behind [c] hrest hpends trivial
    have hne : c ≠ '\n' := by
      rintro rfl
      cases hc
    exact (hrelexes (LineMode.steps_lt_of_append [c] nofun hsteps) hbehind fun _ hσ =>
      hstill (List.cons_ne_nil c []) rfl hne h.place' hσ (hready hσ)).of_lexed (.gap hc)
  | @join _ _ _ rest _ _ hrest =>
    subst hflat
    obtain ⟨rest', rfl, hbehind⟩ := h.behind ['\\', '\n'] hrest hpends trivial
    exact (hrelexes (LineMode.steps_lt_of_append ['\\', '\n'] nofun hsteps) hbehind fun _ hσ =>
      (hready hσ).imp_right fun ⟨hnext, _⟩ => ⟨hnext, fun _ => h.place.behindJoin⟩).of_lexed
        fun hlexed => .join hlexed.ne_nil hlexed
  | @comment _ _ _ comment rest _ hcomment hrest =>
    subst hflat
    obtain ⟨rest', rfl, hbehind⟩ := h.behind ('#' :: comment) hrest hpends trivial
    obtain ⟨last, rfl⟩ := hbehind.overwrites.behind_feed hrest h.outline
    have hlast := List.getLast?_eq_some_getLast (List.cons_ne_nil '#' comment)
    have hne : ('#' :: comment).getLast (List.cons_ne_nil '#' comment) ≠ '\n' := by
      rcases List.mem_cons.mp (List.getLast_mem (List.cons_ne_nil '#' comment)) with heq | hmem
      · rw [heq]
        decide
      · exact hcomment _ hmem
    exact (hrelexes (LineMode.steps_lt_of_append ('#' :: comment) nofun hsteps) hbehind fun _ hσ =>
      hstill (List.cons_ne_nil '#' comment) hlast hne h.place' hσ (hready hσ)).of_lexed
        (.comment hcomment)
  | @wrap _ _ _ rest _ hdue hrest =>
    subst hflat
    obtain ⟨rest', rfl, hbehind⟩ :=
      h.behind ['\n'] hrest hpends ⟨nofun, fun heq => absurd heq hdue⟩
    exact (hrelexes (LineMode.steps_lt_of_append ['\n'] nofun hsteps) hbehind nofun).of_lexed
      (.wrap hdue)
  | @newline _ _ rest _ hrest =>
    obtain ⟨opens, τ, items', rfl, rfl, hafter, houtline⟩ := h.outline.of_outer hflat rfl nofun
    have hover : Overwrites printing stands (LineGone whole' merges) p (['\n'] ++ rest)
        (marked items') text' := h.overwrites
    obtain ⟨rest', rfl, hover'⟩ := hover.behind ['\n'] hrest houtline
    have hfresh : τ.isFresh = true := (Stage.isFresh_after hafter).symm
    obtain ⟨ts, hlexed, hts⟩ := (hrelexes (LineMode.steps_lt_of_append ['\n'] nofun hsteps)
      ⟨hrest, houtline, h.fits.newline hafter, hover', hpends, ⟨nofun, fun _ => hfresh⟩,
        h.place.behind ['\n'], h.place'.behind ['\n'], h.endLines, h.apart⟩ nofun).of_nil
    rw [hfresh] at hts
    exact .nil (.newline hlexed) (.keep rfl hts)
  | token hc hslash hlexeme hdue hrest =>
    obtain ⟨ts, hlexed, hts⟩ :=
      exists_of_token hrelexes hcallable hc hslash hlexeme hdue hrest hflat hsteps h hready
    exact .nil hlexed hts

omit hrelexes in
/-- At the end of the text the dedents that are left over come at last. -/
theorem relexed_of_finish {found : List Token.Kind} {opened'' : List Indentation}
    (hmarks : indentationMarks (indentation.settled depth carried) opened = some (found, opened''))
    (hflat : flat items = marksAt p (found ++ [.finish]))
    (h : Paired printing stands merges marks nested whole whole' (.fresh depth carried) opened
      opened' [] kinds p p' [] text' items σ) :
    Relexed printing (.fresh depth carried) opened' [] p' text' kinds σ.isFresh items := by
  obtain ⟨-, houtline, hfits, hover, hpends, -, -, -, -, -⟩ := h
  rw [houtline.marked_eq_nil (hflat ▸ isInner_of_finish hmarks)] at hover
  obtain rfl := hover.eq_nil
  have hsplit : flat items = marksAt p found ++ [⟨.finish, p, p⟩] := by
    rw [hflat, marksAt, List.map_append]
    rfl
  obtain ⟨τ, items', rfl, hlast, houtline', -, hnone, -⟩ :=
    houtline.of_indentationMarks hmarks hsplit hfits
  obtain rfl := houtline'.of_finish hlast rfl
  refine Relexed.keeps (kinds_of_indentationMarks hmarks) ⟨marksAt p' (kinds ++ found),
    [⟨.finish, p', p'⟩], kinds_marksAt p' _, ?_, .keep rfl .nil⟩
  have hfinish : marksAt p' (kinds ++ found) ++ [⟨.finish, p', p'⟩]
      = marksAt p' (kinds ++ found ++ [.finish]) := by
    rw [marksAt, marksAt, List.map_append, List.map_append, List.map_append]
    simp
  rw [hfinish]
  exact .finish (hpends.next_line hfits hmarks hnone)

include hcallable in
/-- At the first token of a line: its marks come behind the dedents that are left over. -/
theorem relexed_of_line {found : List Token.Kind} {opened'' : List Indentation}
    (hc : startsVisible c = true) (hslash : c ≠ '\\')
    (hmarks : indentationMarks (indentation.settled depth carried) opened = some (found, opened''))
    (hrest : Lexed .inside opened'' [] p (c :: rest) ts)
    (hflat : flat items = marksAt p found ++ ts)
    (hsteps : (LineMode.fresh depth carried).steps (c :: rest) ≤ steps)
    (h : Paired printing stands merges marks nested whole whole' (.fresh depth carried) opened
      opened' [] kinds p p' (c :: rest) text' items σ) :
    Relexed printing (.fresh depth carried) opened' [] p' text' kinds σ.isFresh items := by
  obtain ⟨-, houtline, hfits, hover, hpends, ⟨hcarried, hfresh⟩, hplace, hplace', hends, hapart⟩ :=
    h
  obtain ⟨τ, items', rfl, rfl, houtline', hfits', hnone, hτ⟩ :=
    houtline.of_indentationMarks hmarks hflat hfits
  have hmarks' := hpends.next_line hfits hmarks hnone
  have hfound := kinds_of_indentationMarks hmarks
  have hfresh : σ.isFresh = true := hfresh rfl
  have hτ : τ.isFresh = true := hτ hfresh
  have hmarked : marked ((marksAt p found).map .keep ++ items') = marked items' := by simp
  rw [hmarked] at hover hapart
  have hends := hends.behind
  have hlength : LineMode.inside.steps (c :: rest) < steps := by
    simp only [LineMode.steps] at hsteps ⊢
    omega
  have hbehind : Paired printing stands merges marks nested whole whole' .inside opened'' opened''
      [] [] p p' (c :: rest) text' items' τ :=
    ⟨hrest, houtline', hfits', hover, .inl ⟨rfl, rfl⟩, trivial, hplace, hplace', hends, hapart⟩
  rw [hfresh]
  refine Relexed.keeps hfound ?_
  cases items' with
  | nil => cases houtline'
  | cons item items' =>
    cases item with
    | keep token =>
      rcases hover.of_visible hc hslash hrest houtline' hfits' with ⟨rest', rfl⟩ | ⟨_, _, _, _, heq⟩
      · obtain ⟨ts, hlexed, hts⟩ := (hrelexes hlength hbehind fun _ _ => .inl ⟨_, _, rfl⟩).of_nil
        rw [hτ] at hts
        exact ⟨marksAt p' (kinds ++ found), ts, kinds_marksAt p' _,
          .line hc hslash hmarks' hlexed, hts⟩
      · cases heq
    | mark tokens statement =>
      -- only a line at depth zero begins with a marked statement, and that line closes every block
      obtain ⟨rfl, -⟩ := hfits'.of_isReady houtline'.isReady_of_mark
      have hdepth : indentation.settled depth carried = ⟨0, 0⟩ := depth_eq_of_closed hmarks
      rw [hdepth] at hmarks'
      rw [eq_start_of_settled hcarried hdepth] at hsteps ⊢
      exact relexed_of_mark hrelexes hcallable hc hslash hsteps hbehind hmarks'

include hcallable in
/-- At the start of a line. -/
theorem relexed_fresh (hsteps : (LineMode.fresh depth carried).steps text ≤ steps)
    (h : Paired printing stands merges marks nested whole whole' (.fresh depth carried) opened
      opened' due kinds p p' text text' items σ) :
    Relexed printing (.fresh depth carried) opened' due p' text' kinds σ.isFresh items := by
  obtain ⟨hcarried, hfresh⟩ := h.begins
  have hpends : ∀ {depth : Indentation} {carried : Option Nat},
      Pends σ (.fresh depth carried) opened opened' kinds :=
    h.pends.imp_right fun ⟨_, hrest⟩ => ⟨nofun, hrest⟩
  have hlexed := h.lexed
  generalize hflat : flat items = all at hlexed
  cases hlexed with
  | @blank _ _ _ _ _ _ c _ _ hc hrest =>
    subst hflat
    obtain ⟨rest', rfl, hbehind⟩ := h.behind [c] hrest hpends ⟨hcarried, hfresh⟩
    exact (hrelexes (LineMode.steps_lt_of_append [c] nofun hsteps) hbehind nofun).of_lexed
      (.blank hc)
  | @carry _ _ _ _ _ rest _ hne hrest =>
    subst hflat
    obtain ⟨rest', rfl, hbehind⟩ :=
      h.behind ['\\', '\n'] hrest hpends ⟨carriedOn_ne_zero depth hcarried, hfresh⟩
    -- nothing is left of what is joined only if the end of its first line is gone
    have hne' : rest' ≠ [] := by
      rintro rfl
      obtain ⟨statement, hmem, hprinted, hstart, -, hmerges⟩ :=
        hrest.exists_lineGone h.outline h.fits h.endLines hbehind.overwrites hne
      exact h.apart statement hmem hprinted (hstart ▸ h.place.behindJoin) hmerges
    exact (hrelexes (LineMode.steps_lt_of_append ['\\', '\n'] nofun hsteps) hbehind nofun).of_lexed
      (.carry hne')
  | @emptyLine _ _ _ _ _ rest _ hrest =>
    subst hflat
    obtain ⟨rest', rfl, hbehind⟩ := h.behind ['\n'] hrest hpends ⟨nofun, hfresh⟩
    exact (hrelexes (LineMode.steps_lt_of_append ['\n'] nofun hsteps) hbehind nofun).of_lexed
      .emptyLine
  | @commentLine _ _ _ _ _ comment rest _ hcomment hrest =>
    subst hflat
    obtain ⟨rest', rfl, hbehind⟩ := h.behind ('#' :: comment) hrest hpends ⟨hcarried, hfresh⟩
    obtain ⟨last, rfl⟩ := hbehind.overwrites.behind_feed hrest h.outline
    have hless : (LineMode.fresh depth carried).steps ('\n' :: rest) < steps :=
      LineMode.steps_lt_of_append ('#' :: comment) nofun hsteps
    exact (hrelexes hless hbehind nofun).of_lexed (.commentLine hcomment)
  | finish hmarks => exact relexed_of_finish hmarks hflat h
  | line hc hslash hmarks hrest =>
    exact relexed_of_line hrelexes hcallable hc hslash hmarks hrest hflat hsteps h
  | @bracketed _ _ _ _ _ c rest _ hc hslash hdue hrest =>
    -- in brackets there is no statement to begin, and no dedent to wait for
    subst hflat
    obtain ⟨rfl, rfl⟩ : kinds = [] ∧ opened' = opened := by
      refine h.pends.resolve_right ?_
      rintro ⟨-, hσ, -⟩
      have hfits := h.fits
      rw [hσ] at hfits
      exact hdue hfits.2
    have hnot : σ.isReady = true → False := fun hready => hdue (h.fits.of_isReady hready).2
    obtain ⟨rest', rfl⟩ := (h.overwrites.of_visible hc hslash hrest h.outline h.fits).resolve_right
      fun hready => hnot hready.1
    have hless : LineMode.inside.steps (c :: rest) < steps := by
      simp only [LineMode.steps] at hsteps ⊢
      omega
    have hinside := { h with lexed := hrest, pends := .inl ⟨rfl, rfl⟩, begins := trivial }
    exact (hrelexes hless hinside fun _ hready => (hnot hready).elim).of_lexed
      (.bracketed hc hslash hdue)

omit hrelexes in
include hcallable in
/-- **The reprint can be lexed.** Induction on the steps of the lexer. -/
theorem relexes (steps : Nat) : Relexes printing stands merges marks nested whole whole' steps := by
  induction steps with
  | zero => exact fun hsteps => absurd hsteps (Nat.not_lt_zero _)
  | succ steps ih =>
    intro mode _ _ _ _ _ _ text _ _ _ hsteps h hready
    cases mode with
    | inside => exact relexed_inside ih hcallable (Nat.le_of_lt_succ hsteps) h (hready rfl)
    | fresh => exact relexed_fresh ih hcallable (Nat.le_of_lt_succ hsteps) h

end

end ExpectFile.Grammar
