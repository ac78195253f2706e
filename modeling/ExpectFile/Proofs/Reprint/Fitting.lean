import ExpectFile.Proofs.Reprint.Overwrites

/-!
# What the lexer has open at a stage

The lexer keeps a stack of indentations and one of closing brackets. At each stage of an outline it
is known what is on them: as many indentations as the depth of the block, and brackets in a simple
statement only.

* **`Stage.Fits.newline`**, **`Stage.Fits.inside`** — what one token preserves.
* **`Outline.of_outer`**, **`Outline.of_inside`**, **`Outline.of_indentationMarks`** — what the
  outline says about the next token.
* **`Outline.tidy`** — no statement of a program is empty.
* **`Lexed.exists_stop`** — in front of a marked statement there is a stop.
-/

namespace ExpectFile.Grammar

open Text Reprint

variable {printing : Printing} {stands : List Char → String → String → Prop} {p q : Position}
  {text text' rest front : List Char} {statement : ParsedStatement}
  {statements : List ParsedStatement} {c : Char} {mode : LineMode}
  {opened opened' : List Indentation} {due due' left : List String} {ts : List Token}
  {marks : Option Expr → Bool} {nested : Nested} {σ τ : Stage} {items : List Item} {token : Token}
  {depth : Indentation}

/-! ## Indentation -/

/-- Indentations that are closed are the innermost ones. -/
theorem exists_of_closeIndentations {count : Nat}
    (h : closeIndentations depth opened = some (count, opened')) :
    ∃ closed, opened = closed ++ opened' ∧ closed.length = count
      ∧ (opened' = [] → depth = ⟨0, 0⟩) := by
  induction opened generalizing count with
  | nil =>
    unfold closeIndentations at h
    split at h
    next hdepth =>
      obtain ⟨rfl, rfl⟩ := Prod.mk.inj (Option.some.inj h)
      exact ⟨[], rfl, rfl, fun _ => hdepth⟩
    next => exact absurd h nofun
  | cons innermost others ih =>
    unfold closeIndentations at h
    split at h
    · obtain ⟨⟨count', _⟩, hothers, heq⟩ := Option.map_eq_some_iff.mp h
      obtain ⟨rfl, rfl⟩ := Prod.mk.inj heq
      obtain ⟨closed, rfl, hcount, hdepth⟩ := ih hothers
      exact ⟨innermost :: closed, rfl, congrArg (· + 1) hcount, hdepth⟩
    split at h
    · obtain ⟨rfl, rfl⟩ := Prod.mk.inj (Option.some.inj h)
      exact ⟨[], rfl, rfl, nofun⟩
    · exact absurd h nofun

/-- The marks in front of a line open an indentation, or close some. -/
theorem indentationMarks_cases {kinds : List Token.Kind}
    (h : indentationMarks depth opened = some (kinds, opened')) :
    kinds = [.indent] ∧ opened' = depth :: opened
      ∨ ∃ closed, kinds = List.replicate closed.length .dedent ∧ opened = closed ++ opened'
        ∧ (opened' = [] → depth = ⟨0, 0⟩) := by
  unfold indentationMarks at h
  dsimp only at h
  split at h
  · split at h
    · obtain ⟨rfl, rfl⟩ := Prod.mk.inj (Option.some.inj h)
      exact .inl ⟨rfl, rfl⟩
    · exact absurd h nofun
  · obtain ⟨⟨count, _⟩, hclose, heq⟩ := Option.map_eq_some_iff.mp h
    obtain ⟨rfl, rfl⟩ := Prod.mk.inj heq
    obtain ⟨closed, hopened, rfl, hdepth⟩ := exists_of_closeIndentations hclose
    exact .inr ⟨closed, rfl, hopened, hdepth⟩

/-- Where no indentation is left open, a line has no depth. -/
theorem depth_eq_of_closed {kinds : List Token.Kind}
    (h : indentationMarks depth opened = some (kinds, [])) : depth = ⟨0, 0⟩ := by
  rcases indentationMarks_cases h with ⟨-, heq⟩ | ⟨closed, -, -, hdepth⟩
  · cases heq
  · exact hdepth rfl

/-! ## Stages next to the lexer -/

/-- The stages at the start of a line. -/
def Stage.isFresh : Stage → Bool
  | .line _ | .top => true
  | _ => false

/-- What the lexer has open and due at a stage. -/
def Stage.Fits : Stage → List Indentation → List String → Prop
  | .line depth, opened, due => opened.length = depth ∧ due = []
  | .head depth, opened, _ => opened.length = depth
  | .mid left, opened, due => opened = [] ∧ due = left
  | .top, opened, due => opened = [] ∧ due = []
  | .next, opened, due => opened = [] ∧ due = []
  | .done, opened, due => opened = [] ∧ due = []

theorem Stage.Fits.of_isReady (h : σ.Fits opened due) (hσ : σ.isReady = true) :
    opened = [] ∧ due = [] := by
  match σ, hσ with
  | .line 0, _ => exact ⟨List.length_eq_zero_iff.mp h.1, h.2⟩
  | .top, _ | .next, _ => exact h

theorem Stage.Fits.newline {opens : Bool} (h : σ.Fits opened [])
    (hafter : σ.after opens .newline = some τ) : τ.Fits opened [] := by
  have hinner : Token.Kind.isInner .newline = false := rfl
  cases σ with
  | line depth => simp [Stage.after, hinner] at hafter
  | top => simp [Stage.after, hinner] at hafter
  | head depth =>
    rw [Stage.after_newline] at hafter
    obtain rfl := Option.some.inj hafter
    exact ⟨h, rfl⟩
  | next | mid | done =>
    rcases Stage.isSimple_after rfl rfl hafter with ⟨-, rfl⟩ | ⟨heq, -⟩
    · exact ⟨h.1, rfl⟩
    · cases heq

/-- A token of a statement. -/
theorem Stage.Fits.inner {opens : Bool} {kind : Token.Kind} (h : σ.Fits opened due)
    (hinner : kind.isInner = true) (hdue : bracketsAfter due kind = some due')
    (hafter : σ.after opens kind = some τ) : τ.Fits opened due' := by
  have hne : ∀ other : Token.Kind, other.isInner = false → kind ≠ other := by
    rintro other hother rfl
    exact absurd (hinner.symm.trans hother) nofun
  cases σ with
  | line depth =>
    simp only [Stage.after, if_neg (hne .indent rfl), if_neg (hne .dedent rfl)] at hafter
    split at hafter
    · obtain rfl := Option.some.inj hafter
      exact h.1
    · cases hafter
  | top =>
    simp only [Stage.after] at hafter
    split at hafter
    · obtain rfl := Option.some.inj hafter
      exact congrArg List.length h.1
    · cases hafter
  | head depth =>
    rw [Stage.after_head depth hinner] at hafter
    obtain rfl := Option.some.inj hafter
    exact h
  | next => simp [Stage.after, hne .newline rfl] at hafter
  | mid left =>
    obtain ⟨hopened, rfl⟩ := h
    simp only [Stage.after, hinner, if_true, Option.map_eq_some_iff] at hafter
    obtain ⟨next, hturn, rfl⟩ := hafter
    exact ⟨hopened, eq_of_turn hdue hturn⟩
  | done =>
    rcases Stage.after_done hafter with ⟨heq, -⟩ | ⟨heq, -⟩ <;>
      exact absurd heq (hne _ rfl)

/-- A semicolon, which stands outside of brackets. -/
theorem Stage.Fits.semicolon {opens : Bool} (h : σ.Fits opened due)
    (hdue : bracketsAfter due (.operator ";") = some due')
    (hafter : σ.after opens (.operator ";") = some τ) : τ.Fits opened due' := by
  obtain ⟨rfl, rfl⟩ : due = [] ∧ due' = due := by
    have hclosing : closingBracket? ";" = none := rfl
    simp only [bracketsAfter, hclosing] at hdue
    rw [if_neg (by decide)] at hdue
    split at hdue
    next => cases hdue
    next hempty => exact ⟨by simpa using hempty, (Option.some.inj hdue).symm⟩
  have hinner : Token.Kind.isInner (.operator ";") = false := rfl
  cases σ with
  | line depth => simp [Stage.after, hinner] at hafter
  | top => simp [Stage.after, hinner] at hafter
  | head depth =>
    rw [Stage.after_semicolon] at hafter
    obtain rfl := Option.some.inj hafter
    exact h
  | next | mid | done =>
    rcases Stage.isSimple_after rfl rfl hafter with ⟨heq, -⟩ | ⟨-, rfl⟩
    · cases heq
    · exact ⟨h.1, rfl⟩

/-- A token inside of a line. -/
theorem Stage.Fits.inside {opens : Bool} {kind : Token.Kind} (h : σ.Fits opened due)
    (hkind : kind.isInner = true ∨ kind = .operator ";")
    (hdue : bracketsAfter due kind = some due') (hafter : σ.after opens kind = some τ) :
    τ.Fits opened due' := by
  rcases hkind with hinner | rfl
  · exact h.inner hinner hdue hafter
  · exact h.semicolon hdue hafter

/-- Behind a token of a statement no statement can begin. -/
theorem Stage.not_isReady_after {opens : Bool} {kind : Token.Kind} (hinner : kind.isInner = true)
    (h : σ.after opens kind = some τ) : τ.isReady = false := by
  have hindent : kind ≠ .indent := by
    rintro rfl
    cases hinner
  have hdedent : kind ≠ .dedent := by
    rintro rfl
    cases hinner
  have hne : kind ≠ .newline := by
    rintro rfl
    cases hinner
  have hsemicolon : kind ≠ .operator ";" := by
    rintro rfl
    cases hinner
  cases σ with
  | line depth =>
    simp only [Stage.after, if_neg hindent, if_neg hdedent] at h
    split at h
    · obtain rfl := Option.some.inj h
      rfl
    · cases h
  | top =>
    simp only [Stage.after] at h
    split at h
    · obtain rfl := Option.some.inj h
      rfl
    · cases h
  | head depth =>
    rw [Stage.after_head depth hinner] at h
    obtain rfl := Option.some.inj h
    rfl
  | next => simp [Stage.after, hne] at h
  | mid left =>
    simp only [Stage.after, hinner, if_true, Option.map_eq_some_iff] at h
    obtain ⟨next, -, rfl⟩ := h
    rfl
  | done =>
    rcases Stage.after_done h with ⟨heq, -⟩ | ⟨heq, -⟩
    · exact absurd heq hne
    · exact absurd heq hsemicolon

/-! ## Items behind the first token -/

namespace Outline

/-- A mark of layout is an item of its own. -/
theorem of_outer (h : Outline marks nested σ items) (hflat : flat items = token :: ts)
    (houter : token.kind.isInner = false) (hfinish : token.kind ≠ .finish) :
    ∃ opens τ items', items = .keep token :: items' ∧ flat items' = ts
      ∧ σ.after opens token.kind = some τ ∧ Outline marks nested τ items' := by
  cases h with
  | finish tokens _ hkind =>
    obtain ⟨rfl, -⟩ := List.cons.inj hflat
    exact absurd hkind hfinish
  | token hafter h =>
    obtain ⟨rfl, hts⟩ := List.cons.inj hflat
    exact ⟨_, _, _, rfl, hts, hafter, h⟩
  | plain _ _ _ hturn =>
    obtain ⟨rfl, -⟩ := List.cons.inj hflat
    rw [Token.Kind.isInner_of_turn hturn] at houter
    exact absurd houter nofun
  | mark _ _ _ hturns hstart =>
    obtain ⟨first, others, due, rfl, -, hturn, -⟩ := exists_of_turns hturns hstart
    obtain ⟨rfl, -⟩ := List.cons.inj hflat
    rw [Token.Kind.isInner_of_turn hturn] at houter
    exact absurd houter nofun

/-- So is the end of the text. -/
theorem of_finish (h : Outline marks nested σ items) (hflat : flat items = [token])
    (hfinish : token.kind = .finish) : items = [.keep token] := by
  cases h with
  | finish tokens =>
    obtain ⟨rfl, htokens⟩ := List.cons.inj hflat
    obtain rfl : tokens = [] := by simpa using (flat_map_keep tokens).symm.trans htokens
    rfl
  | token hafter =>
    obtain ⟨rfl, -⟩ := List.cons.inj hflat
    rw [hfinish, Stage.after_finish] at hafter
    exact absurd hafter nofun
  | plain _ _ _ hturn =>
    obtain ⟨rfl, -⟩ := List.cons.inj hflat
    rw [hfinish] at hturn
    exact absurd hturn nofun
  | mark _ _ _ hturns hstart =>
    obtain ⟨first, others, due, rfl, -, hturn, -⟩ := exists_of_turns hturns hstart
    obtain ⟨rfl, -⟩ := List.cons.inj hflat
    rw [hfinish] at hturn
    exact absurd hturn nofun

/-- A token inside of a line is an item of its own, or it is the first of a marked statement. -/
theorem of_inside (h : Outline marks nested σ items) (hflat : flat items = token :: ts)
    (hkind : token.kind.isInner = true ∨ token.kind = .operator ";") (hfits : σ.Fits opened due)
    (hdue : bracketsAfter due token.kind = some due') :
    (∃ τ items', items = .keep token :: items' ∧ flat items' = ts ∧ Outline marks nested τ items'
        ∧ τ.Fits opened due' ∧ (token.kind.isInner = true → τ.isReady = false))
      ∨ ∃ tokens statement items', items = .mark tokens statement :: items' := by
  cases h with
  | finish tokens _ hfinish =>
    obtain ⟨rfl, -⟩ := List.cons.inj hflat
    rcases hkind with hkind | hkind <;> rw [hfinish] at hkind <;> exact absurd hkind nofun
  | token hafter h =>
    obtain ⟨rfl, hts⟩ := List.cons.inj hflat
    exact .inl ⟨_, _, rfl, hts, h, hfits.inside hkind hdue hafter,
      fun hinner => Stage.not_isReady_after hinner hafter⟩
  | plain hready _ _ hturn h =>
    obtain ⟨rfl, hts⟩ := List.cons.inj hflat
    obtain ⟨hopened, rfl⟩ := hfits.of_isReady hready
    exact .inl ⟨_, _, rfl, hts, h, ⟨hopened, eq_of_turn hdue hturn⟩, fun _ => rfl⟩
  | mark => exact .inr ⟨_, _, _, rfl⟩

/-- The marks in front of a line. -/
theorem of_indentationMarks {kinds : List Token.Kind} (h : Outline marks nested σ items)
    (hmarks : indentationMarks depth opened = some (kinds, opened'))
    (hflat : flat items = marksAt p kinds ++ ts) (hfits : σ.Fits opened []) :
    ∃ τ items', items = (marksAt p kinds).map .keep ++ items' ∧ flat items' = ts
      ∧ Outline marks nested τ items' ∧ τ.Fits opened' [] ∧ (σ = .top → kinds = [])
      ∧ (σ.isFresh = true → τ.isFresh = true) := by
  -- one mark
  have hstep : ∀ {kind : Token.Kind} {σ : Stage} {opened : List Indentation} {items : List Item}
      {ts : List Token}, kind = .indent ∨ kind = .dedent →
      Outline marks nested σ items → flat items = ⟨kind, p, p⟩ :: ts → σ.Fits opened [] →
      ∃ depth τ items', σ = .line depth ∧ items = .keep ⟨kind, p, p⟩ :: items' ∧ flat items' = ts
        ∧ Outline marks nested τ items'
        ∧ (kind = .indent ∧ τ = .line (depth + 1)
          ∨ kind = .dedent ∧ ∃ n, depth = n + 1 ∧ τ = .line n) := by
    intro kind σ opened items ts hkind h hflat hfits
    have houter : kind.isInner = false := by rcases hkind with rfl | rfl <;> rfl
    have hfinish : kind ≠ .finish := by rcases hkind with rfl | rfl <;> simp
    obtain ⟨opens, τ, items', rfl, hts, hafter, hrest⟩ := h.of_outer hflat houter hfinish
    cases σ with
    | line depth =>
      refine ⟨depth, τ, items', rfl, rfl, hts, hrest, ?_⟩
      rcases hkind with rfl | rfl
      · rw [Stage.after_indent] at hafter
        exact .inl ⟨rfl, (Option.some.inj hafter).symm⟩
      · cases depth with
        | zero => simp [Stage.after] at hafter
        | succ n =>
          rw [Stage.after_dedent] at hafter
          exact .inr ⟨rfl, n, rfl, (Option.some.inj hafter).symm⟩
    | top => rcases hkind with rfl | rfl <;> simp [Stage.after, Token.Kind.isInner] at hafter
    | head depth => rcases hkind with rfl | rfl <;> simp [Stage.after, Token.Kind.isInner] at hafter
    | next | mid | done =>
      rcases Stage.isSimple_after rfl houter hafter with ⟨heq, -⟩ | ⟨heq, -⟩ <;>
        (rcases hkind with rfl | rfl <;> cases heq)
  rcases indentationMarks_cases hmarks with ⟨rfl, rfl⟩ | ⟨closed, rfl, rfl, -⟩
  · obtain ⟨n, τ, items', rfl, rfl, hts, hrest, hτ⟩ := hstep (.inl rfl) h hflat hfits
    rcases hτ with ⟨-, rfl⟩ | ⟨heq, -⟩
    · exact ⟨_, items', rfl, hts, hrest, ⟨congrArg (· + 1) hfits.1, rfl⟩, by simp, fun _ => rfl⟩
    · cases heq
  · clear hmarks
    induction closed generalizing σ items with
    | nil => exact ⟨σ, items, rfl, hflat, h, hfits, fun _ => rfl, id⟩
    | cons innermost closed ih =>
      obtain ⟨n, τ, items', rfl, rfl, hts, hrest, hτ⟩ := hstep (.inr rfl) h hflat hfits
      rcases hτ with ⟨heq, -⟩ | ⟨-, n, rfl, rfl⟩
      · cases heq
      · obtain ⟨τ, items'', rfl, hts', hrest', hfits', -, hfresh⟩ :=
          ih hrest hts ⟨Nat.succ.inj hfits.1, rfl⟩
        exact ⟨τ, items'', rfl, hts', hrest', hfits', by simp, fun _ => hfresh rfl⟩

end Outline

/-! ## Programs are tidy -/

/-- A token of a statement is tidy. -/
theorem tidy_of_inner (hinner : token.kind.isInner = true) (h : tidy false ts = true)
    (fresh : Bool) :
    tidy fresh (token :: ts) = true := by
  unfold tidy
  cases hkind : token.kind with
  | newline | indent | dedent | finish => simp [hkind, Token.Kind.isInner] at hinner
  | operator symbol =>
    rw [hkind] at hinner
    have hsymbol : (symbol == ";") = false := by
      simpa [Token.Kind.isInner] using hinner
    simp [hsymbol, h]
  | name | keyword | number | literal => exact h

theorem tidy_of_turns {tokens : List Token} (hturns : turns due tokens = some left)
    (h : tidy false ts = true) : tidy false (tokens ++ ts) = true := by
  induction tokens generalizing due with
  | nil => exact h
  | cons token tokens ih =>
    obtain ⟨next, hturn, hrest⟩ := Option.bind_eq_some_iff.mp hturns
    exact tidy_of_inner (Token.Kind.isInner_of_turn hturn) (ih hrest) false

/-- A token that moves the outline on. -/
theorem tidy_of_after {opens : Bool} (hafter : σ.after opens token.kind = some τ)
    (h : tidy τ.isFresh ts = true) : tidy σ.isFresh (token :: ts) = true := by
  have hbehind : tidy false ts = true := by
    cases hτ : τ.isFresh with
    | false => rwa [hτ] at h
    | true =>
      rw [hτ] at h
      exact tidy_false_of_true h
  cases hinner : token.kind.isInner with
  | true => exact tidy_of_inner hinner hbehind _
  | false =>
    unfold tidy
    cases hkind : token.kind with
    | finish => rfl
    | newline =>
      rw [hkind] at hafter
      have hfresh : τ.isFresh = true := by
        cases σ with
        | line | top => simp [Stage.after, Token.Kind.isInner] at hafter
        | head =>
          rw [Stage.after_newline] at hafter
          rw [← Option.some.inj hafter]
          rfl
        | next | mid | done =>
          rcases Stage.isSimple_after rfl rfl hafter with ⟨-, rfl⟩ | ⟨heq, -⟩
          · rfl
          · cases heq
      rwa [hfresh] at h
    | indent | dedent =>
      rw [hkind] at hafter
      cases σ with
      | line depth =>
        have hfresh : τ.isFresh = true := by
          simp only [Stage.after] at hafter
          grind [Stage.isFresh]
        rwa [hfresh] at h
      | top | head => simp [Stage.after, Token.Kind.isInner] at hafter
      | next | mid | done =>
        rcases Stage.isSimple_after rfl rfl hafter with ⟨heq, -⟩ | ⟨heq, -⟩ <;> cases heq
    -- a semicolon is the only operator that is no part of a statement, and no line begins with it
    | operator symbol =>
      have hsymbol : symbol = ";" := by
        rw [hkind] at hinner
        simpa [Token.Kind.isInner] using hinner
      have hfresh : σ.isFresh = false := by
        rw [hkind, hsymbol] at hafter
        cases σ with
        | line | top => simp [Stage.after, Token.Kind.isInner] at hafter
        | head | next | mid | done => rfl
      simp [hfresh, hbehind]
    | _ =>
      rw [hkind] at hinner
      cases hinner

/-- **The tokens of a program are tidy.** -/
theorem Outline.tidy (h : Outline marks nested σ items) : tidy σ.isFresh (flat items) = true := by
  induction h with
  | finish _ _ hkind =>
    simp [Grammar.tidy, hkind]
  | token hafter _ ih => exact tidy_of_after hafter ih
  | plain _ _ _ hturn _ ih => exact tidy_of_inner (Token.Kind.isInner_of_turn hturn) ih _
  | mark _ _ _ hturns hstart _ _ _ ih =>
    obtain ⟨first, others, due, rfl, -, hturn, hmore⟩ := exists_of_turns hturns hstart
    exact tidy_of_inner (Token.Kind.isInner_of_turn hturn) (tidy_of_turns hmore ih) _

/-! ## Statements behind a stop -/

/-- **In front of a marked statement there is a stop**, if it is not the next one. -/
theorem Lexed.exists_stop (h : Lexed mode opened due p text (flat items))
    (hmode : mode = .inside ∨ due ≠ []) (houtline : Outline marks nested σ items)
    (hσ : σ.isReady = false) (hfits : σ.Fits opened due) (hmarked : marked items ≠ []) :
    ∃ front d rest, text = front ++ rest ∧ front.getLast? = some d ∧ isStop d = true
      ∧ ∀ statement ∈ marked items, p.afterText front ≤ statement.start := by
  generalize hflat : flat items = all at h
  -- characters in front
  have hskip : ∀ {p : Position} (skipped : List Char) {text : List Char}
      {statements : List ParsedStatement},
      (∃ front d rest, text = front ++ rest ∧ front.getLast? = some d ∧ isStop d = true
        ∧ ∀ statement ∈ statements, (p.afterText skipped).afterText front ≤ statement.start) →
      ∃ front d rest, skipped ++ text = front ++ rest ∧ front.getLast? = some d ∧ isStop d = true
        ∧ ∀ statement ∈ statements, p.afterText front ≤ statement.start := by
    rintro p skipped text statements ⟨front, d, rest, rfl, hlast, hd, hstart⟩
    refine ⟨skipped ++ front, d, rest, (List.append_assoc _ _ _).symm, ?_, hd, ?_⟩
    · rw [List.getLast?_append, hlast]
      rfl
    · intro statement hmem
      rw [Position.afterText_append]
      exact hstart statement hmem
  induction h generalizing σ items with
  | blank _ _ ih =>
    exact hskip [_] (ih (.inr (hmode.resolve_left nofun)) houtline hσ hfits hmarked hflat)
  | emptyLine _ ih =>
    exact hskip [_] (ih (.inr (hmode.resolve_left nofun)) houtline hσ hfits hmarked hflat)
  | gap _ _ ih => exact hskip [_] (ih (.inl rfl) houtline hσ hfits hmarked hflat)
  | wrap hdue _ ih => exact hskip [_] (ih (.inr hdue) houtline hσ hfits hmarked hflat)
  | carry _ _ ih =>
    exact hskip [_, _] (ih (.inr (hmode.resolve_left nofun)) houtline hσ hfits hmarked hflat)
  | join _ _ ih => exact hskip [_, _] (ih (.inl rfl) houtline hσ hfits hmarked hflat)
  | commentLine _ _ ih =>
    exact hskip _ (ih (.inr (hmode.resolve_left nofun)) houtline hσ hfits hmarked hflat)
  | comment _ _ ih => exact hskip _ (ih (.inl rfl) houtline hσ hfits hmarked hflat)
  | finish | line => exact absurd hmode (by simp)
  | bracketed _ _ _ _ ih => exact ih (.inl rfl) houtline hσ hfits hmarked hflat
  | @newline _ p rest _ h =>
    obtain ⟨opens, τ, items', rfl, rfl, hafter, hrest⟩ := houtline.of_outer hflat rfl nofun
    exact ⟨['\n'], '\n', rest, rfl, rfl, rfl, fun statement hmem => h.le_start_of_marked hrest hmem⟩
  | @token opened due due' p c text kind characters rest all _ _ hlexeme hdue h ih =>
    rw [(lexeme?_eq_append hlexeme).1]
    rcases houtline.of_inside hflat (isInner_of_lexeme? hlexeme) hfits hdue with
      ⟨τ, items', rfl, rfl, hrest, hfits', hready⟩ | ⟨tokens, statement, items', rfl⟩
    · have hmore : marked items' ≠ [] := hmarked
      rcases isInner_of_lexeme? hlexeme with hinner | rfl
      · have hfound := ih (.inl rfl) hrest (hready hinner) hfits' hmore rfl
        exact hskip _ hfound
      · obtain rfl : characters = [';'] := (lexeme?_eq_append hlexeme).2.2 ";" rfl
        exact ⟨[';'], ';', rest, rfl, rfl, rfl,
          fun statement hmem => h.le_start_of_marked hrest hmem⟩
    · cases houtline with
      | mark hready => exact absurd (hσ.symm.trans hready) nofun

end ExpectFile.Grammar
