import ExpectFile.Proofs.Grammar.Courses

/-!
# The outline of a program

The tokens of a program with the stages in front of them. A simple statement outside of blocks is
taken as a whole where it is marked, together with what its parser gives; everything else goes token
by token. This is all that a reprint has to know of a program: the marked statements are those that
are printed in some other way, and the rest is kept as it is.

* **`Outline.of_path`** — a compound statement is gone through without looking for statements.
* **`outline_statement`**, **`outline_simpleLine`** — a statement of a line is marked or not.
* **`exists_outline`** — every program has an outline.
-/

namespace ExpectFile.Grammar

open TokenParser

/-! ## Items -/

/-- A piece of the tokens of a text: a token on its own, or the tokens of a marked statement. -/
inductive Item where
  | keep (token : Token)
  | mark (tokens : List Token) (statement : ParsedStatement)

/-- The tokens of an item. -/
def Item.tokens : Item → List Token
  | .keep token => [token]
  | .mark tokens _ => tokens

/-- The statement of an item, if it is a marked one. -/
def Item.statement? : Item → Option ParsedStatement
  | .keep _ => none
  | .mark _ statement => some statement

/-- The tokens of items, one after the other. -/
def flat (items : List Item) : List Token := items.flatMap Item.tokens

/-- The marked statements. -/
def marked (items : List Item) : List ParsedStatement := items.filterMap Item.statement?

@[simp] theorem flat_nil : flat [] = [] := rfl

@[simp] theorem flat_keep (token : Token) (items : List Item) :
    flat (.keep token :: items) = token :: flat items := rfl

@[simp] theorem flat_mark (tokens : List Token) (statement : ParsedStatement) (items : List Item) :
    flat (.mark tokens statement :: items) = tokens ++ flat items := rfl

@[simp] theorem flat_append (front items : List Item) :
    flat (front ++ items) = flat front ++ flat items := List.flatMap_append

@[simp] theorem marked_nil : marked [] = [] := rfl

@[simp] theorem marked_keep (token : Token) (items : List Item) :
    marked (.keep token :: items) = marked items := rfl

@[simp] theorem marked_mark (tokens : List Token) (statement : ParsedStatement)
    (items : List Item) : marked
    (.mark tokens statement :: items) = statement :: marked items := rfl

@[simp] theorem marked_append (front items : List Item) :
    marked (front ++ items) = marked front ++ marked items := List.filterMap_append

@[simp] theorem flat_map_keep (tokens : List Token) : flat (tokens.map .keep) = tokens := by
  induction tokens with
  | nil => rfl
  | cons token tokens ih => rw [List.map_cons, flat_keep, ih]

@[simp] theorem marked_map_keep (tokens : List Token) : marked (tokens.map .keep) = [] := by
  induction tokens with
  | nil => rfl
  | cons token tokens ih => rw [List.map_cons, marked_keep, ih]

/-- The closing brackets that are due behind tokens of a statement. -/
def turns (due : List String) : List Token → Option (List String)
  | [] => some due
  | token :: rest => (token.kind.turn due).bind fun next => turns next rest

/-! ## Outlines -/

/-- The stages at which a simple statement outside of blocks can begin. -/
def Stage.isReady : Stage → Bool
  | .top | .line 0 | .next => true
  | _ => false

/-- **The outline of a text**: its tokens, one after the other, with the stages in front of them,
and with simple statements outside of blocks marked or not, by their expressions. -/
inductive Outline (marks : Option Expr → Bool) (nested : Nested) : Stage → List Item → Prop where
  | finish {σ : Stage} {token : Token} (tokens : List Token) (hσ : σ = .top ∨ σ = .line 0)
      (hkind : token.kind = .finish) :
      Outline marks nested σ (.keep token :: tokens.map .keep)
  | token {σ τ : Stage} {token : Token} {items : List Item}
      (hafter : σ.after (opens (token :: flat items)) token.kind = some τ)
      (h : Outline marks nested τ items) : Outline marks nested σ (.keep token :: items)
  | plain {σ : Stage} {token : Token} {items : List Item} {stop : Position} {value : Option Expr}
      {d : Cursor} {due : List String} (hready : σ.isReady = true)
      (hrun : (simpleStatement nested).run ⟨token :: flat items, stop⟩ = some (value, d))
      (hmarks : marks value = false) (hturn : token.kind.turn [] = some due)
      (h : Outline marks nested (.mid due) items) : Outline marks nested σ (.keep token :: items)
  | mark {σ : Stage} {tokens : List Token} {statement : ParsedStatement} {items : List Item}
      {stop : Position} (hready : σ.isReady = true)
      (hrun : (simpleStatement nested).run ⟨tokens ++ flat items, stop⟩
        = some (statement.expression, ⟨flat items, statement.stop⟩))
      (hmarks : marks statement.expression = true) (hturns : turns [] tokens = some [])
      (hstart : tokens.head?.map (·.start) = some statement.start)
      (hstop : tokens.getLast?.map (·.stop) = some statement.stop)
      (hdecorator : statement.decorator = none) (h : Outline marks nested .done items) :
      Outline marks nested σ (.mark tokens statement :: items)

/-- The tokens that two cursors have moved along over. -/
theorem Along.exists_tokens {due left : List String} {c c' d d' : Cursor}
    (h : Along due left c c' d d') : ∃ tokens, c.rest = tokens ++ d.rest
      ∧ turns due tokens = some left
      ∧ d.stop = (tokens.getLast?.map (·.stop)).getD c.stop := by
  induction h with
  | refl due c c' => exact ⟨[], rfl, rfl, rfl⟩
  | @take due next left token token' rest rest' stop stop' d d' _ hturn _ ih =>
    obtain ⟨tokens, hrest, hturns, hstop⟩ := ih
    refine ⟨token :: tokens, congrArg (token :: ·) hrest, ?_, ?_⟩
    · rw [turns, hturn, Option.bind_some, hturns]
    · rw [hstop]
      cases tokens with
      | nil => rfl
      | cons other tokens =>
        rw [List.getLast?_cons_cons]
        cases hlast : (other :: tokens).getLast? with
        | none => exact absurd (List.getLast?_eq_none_iff.mp hlast) (List.cons_ne_nil _ _)
        | some last => rfl

namespace Outline

variable {marks : Option Expr → Bool} {nested : Nested} {σ τ : Stage} {items : List Item}

/-- A marked statement stands where a simple statement can begin. -/
theorem isReady_of_mark {tokens : List Token} {statement : ParsedStatement}
    (h : Outline marks nested σ (.mark tokens statement :: items)) : σ.isReady = true := by
  cases h with
  | mark hready => exact hready

theorem mid_of_done (h : Outline marks nested .done items) :
    Outline marks nested (.mid []) items := by
  cases h with
  | finish tokens hσ => exact absurd hσ (by simp)
  | @token _ _ token _ hafter h =>
    refine .token ?_ h
    have hbehind : Stage.after.behind token.kind = some _ := hafter
    have hinner : token.kind.isInner = false := by
      unfold Stage.after.behind at hbehind
      split at hbehind
      next heq => rw [heq]; rfl
      split at hbehind
      next heq => rw [heq]; rfl
      cases hbehind
    rw [Stage.after, hinner]
    simpa using hbehind
  | plain hready => cases hready
  | mark hready => cases hready

/-- The tokens of a simple statement. -/
theorem mid_of_turns {due left : List String} {tokens : List Token}
    (hturns : turns due tokens = some left) (h : Outline marks nested (.mid left) items) :
    Outline marks nested (.mid due) (tokens.map .keep ++ items) := by
  induction tokens generalizing due with
  | nil =>
    obtain rfl := Option.some.inj hturns
    exact h
  | cons token tokens ih =>
    obtain ⟨next, hturn, hrest⟩ := Option.bind_eq_some_iff.mp hturns
    refine .token ?_ (ih hrest)
    rw [Stage.after, if_pos (Token.Kind.isInner_of_turn hturn), hturn]
    rfl

/-- Going through tokens without looking for statements. -/
theorem of_path {ts ts' : List Token} (hpath : Path σ ts τ ts') (hflat : flat items = ts')
    (h : Outline marks nested τ items) :
    ∃ front, flat (front ++ items) = ts ∧ Outline marks nested σ (front ++ items)
      ∧ marked front = [] := by
  induction hpath with
  | refl => exact ⟨[], hflat, h, rfl⟩
  | @take _ _ _ token _ _ hafter _ ih =>
    obtain ⟨front, hfront, houtline, hmarked⟩ := ih hflat h
    refine ⟨.keep token :: front, congrArg (token :: ·) hfront, ?_, hmarked⟩
    rw [← hfront] at hafter
    exact .token hafter houtline

end Outline

/-! ## Statements outside of blocks -/

/-- What a parser gives has a property, if it gives anything. -/
def Gives {α : Type} (p : α → Prop) (parser : TokenParser α) : Prop :=
  ∀ c a d, parser.run c = some (a, d) → p a

theorem Gives.bind {α β : Type} {p : β → Prop} {parser : TokenParser α} {f : α → TokenParser β}
    (h : ∀ a, Gives p (f a)) : Gives p (parser >>= f) := by
  intro c b e hrun
  obtain ⟨a, d, -, hrest⟩ := run_bind_eq_some.mp hrun
  exact h a d b e hrest

theorem Gives.pure {α : Type} {p : α → Prop} {a : α} (h : p a) : Gives p (pure a) := by
  rintro c _ _ ⟨⟩
  exact h

/-- A decorated definition is more than an expression. -/
theorem gives_decoratedDefinition (nested : Nested) (suite : TokenParser Unit) :
    Gives (·.expression = none) (decoratedDefinition nested suite) := by
  unfold decoratedDefinition
  refine .bind fun _ => .bind fun cursor => .bind fun _ => .bind fun _ => .bind fun fuel =>
    .bind fun _ => .bind fun position => .bind fun _ => .bind fun cursor => .pure rfl

/-- Where there is no compound statement, no token is taken. -/
theorem eq_of_run_compoundStatement {nested : Nested} {patterns : Nat} {suite : TokenParser Unit}
    {c d : Cursor}
    (h : (compoundStatement nested patterns suite).run c = some (false, d)) : d = c := by
  unfold compoundStatement at h
  rw [run_bind_of (run_peek c)] at h
  -- in the other cases the result is true
  have hnever : ∀ {parser : TokenParser Bool}, Gives (· = true) parser →
      parser.run c = some (false, d) → d = c := fun hparser hrun =>
    absurd (hparser _ _ _ hrun) Bool.false_ne_true
  split at h
  case h_8 =>
    rw [run_bind_of (run_peekSecond c)] at h
    split at h
    next => exact hnever (.bind fun _ => .bind fun _ => .bind fun _ => .pure rfl) h
    next => exact hnever (.bind fun _ => .bind fun _ => .bind fun _ => .pure rfl) h
    next => exact hnever (.bind fun _ => .pure rfl) h
  case h_9 =>
    rw [run_bind_of (run_get c)] at h
    split at h
    next => exact hnever (.bind fun _ => .bind fun _ => .bind fun _ => .bind fun _ => .pure rfl) h
    next => exact (Prod.mk.inj (Option.some.inj h)).2.symm
  case h_10 => exact (Prod.mk.inj (Option.some.inj h)).2.symm
  case h_6 | h_7 => exact hnever (.bind fun _ => .pure rfl) h
  case h_3 | h_4 | h_5 => exact hnever (.bind fun _ => .bind fun _ => .pure rfl) h
  all_goals exact hnever (.bind fun _ => .bind fun _ => .bind fun _ => .bind fun _ => .pure rfl) h

section

variable {marks : Option Expr → Bool} {nested : Nested} {σ : Stage} {c d e : Cursor}
  (hnested : ∀ l, NestedAgree l nested nested)
include hnested

/-- One statement in front of others. -/
theorem outline_statement (hready : σ.isReady = true) (hclosed : Closed c.rest)
    {value : Option Expr}
    {position : Position} (hstart : TokenParser.start.run c = some (position, c))
    (hrun : (simpleStatement nested).run c = some (value, e)) (hstop : e.next.isInner = false)
    {items : List Item} (hflat : flat items = e.rest) (h : Outline marks nested .done items) :
    ∃ front, flat (front ++ items) = c.rest ∧ Outline marks nested σ (front ++ items)
      ∧ marked front
        = [(⟨value, position, e.stop, none⟩ : ParsedStatement)].filter (marks ·.expression) := by
  have halong : Along [] [] c c e e :=
    along_of_run (fun _ l => agree_simpleStatement (hnested l)) hclosed hrun
  obtain ⟨tokens, hrest, hturns, hlast⟩ := halong.exists_tokens
  have hinner := isInner_of_run_simpleStatement hnested hrun
  cases tokens with
  -- a statement takes a token, as the next one is none that may stand behind it
  | nil =>
    have hnext : c.next = e.next := by rw [Cursor.next, Cursor.next, hrest, List.nil_append]
    rw [hnext] at hinner
    cases hinner.symm.trans hstop
  | cons token tokens =>
    obtain ⟨-, first, behind, hfirst, rfl⟩ := eq_of_run_start hstart
    obtain ⟨rfl, -⟩ := List.cons.inj (hfirst.symm.trans hrest)
    have hc : c = ⟨first :: (tokens ++ e.rest), c.stop⟩ := by rw [← List.cons_append, ← hrest]
    rw [hc] at hrun
    cases hmarks : marks value with
    | false =>
      obtain ⟨due, hturn, hmore⟩ := Option.bind_eq_some_iff.mp hturns
      refine ⟨.keep first :: tokens.map .keep, by simp [hrest, hflat], ?_, by simp [hmarks]⟩
      have hsame : (simpleStatement nested).run ⟨first :: flat (tokens.map .keep ++ items), c.stop⟩
          = some (value, e) := by simpa [hflat] using hrun
      exact .plain hready hsame hmarks hturn (.mid_of_turns hmore h.mid_of_done)
    | true =>
      refine ⟨[.mark (first :: tokens) ⟨value, first.start, e.stop, none⟩],
        by simp [hrest, hflat], ?_,
        by simp [hmarks, marked, Item.statement?]⟩
      have hsame : (simpleStatement nested).run ⟨first :: tokens ++ flat items, c.stop⟩
          = some (value, ⟨flat items, e.stop⟩) := by simpa [hflat] using hrun
      refine .mark hready hsame hmarks hturns rfl ?_ rfl h
      rw [hlast, List.getLast?_eq_some_getLast (List.cons_ne_nil first tokens)]
      rfl

omit hnested in
/-- Behind a semicolon: the end of the line, or the other statements of it. -/
theorem outline_behind_semicolon {fuel : Nat} {statement : ParsedStatement}
    {statements : List ParsedStatement} {items : List Item}
    (hrun : (found .newline >>= fun ended =>
        if ended = true then pure [statement]
        else simpleLine nested fuel >>= fun others => pure (statement :: others)).run c
      = some (statements, d))
    (hmore : ∀ {others}, (simpleLine nested fuel).run c = some (others, d) →
      ∃ front, flat (front ++ items) = c.rest ∧ Outline marks nested .next (front ++ items)
        ∧ marked front = others.filter (marks ·.expression))
    (hflat : flat items = d.rest) (h : Outline marks nested .top items) :
    ∃ behind others, statements = statement :: others ∧ flat (behind ++ items) = c.rest
      ∧ Outline marks nested .next (behind ++ items)
      ∧ marked behind = others.filter (marks ·.expression) := by
  by_cases hfeed : c.next = .newline
  · obtain ⟨feed, after, hc, hkind⟩ := Cursor.eq_of_next (c := c) (hfeed ▸ nofun)
    rw [hfeed] at hkind
    rw [hc, ← hkind, run_bind_of (run_found _ _ _), if_pos rfl] at hrun
    obtain ⟨rfl, rfl⟩ := Prod.mk.inj (Option.some.inj hrun)
    refine ⟨[.keep feed], [], rfl, ?_, .token (τ := .top) (by rw [hkind]; rfl) h, rfl⟩
    rw [hc, List.singleton_append, flat_keep, hflat]
    rfl
  · rw [run_bind_of (run_found_of_ne hfeed)] at hrun
    obtain ⟨others, d', hothers, hpure⟩ := run_bind_eq_some.mp hrun
    obtain ⟨rfl, rfl⟩ := Prod.mk.inj (Option.some.inj hpure)
    obtain ⟨front, hfront, houtline, hmarked⟩ := hmore hothers
    exact ⟨front, others, rfl, hfront, houtline, hmarked⟩

/-- The statements of a line. Induction on the fuel of its parser, one statement at a time. -/
theorem outline_simpleLine {fuel : Nat} (hready : σ.isReady = true) (hclosed : Closed c.rest)
    {statements : List ParsedStatement}
    (hrun : (simpleLine nested fuel).run c = some (statements, d)) {items : List Item}
    (hflat : flat items = d.rest) (h : Outline marks nested .top items) :
    ∃ front, flat (front ++ items) = c.rest ∧ Outline marks nested σ (front ++ items)
      ∧ marked front = statements.filter (marks ·.expression) := by
  induction fuel generalizing σ c statements with
  | zero => exact absurd hrun nofun
  | succ fuel ih =>
    unfold simpleLine at hrun
    obtain ⟨position, c', hstart, hstatement⟩ := run_bind_eq_some.mp hrun
    obtain ⟨rfl, -⟩ := eq_of_run_start hstart
    obtain ⟨value, e, hvalue, hbehind⟩ := run_bind_eq_some.mp hstatement
    rw [run_bind_of (run_get e)] at hbehind
    have hpath : Path (.head 0) _ _ e.rest := moves_simpleStatement hnested _ _ _ hclosed hvalue
    have hclosed' : Closed e.rest := hpath.closed hclosed
    by_cases hnext : e.next = .operator ";"
    -- a semicolon is next: the others of the line come from the induction, and this one goes in
    -- front
    · obtain ⟨semicolon, rest, he, hkind⟩ := Cursor.eq_of_next (c := e) (hnext ▸ nofun)
      rw [hnext] at hkind
      rw [he, run_bind_of (run_foundOperator hkind), if_pos rfl] at hbehind
      have hstop : e.next.isInner = false := by rw [hnext]; rfl
      have hrest : Closed rest := by
        obtain ⟨token, hmem, hfinish⟩ := hclosed'
        rw [he] at hmem
        rcases List.mem_cons.mp hmem with rfl | hmem
        · cases hkind.symm.trans hfinish
        · exact ⟨token, hmem, hfinish⟩
      obtain ⟨behind, others, rfl, hflat', houtline', hothers⟩ :=
        outline_behind_semicolon hbehind (ih (σ := .next) rfl hrest) hflat h
      have hdone : Outline marks nested .done (.keep semicolon :: (behind ++ items)) :=
        .token (by rw [hkind]; rfl) houtline'
      have hbehind' : flat (.keep semicolon :: (behind ++ items)) = e.rest := by
        rw [he, flat_keep, hflat']
        rfl
      obtain ⟨front, hfront, houtline, hmarked⟩ :=
        outline_statement hnested hready hclosed hstart hvalue hstop hbehind' hdone
      refine ⟨front ++ .keep semicolon :: behind, by simpa using hfront,
        by simpa using houtline, ?_⟩
      rw [marked_append, marked_keep, hmarked, hothers, ← List.filter_append]
      rfl
    -- no semicolon is next, so the line ends here
    · rw [run_bind_of (run_foundOperator_of_ne hnext)] at hbehind
      obtain ⟨_, d', hfeed, hpure⟩ := run_bind_eq_some.mp hbehind
      obtain ⟨rfl, rfl⟩ := Prod.mk.inj (Option.some.inj hpure)
      obtain ⟨feed, rest, he, hkind, rfl⟩ := exists_of_run_expect hfeed nofun
      have hstop : e.next.isInner = false := by
        rw [Cursor.next, he]
        simp [hkind, Token.Kind.isInner]
      have hdone : Outline marks nested .done (.keep feed :: items) :=
        .token (τ := .top) (by rw [hkind]; rfl) h
      have hbehind' : flat (.keep feed :: items) = e.rest := by simp [he, hflat]
      obtain ⟨front, hfront, houtline, hmarked⟩ :=
        outline_statement hnested hready hclosed hstart hvalue hstop hbehind' hdone
      exact ⟨front ++ [.keep feed], by simpa using hfront, by simpa using houtline,
        by simpa using hmarked⟩

omit hnested in
/-- The stages at which a line outside of blocks can begin. -/
theorem Stage.enters_of_eq (hσ : σ = .top ∨ σ = .line 0) : σ.Enters 0 := by
  rcases hσ with rfl | rfl
  · exact Stage.enters_top
  · exact Stage.enters_line 0

variable {suite : TokenParser Unit}
  (hsuite : ∀ depth, Moves (.head depth) (fun _ => .line depth) suite)
include hsuite

/-- A line is a compound statement, which has no expression, or simple statements. -/
theorem statementLine_cases {patterns : Nat} (hσ : σ.Enters 0) (hclosed : Closed c.rest)
    {statements : List ParsedStatement}
    (hrun : (statementLine nested patterns suite).run c = some (statements, d)) :
    (Path σ c.rest (.line 0) d.rest
        ∧ ∃ statement, statements = [statement] ∧ statement.expression = none)
      ∨ c.next ≠ .operator "@" ∧ (compoundStatement nested patterns suite).run c = some (false, c)
        ∧ (simpleLine nested c.rest.length).run c = some (statements, d) := by
  unfold statementLine at hrun
  obtain ⟨position, c', hstart, hkind⟩ := run_bind_eq_some.mp hrun
  obtain ⟨rfl, -⟩ := eq_of_run_start hstart
  rw [run_bind_of (run_peek c')] at hkind
  split at hkind
  next =>
    obtain ⟨statement, d', hdecorated, hpure⟩ := run_bind_eq_some.mp hkind
    obtain ⟨rfl, rfl⟩ := Prod.mk.inj (Option.some.inj hpure)
    exact .inl ⟨moves_decoratedDefinition hnested hsuite hσ _ _ _ hclosed hdecorated,
      statement, rfl, gives_decoratedDefinition nested suite _ _ _ hdecorated⟩
  next hne =>
    obtain ⟨found, d', hcompound, hrest⟩ := run_bind_eq_some.mp hkind
    cases found with
    | true =>
      obtain ⟨rfl, rfl⟩ := Prod.mk.inj (Option.some.inj hrest)
      exact .inl ⟨moves_compoundStatement hnested hsuite hσ patterns _ _ _ hclosed hcompound,
        _, rfl, rfl⟩
    | false =>
      obtain rfl := eq_of_run_compoundStatement hcompound
      rw [if_neg Bool.false_ne_true, run_bind_of (run_remaining d')] at hrest
      exact .inr ⟨hne, hcompound, hrest⟩

/-- The statements of a line, or a compound statement. -/
theorem outline_statementLine {patterns : Nat} (hnone : marks none = false)
    (hσ : σ = .top ∨ σ = .line 0) (hclosed : Closed c.rest)
    {statements others : List ParsedStatement}
    (hrun : (statementLine nested patterns suite).run c = some (statements, d))
    (h : Closed d.rest → ∀ τ : Stage, τ = .top ∨ τ = .line 0 → ∃ items, flat items = d.rest
      ∧ Outline marks nested τ items ∧ marked items = others) :
    ∃ items, flat items = c.rest ∧ Outline marks nested σ items
      ∧ marked items = statements.filter (marks ·.expression) ++ others := by
  rcases statementLine_cases hnested hsuite (Stage.enters_of_eq hσ) hclosed hrun with
    ⟨hpath, statement, rfl, hexpression⟩ | ⟨-, -, hrest⟩
  · obtain ⟨items, hflat, houtline, hmarked⟩ := h (hpath.closed hclosed) (.line 0) (.inr rfl)
    obtain ⟨front, hfront, hfound, hempty⟩ := Outline.of_path hpath hflat houtline
    refine ⟨front ++ items, hfront, hfound, ?_⟩
    rw [marked_append, hempty, hmarked, List.filter_cons_of_neg (by simp [hexpression, hnone]),
      List.filter_nil]
  · have hline : Path (.head 0) _ _ d.rest := moves_simpleLine hnested _ _ _ _ hclosed hrest
    obtain ⟨items, hflat, houtline, hmarked⟩ := h (hline.closed hclosed) .top (.inl rfl)
    have hready : σ.isReady = true := by rcases hσ with rfl | rfl <;> rfl
    obtain ⟨front, hfront, hfound, hfirst⟩ :=
      outline_simpleLine hnested hready hclosed hrest hflat houtline
    exact ⟨front ++ items, hfront, hfound, by rw [marked_append, hfirst, hmarked]⟩

/-- All the statements of a text. -/
theorem outline_statementsUpTo {patterns fuel : Nat} (hnone : marks none = false)
    (hσ : σ = .top ∨ σ = .line 0) (hclosed : Closed c.rest) {statements : List ParsedStatement}
    (hrun : (statementsUpTo .finish (statementLine nested patterns suite) fuel).run c
      = some (statements, d)) :
    ∃ items, flat items = c.rest ∧ Outline marks nested σ items
      ∧ marked items = statements.filter (marks ·.expression) := by
  induction fuel generalizing σ c statements with
  | zero => exact absurd hrun nofun
  | succ fuel ih =>
    unfold statementsUpTo at hrun
    by_cases hfinish : c.next = .finish
    · cases hrest : c.rest with
      | nil =>
        obtain ⟨token, hmem, -⟩ := hclosed
        exact absurd (hrest ▸ hmem) List.not_mem_nil
      | cons token rest =>
        have hkind : token.kind = .finish := by rw [← hfinish, Cursor.next, hrest]; rfl
        have hc : c = ⟨token :: rest, c.stop⟩ := by rw [← hrest]
        rw [hc, ← hkind, run_bind_of (run_found _ _ _), if_pos rfl] at hrun
        obtain ⟨rfl, -⟩ := Prod.mk.inj (Option.some.inj hrun)
        exact ⟨.keep token :: rest.map .keep, by simp, .finish rest hσ hkind, by simp⟩
    · rw [run_bind_of (run_found_of_ne hfinish)] at hrun
      obtain ⟨first, e, hfirst, hrest⟩ := run_bind_eq_some.mp hrun
      obtain ⟨others, e', hothers, hpure⟩ := run_bind_eq_some.mp hrest
      obtain ⟨rfl, rfl⟩ := Prod.mk.inj (Option.some.inj hpure)
      rw [List.filter_append]
      exact outline_statementLine hnested hsuite hnone hσ hclosed hfirst fun hmore τ hτ =>
        ih hτ hmore hothers

end

/-- **Every program has an outline**, with the statements in it that are to be marked. -/
theorem exists_outline {text : List Char} {statements : List ParsedStatement}
    (h : parseStatements text = some statements) (marks : Option Expr → Bool)
    (hnone : marks none = false) :
    ∃ items, tokens? text = some (flat items)
      ∧ Outline marks (exprAt (text.length + 2)) (.line 0) items
      ∧ marked items = statements.filter (marks ·.expression) := by
  obtain ⟨tokens, htokens, hrest⟩ := Option.bind_eq_some_iff.mp h
  obtain ⟨⟨found, d⟩, hrun, hpure⟩ := Option.bind_eq_some_iff.mp hrest
  obtain rfl := Option.some.inj hpure
  have hnested : ∀ l, NestedAgree l (exprAt (text.length + 2)) (exprAt (text.length + 2)) :=
    fun l => nestedAgree_exprAt (.inl rfl)
  have hsuite : ∀ depth, Moves (.head depth) (fun _ => .line depth)
      (suiteAt (exprAt (text.length + 2)) (text.length + 2)) :=
    fun depth => moves_suiteAt hnested _
  have hclosed : Closed (Cursor.mk tokens ⟨1, 0⟩).rest := (lexed_of_tokens? htokens).exists_finish
  obtain ⟨items, hflat, houtline, hmarked⟩ :=
    outline_statementsUpTo hnested hsuite hnone (.inr rfl) hclosed hrun
  exact ⟨items, htokens.trans (congrArg some hflat.symm), houtline, hmarked⟩

end ExpectFile.Grammar
