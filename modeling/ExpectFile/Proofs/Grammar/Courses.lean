import ExpectFile.Proofs.Grammar.Stages

/-!
# The courses of compound statements

Every kind of compound statement begins at the start of a line and ends at the start of another, at
the same depth. The bodies are blocks, or simple statements in the same line.

* **`opens_of_along`** — a line with a colon at its end opens a block behind it, or none.
* **`moves_compoundStatement`** — each of the kinds.
* **`moves_statementLine`** — a line of a block.
* **`moves_suiteAt`** — a body, by induction on how deep it may be nested.
-/

namespace ExpectFile.Grammar

open TokenParser

variable {depth r l : Nat} {due : List String} {σ : Stage} {nested nested' : Nested}
  {suite : TokenParser Unit}

/-! ## Lines that begin compound statements -/

/-- A context and what it is assigned to are parsed alike from tokens that are alike. -/
theorem agree_contextItem (h : NestedAgree l nested nested') :
    Agree due due r l (contextItem nested) (contextItem nested') := by
  unfold contextItem
  refine (h.agree _ r _).bind fun _ => .ifFound rfl (.orNot rfl ?_) (.pure ())
  exact (h.agree _ r _).bind fun _ => .ite (fun _ => .pure ()) fun _ => .failure

/-- The head of a branching statement up to the end of its line. -/
def branchingSubject (nested : Nested) : TokenParser Unit := do
  if (← peek) ≠ .name "match".toList then failure
  advance
  let (items, trailing) ← commaItems startsItem (starNamed nested) (← remaining)
  match items, trailing with
  | [.starred _], false => failure
  | _, _ => operator ":"

/-- The head is the subject with the end of its line. Only the subject is inside of the line, where
parsers agree. -/
theorem branchingHead_eq (nested : Nested) :
    branchingHead nested = branchingSubject nested >>= fun _ => expect .newline := by
  unfold branchingHead branchingSubject
  rw [bind_assoc]
  congr 1
  funext kind
  by_cases hkind : kind ≠ .name "match".toList
  · simp only [if_pos hkind]
    rfl
  · simp only [if_neg hkind, bind_assoc]
    congr 1
    funext _
    congr 1
    funext fuel
    congr 1
    funext found
    obtain ⟨items, trailing⟩ := found
    rcases items with _ | ⟨value, _ | ⟨other, items⟩⟩
    · rfl
    · cases trailing <;> cases value <;> rfl
    · cases value <;> rfl

/-- The subject of a branching statement is parsed alike; where the first name is another one,
nothing is found on either side. -/
theorem agree_branchingSubject (h : NestedAgree l nested nested') :
    Agree [] [] r l (branchingSubject nested) (branchingSubject nested') := by
  unfold branchingSubject
  refine .peek fun kind => .ite (fun _ => Agree.failing.atNext _) fun hkind => ?_
  obtain rfl : kind = .name "match".toList := Decidable.not_not.mp hkind
  refine .taking rfl (.items (agree_starNamed h) fun found => ?_)
  obtain ⟨items, trailing⟩ := found
  dsimp only
  split
  · exact .failure
  · exact .expect rfl

/-! ## Parts of compound statements -/

section

variable (hnested : ∀ l, NestedAgree l nested nested)
  (hsuite : ∀ depth, Moves (.head depth) (fun _ => .line depth) suite)
include hnested

/-- An expression stays in the first line of a compound statement, as it takes no mark of layout. -/
theorem moves_nested (kind : Category) :
    Moves (.head depth) (fun _ => .head depth) (nested kind) :=
  .of_agree [] fun r l => (hnested l).agree kind r []

include hsuite

omit hnested in
/-- A colon and a body lead from the first line of a compound statement to the start of the next
line at its depth. -/
theorem moves_body : Moves (.head depth) (fun _ => .line depth) (body suite) :=
  (Moves.expect fun _ => Stage.after_head depth rfl).bind fun _ => hsuite depth

omit hnested in
/-- At the start of a line, an alternative body leads to the start of another, whether there is one
or not. -/
theorem moves_elseBody : Moves (.line depth) (fun _ => .line depth) (elseBody suite) :=
  .whenFound (fun opened => Stage.enters_line depth opened _ rfl rfl) (moves_body hsuite)
    (.pure rfl)

/-- The branches of a conditional statement from the first colon on, by induction on the fuel. -/
theorem moves_branches (fuel : Nat) :
    Moves (.head depth) (fun _ => .line depth) (branches nested suite fuel) := by
  induction fuel with
  | zero => exact .failure
  | succ fuel ih =>
    unfold branches
    refine (moves_body hsuite).bind fun _ =>
      .whenFound (fun opened => Stage.enters_line depth opened _ rfl rfl) ?_ (moves_elseBody hsuite)
    exact (moves_nested hnested _).bind fun _ => ih

/-- A loop over values, behind its first word. -/
theorem moves_forLoop : Moves (.head depth) (fun _ => .line depth) (forLoop nested suite) := by
  unfold forLoop
  refine (Moves.of_agree [] fun r l => agree_loopTargets (hnested l)).bind fun _ => ?_
  refine (Moves.expect fun _ => Stage.after_head depth rfl).bind fun _ => ?_
  refine (moves_nested hnested _).bind fun _ => (moves_body hsuite).bind fun _ => ?_
  exact moves_elseBody hsuite

/-- A statement in a context, behind its first word. With parentheses around the contexts or
without, they are all in its first line. -/
theorem moves_contextStatement :
    Moves (.head depth) (fun _ => .line depth) (contextStatement nested suite) := by
  unfold contextStatement
  dsimp only
  refine (Moves.orElse ?_ ?_ : Moves _ (fun _ => .head depth) _).bind fun _ => hsuite depth
  · refine .of_agree [] (fun r l => ?_ : ∀ r l, Agree [] [] r l _ _)
    refine (Agree.expect rfl).bind fun _ => ?_
    refine .items (agree_contextItem (hnested l)) fun _ => ?_
    exact (Agree.expect rfl).bind fun _ => .expect rfl
  · refine .of_agree [] (fun r l => ?_ : ∀ r l, Agree [] [] r l _ _)
    exact agree_list (agree_contextItem (hnested l)) fun _ => .expect rfl

/-- Handlers lead from the start of a line to the start of another: each of them begins a line and
has a body. -/
theorem moves_handlers (groups : Bool) (fuel : Nat) :
    Moves (.line depth) (fun _ => .line depth) (handlers nested suite groups fuel) := by
  induction fuel with
  | zero => exact .failure
  | succ fuel ih =>
    unfold handlers
    dsimp only
    refine .whenFound (fun opened => Stage.enters_line depth opened _ rfl rfl) ?_ (.pure rfl)
    have hrest : Moves (.head depth) (fun _ => .line depth) (peek >>= fun next =>
        if (groups || decide (next ≠ .operator ":")) = true then
          nested .expression >>= fun _ => aliasName >>= fun _ => body suite >>= fun _ =>
            handlers nested suite groups fuel
        else body suite >>= fun _ => handlers nested suite groups fuel) := by
      refine .peek fun next => (Moves.ite (fun _ => ?_) fun _ => ?_).atNext next
      · refine (moves_nested hnested _).bind fun _ => ?_
        refine (Moves.of_agree [] fun r l => agree_aliasName).bind fun _ => ?_
        exact (moves_body hsuite).bind fun _ => ih
      · exact (moves_body hsuite).bind fun _ => ih
    exact .ite (fun _ => (Moves.expect fun _ => Stage.after_head depth rfl).bind fun _ => hrest)
      fun _ => hrest

/-- A guarded statement behind its first word. Each of its parts begins at the start of a line,
where the body before it has ended. -/
theorem moves_guardedStatement :
    Moves (.head depth) (fun _ => .line depth) (guardedStatement nested suite) := by
  unfold guardedStatement
  have hfinally : Moves (.line depth) (fun _ => .line depth)
      (foundKeyword "finally" >>= fun isNext => if isNext = true then body suite else pure ()) :=
    .whenFound (fun opened => Stage.enters_line depth opened _ rfl rfl) (moves_body hsuite)
      (.pure rfl)
  refine (moves_body hsuite).bind fun _ => .whenFound
    (fun opened => Stage.enters_line depth opened _ rfl rfl) (moves_body hsuite) ?_
  refine .peek fun next => (Moves.ite (fun _ => ?_) fun _ => .failure).atNext next
  refine .peekSecond fun second => .remaining fun n => ?_
  exact (moves_handlers hnested hsuite _ n).bind fun _ =>
    (moves_elseBody hsuite).bind fun _ => hfinally

/-- A function behind its first word. The type of its result may stand in front of the colon. -/
theorem moves_functionDefinition :
    Moves (.head depth) (fun _ => .line depth) (functionDefinition nested suite) := by
  unfold functionDefinition
  refine (Moves.of_agree [] fun r l => agree_rawName).bind fun _ => ?_
  refine (Moves.expect fun _ => Stage.after_head depth rfl).bind fun _ => ?_
  refine (Moves.of_agree [")"] fun r l => agree_parameters (hnested l) _ _).bind fun _ => ?_
  refine (Moves.expect fun _ => Stage.after_head depth rfl).bind fun _ => ?_
  refine .whenFound (fun _ => Stage.after_head depth rfl) ?_ (moves_body hsuite)
  exact (moves_nested hnested _).bind fun _ => moves_body hsuite

/-- A class behind its first word. Its bases are the arguments of a call. -/
theorem moves_classDefinition :
    Moves (.head depth) (fun _ => .line depth) (classDefinition nested suite) := by
  unfold classDefinition
  refine (Moves.of_agree [] fun r l => agree_rawName).bind fun _ => ?_
  refine .whenFound (fun _ => Stage.after_head depth rfl) ?_ (moves_body hsuite)
  rw [← bind_assoc]
  refine (Moves.of_agree [")"] (fun r l => ?_ : ∀ r l, Agree [")"] [] r l _ _)).bind
    fun _ => moves_body hsuite
  exact .remaining fun _ _ _ _ hm hm' => agree_argumentsFrom (hnested l) hm hm' _

/-- The cases of a branching statement are lines of a block, one level deeper than its head, and the
dedent behind the last of them closes the block. -/
theorem moves_cases (patterns fuel : Nat) :
    Moves (.line (depth + 1)) (fun _ => .line depth) (cases nested patterns suite fuel) := by
  induction fuel with
  | zero => exact .failure
  | succ fuel ih =>
    unfold cases
    have hbody : Moves (.head (depth + 1)) (fun _ => .line depth) (body suite >>= fun _ =>
        found .dedent >>= fun isNext =>
          if isNext = true then pure () else cases nested patterns suite fuel) :=
      (moves_body hsuite).bind fun _ =>
        .whenFound (fun opened => Stage.after_dedent opened depth) (.pure rfl) ih
    refine .peek fun kind => .ite (fun _ => Moves.failing.atNext _) fun hkind => ?_
    obtain rfl : kind = .name "case".toList := Decidable.not_not.mp hkind
    refine .advance (fun opened => Stage.after_line opened depth rfl) ?_
    refine (Moves.of_agree [] fun r l =>
      agree_openSequence (agree_patternAt (hnested l) (.inl rfl))).bind fun _ => ?_
    refine .whenFound (fun _ => Stage.after_head _ rfl) ?_ hbody
    exact (moves_nested hnested _).bind fun _ => hbody

omit hsuite in
/-- Decorators are lines of their own. -/
theorem moves_decorators (fuel : Nat) :
    Moves (.line depth) (fun _ => .line depth) (decorators nested fuel) := by
  induction fuel with
  | zero => exact .failure
  | succ fuel ih =>
    unfold decorators
    refine .whenFound (fun opened => Stage.enters_line depth opened _ rfl rfl) ?_ (.pure rfl)
    refine (moves_nested hnested _).bind fun _ => ?_
    exact (Moves.expect fun opened => Stage.after_newline opened depth).bind fun _ => ih

/-- A definition leads from where a compound statement can begin to the start of the line behind it.
-/
theorem moves_definition (hσ : σ.Enters depth) :
    Moves σ (fun _ => .line depth) (definition nested suite) := by
  unfold definition
  refine .whenFound (fun opened => hσ opened _ rfl rfl) (moves_functionDefinition hnested hsuite)
    (.whenFound (fun opened => hσ opened _ rfl rfl) (moves_classDefinition hnested hsuite) ?_)
  refine (Moves.expect fun opened => hσ opened _ rfl rfl).bind fun _ => ?_
  refine (Moves.expect fun _ => Stage.after_head depth rfl).bind fun _ => ?_
  exact moves_functionDefinition hnested hsuite

/-- So does one with decorators, the first of which begins it. -/
theorem moves_decoratedDefinition (hσ : σ.Enters depth) :
    Moves σ (fun _ => .line depth) (decoratedDefinition nested suite) := by
  unfold decoratedDefinition
  refine (Moves.expect fun opened => hσ opened _ rfl rfl).bind fun _ => .get fun cursor => ?_
  refine (moves_nested hnested _).bind fun _ => ?_
  refine (Moves.expect fun opened => Stage.after_newline opened depth).bind fun _ => ?_
  refine .remaining fun n => (moves_decorators hnested n).bind fun _ => .start fun position => ?_
  refine (moves_definition hnested hsuite (Stage.enters_line depth)).bind fun _ => ?_
  exact .get fun cursor => .pure rfl

/-! ## Statements in blocks -/

omit hnested hsuite in
/-- Whether a block begins behind a line is the same for all the tokens inside of it. -/
theorem opens_of_along {due left : List String} {c c' d d' : Cursor}
    (h : Along due left c c' d d') :
    opens c.rest = opens d.rest := by
  induction h with
  | refl => rfl
  | @take _ _ _ token _ _ _ _ _ _ _ _ hturn _ ih =>
    have hinner := Token.Kind.isInner_of_turn hturn
    have hne : token.kind ≠ .newline := by
      intro heq
      rw [heq] at hinner
      exact absurd hinner nofun
    rw [opens, if_neg hne, hinner, Bool.true_and, ih]

omit hnested hsuite in
/-- The first line of a compound statement, up to its end. -/
theorem Path.of_enters (hσ : σ.Enters depth) {due left : List String} {c c' d d' : Cursor}
    (h : Along due left c c' d d') (hinner : c.next.isInner = true)
    (hopens : (c.next.beginsCompound || opens c.rest) = true) (hstop : d.next.isInner = false) :
    Path σ c.rest (.head depth) d.rest := by
  cases h with
  | refl => exact absurd (hinner.symm.trans hstop) nofun
  | take _ _ h => exact .take (hσ _ _ hinner hopens) (.of_along h depth)

/-- A branching statement behind its first line. -/
theorem moves_branchingBody (patterns : Nat) :
    Moves (.line depth) (fun _ => .line depth)
      (expect .indent >>= fun _ => remaining >>= fun fuel => cases nested patterns suite fuel) :=
  (Moves.expect fun opened => Stage.after_indent opened depth).bind fun _ =>
    .remaining fun fuel => moves_cases hnested hsuite patterns fuel

omit hnested hsuite in
/-- Where a token is taken, it is the next one. -/
theorem exists_of_run_expect {kind : Token.Kind} {c d : Cursor}
    (h : (expect kind).run c = some ((), d)) (hkind : kind ≠ .finish) :
    ∃ token rest, c.rest = token :: rest ∧ token.kind = kind ∧ d.rest = rest := by
  by_cases hnext : c.next = kind
  · obtain ⟨token, rest, hc, htoken⟩ := Cursor.eq_of_next (hnext ▸ hkind)
    rw [hc] at h
    obtain rfl : token.kind = kind := htoken.trans hnext
    rw [run_expect] at h
    obtain rfl := (Prod.mk.inj (Option.some.inj h)).2
    exact ⟨token, rest, by rw [hc], rfl, rfl⟩
  · unfold expect at h
    rw [run_bind_of (run_found_of_ne hnext)] at h
    exact absurd h nofun

/-- A branching statement goes through its subject, the end of the first line, and the block of its
cases. That the first line opens a block is known from the indent behind it. -/
theorem path_branching (hσ : σ.Enters depth) {c e d : Cursor} {raw : List Char} {patterns : Nat}
    (hclosed : Closed c.rest) (hname : c.next = .name raw)
    (hhead : (branchingHead nested).run c = some ((), e))
    (hbody : (expect .indent >>= fun _ => remaining >>= fun fuel =>
      cases nested patterns suite fuel).run e = some ((), d)) :
    Path σ c.rest (.line depth) d.rest := by
  rw [branchingHead_eq] at hhead
  obtain ⟨_, f, hsubject, hfeed⟩ := run_bind_eq_some.mp hhead
  have halong := along_of_run (fun _ l => agree_branchingSubject (hnested l)) hclosed hsubject
  obtain ⟨feed, behind, hf, hnewline, rfl⟩ := exists_of_run_expect hfeed nofun
  obtain ⟨_, g, hindent, -⟩ := run_bind_eq_some.mp hbody
  obtain ⟨indent, after, he, hkind, -⟩ := exists_of_run_expect hindent nofun
  have hopens : opens c.rest = true := by
    rw [opens_of_along halong, hf, he, opens, if_pos hnewline]
    simp [hkind]
  have hstop : f.next.isInner = false := by
    rw [Cursor.next, hf]
    simp [hnewline, Token.Kind.isInner]
  have hfront : Path σ c.rest (.head depth) f.rest :=
    .of_enters hσ halong (by rw [hname]; rfl) (by rw [hopens, Bool.or_true]) hstop
  have hline : Path (.head depth) f.rest (.line depth) e.rest := by
    rw [hf]
    exact .take (by rw [hnewline]; exact Stage.after_newline _ depth) (.refl _ _)
  have hpath := hfront.trans hline
  exact hpath.trans (moves_branchingBody hnested hsuite patterns e () d
    (hpath.closed hclosed) hbody)

/-- **A compound statement of any kind** leads from where it can begin to the start of the line
behind it. Where there is none, nothing is taken. -/
theorem moves_compoundStatement (hσ : σ.Enters depth) (patterns : Nat) :
    Moves σ (fun found => if found = true then .line depth else σ)
      (compoundStatement nested patterns suite) := by
  unfold compoundStatement
  have hfor : Moves (.head depth) (fun found => if found = true then .line depth else σ)
      (forLoop nested suite >>= fun _ => pure true) :=
    (moves_forLoop hnested hsuite).bind fun _ => .pure rfl
  have hwith : Moves (.head depth) (fun found => if found = true then .line depth else σ)
      (contextStatement nested suite >>= fun _ => pure true) :=
    (moves_contextStatement hnested hsuite).bind fun _ => .pure rfl
  have hdefinition : Moves σ (fun found => if found = true then .line depth else σ)
      (definition nested suite >>= fun _ => pure true) :=
    (moves_definition hnested hsuite hσ).bind fun _ => .pure rfl
  refine .peek fun kind => ?_
  split
  next =>
    refine .advance (fun opened => hσ opened _ rfl rfl) ((moves_nested hnested _).bind fun _ => ?_)
    exact .remaining fun fuel => (moves_branches hnested hsuite fuel).bind fun _ => .pure rfl
  next =>
    refine .advance (fun opened => hσ opened _ rfl rfl) ((moves_nested hnested _).bind fun _ => ?_)
    exact (moves_body hsuite).bind fun _ => (moves_elseBody hsuite).bind fun _ => .pure rfl
  next => exact .advance (fun opened => hσ opened _ rfl rfl) hfor
  next => exact .advance (fun opened => hσ opened _ rfl rfl) hwith
  next =>
    refine .advance (fun opened => hσ opened _ rfl rfl) ?_
    exact (moves_guardedStatement hnested hsuite).bind fun _ => .pure rfl
  next => exact hdefinition.atNext _
  next => exact hdefinition.atNext _
  next =>
    refine .peekSecond fun second => ?_
    split
    next =>
      exact .advance (fun opened => hσ opened _ rfl rfl)
        (.advance (fun opened => Stage.after_head depth rfl) hfor)
    next =>
      exact .advance (fun opened => hσ opened _ rfl rfl)
        (.advance (fun opened => Stage.after_head depth rfl) hwith)
    next => exact (hdefinition.atNext _).pair _
  -- a name: whether `match` is one shows at the end of the line, so its head is tried apart
  next raw =>
    intro c found d hclosed hname hrun
    rw [run_bind_of (run_get c)] at hrun
    split at hrun
    next after hhead =>
      obtain ⟨_, e, hset, hbody⟩ := run_bind_eq_some.mp hrun
      obtain rfl : after = e := (Prod.mk.inj (Option.some.inj hset)).2
      have hboth : ((expect .indent >>= fun _ => remaining >>= fun fuel =>
          cases nested patterns suite fuel) >>= fun _ => pure true).run after
            = some (found, d) := by
        simpa only [bind_assoc] using hbody
      obtain ⟨_, f, hcases, hpure⟩ := run_bind_eq_some.mp hboth
      obtain ⟨rfl, rfl⟩ := Prod.mk.inj (Option.some.inj hpure)
      exact path_branching hnested hsuite hσ hclosed hname hhead hcases
    next =>
      obtain ⟨rfl, rfl⟩ := Prod.mk.inj (Option.some.inj hrun)
      exact .refl σ _
  next =>
    have hnone : Moves σ (fun found => if found = true then .line depth else σ) (pure false) :=
      .pure rfl
    exact hnone.atNext _

omit hsuite in
/-- A simple statement stays in its line. -/
theorem moves_simpleStatement :
    Moves (.head depth) (fun _ => .head depth) (simpleStatement nested) :=
  .of_agree [] fun _ l => agree_simpleStatement (hnested l)

omit hsuite in
/-- The simple statements of a line lead to the start of the next one, by induction on how many
there may be. -/
theorem moves_simpleLine (fuel : Nat) :
    Moves (.head depth) (fun _ => .line depth) (simpleLine nested fuel) := by
  induction fuel with
  | zero => exact .failure
  | succ fuel ih =>
    unfold simpleLine
    refine .start fun position => (moves_simpleStatement hnested).bind fun expression =>
      .get fun cursor => ?_
    refine .whenFound (fun opened => Stage.after_semicolon opened depth) ?_ ?_
    · refine .whenFound (fun opened => Stage.after_newline opened depth) (.pure rfl) ?_
      exact ih.bind fun others => .pure rfl
    · exact (Moves.expect fun opened => Stage.after_newline opened depth).bind fun _ => .pure rfl

omit hsuite in
/-- A simple statement begins with a token that is part of it. -/
theorem isInner_of_run_simpleStatement {c d : Cursor} {value : Option Expr}
    (h : (simpleStatement nested).run c = some (value, d)) : c.next.isInner = true := by
  cases hinner : c.next.isInner with
  | true => rfl
  | false =>
    have hnone := fun kind => (hnested 0).fails kind c hinner
    unfold simpleStatement expressionStatement at h
    rw [run_bind_of (run_peek c)] at h
    split at h
    case h_13 =>
      rw [run_bind_eq_none (hnone _)] at h
      cases h
    all_goals
      rw [‹c.next = _›] at hinner
      cases hinner

omit hsuite in
/-- So does a line of them. -/
theorem isInner_of_run_simpleLine {fuel : Nat} {c d : Cursor} {statements : List ParsedStatement}
    (h : (simpleLine nested fuel).run c = some (statements, d)) : c.next.isInner = true := by
  cases fuel with
  | zero => exact absurd h nofun
  | succ fuel =>
    unfold simpleLine at h
    obtain ⟨position, e, hstart, hrest⟩ := run_bind_eq_some.mp h
    obtain rfl := (eq_of_run_start hstart).1
    obtain ⟨value, f, hvalue, -⟩ := run_bind_eq_some.mp hrest
    exact isInner_of_run_simpleStatement hnested hvalue

omit hnested hsuite in
/-- A path from inside of a line is one from its start, if a token that is part of a statement comes
first. -/
theorem Path.of_head {token : Token} {rest ts : List Token} (hinner : token.kind.isInner = true)
    (h : Path (.head (depth + 1)) (token :: rest) (.line (depth + 1)) ts) :
    Path (.line (depth + 1)) (token :: rest) (.line (depth + 1)) ts := by
  cases h with
  | take hafter h =>
    rw [Stage.after_head _ hinner] at hafter
    obtain rfl := Option.some.inj hafter
    exact .take (Stage.after_line _ depth hinner) h

/-- **A line of a block.** -/
theorem moves_statementLine (patterns : Nat) :
    Moves (.line (depth + 1)) (fun _ => .line (depth + 1))
      (statementLine nested patterns suite) := by
  unfold statementLine
  have hσ := Stage.enters_line (depth + 1)
  refine .start fun position => .peek fun kind => (Moves.ite (fun _ => ?_) fun _ => ?_).atNext kind
  · exact (moves_decoratedDefinition hnested hsuite hσ).bind fun _ => .pure rfl
  · refine (moves_compoundStatement hnested hsuite hσ patterns).bind fun found => ?_
    cases found with
    | true => exact .get fun cursor => .pure rfl
    | false =>
      refine .remaining fun fuel => ?_
      -- the first token leads from the start of the line into it
      intro c statements d hclosed hrun
      have hpath : Path (.head (depth + 1)) c.rest _ d.rest :=
        moves_simpleLine hnested fuel c statements d hclosed hrun
      have hinner := isInner_of_run_simpleLine hnested hrun
      obtain ⟨token, rest, hc, htoken⟩ := Cursor.eq_of_next (c := c) (by
        intro hfinish
        rw [hfinish] at hinner
        exact absurd hinner nofun)
      rw [hc] at hpath ⊢
      exact hpath.of_head (htoken ▸ hinner)

/-- The lines of a block, up to the dedent behind the last of them. -/
theorem moves_statementsUpTo (patterns fuel : Nat) :
    Moves (.line (depth + 1)) (fun _ => .line depth)
      (statementsUpTo .dedent (statementLine nested patterns suite) fuel) := by
  induction fuel with
  | zero => exact .failure
  | succ fuel ih =>
    unfold statementsUpTo
    refine .whenFound (fun opened => Stage.after_dedent opened depth) (.pure rfl) ?_
    exact (moves_statementLine hnested hsuite patterns).bind fun first =>
      ih.bind fun others => .pure rfl

end

/-- **The body of a compound statement.** -/
theorem moves_suiteAt (hnested : ∀ l, NestedAgree l nested nested) (patterns : Nat) :
    Moves (.head depth) (fun _ => .line depth) (suiteAt nested patterns) := by
  induction patterns generalizing depth with
  | zero => exact .failure
  | succ patterns ih =>
    unfold suiteAt
    refine .whenFound (fun opened => Stage.after_newline opened depth) ?_ ?_
    · refine (Moves.expect fun opened => Stage.after_indent opened depth).bind fun _ => ?_
      refine (moves_statementLine hnested (fun _ => ih) patterns).bind fun first => ?_
      refine .remaining fun fuel => ?_
      exact (moves_statementsUpTo hnested (fun _ => ih) patterns fuel).bind fun others => .pure rfl
    · exact .remaining fun fuel => (moves_simpleLine hnested fuel).bind fun _ => .pure rfl

end ExpectFile.Grammar
