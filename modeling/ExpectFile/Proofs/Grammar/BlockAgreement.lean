import ExpectFile.Proofs.Grammar.Carrying

/-!
# Compound statements are parsed alike

A compound statement is parsed on tokens that have the same kinds, whatever follows it, as long as
that does not go on with the statement. The lemmas follow those about courses one by one.

* **`carries_compoundStatement`** — each of the kinds.
* **`carries_statementLine`** — the statements of a line, or a compound statement.
* **`carries_suiteAt`** — a body, by induction on how deep it may be nested.
-/

namespace ExpectFile.Grammar

open TokenParser

/-- The tokens with which the compound statement in front would go on. -/
def continuations : List Token.Kind :=
  [.keyword "elif", .keyword "else", .keyword "except", .keyword "finally", .dedent]

variable {α : Type} {l r r' : Nat} {tail tail' : List Token} {nested nested' : Nested}
  {suite suite' : TokenParser Unit}

/-- Parsers that agree, and others for where they fail. -/
theorem Agree.orElse {due left : List String} {parser parser' other other' : TokenParser α}
    (h : Agree due left r l parser parser') (h' : Agree due left r l other other') :
    Agree due left r l (parser <|> other) (parser' <|> other') := by
  intro c c' hlike hroom hload
  show Same due left c c' ((parser.run c).orElse fun _ => other.run c)
    ((parser'.run c').orElse fun _ => other'.run c')
  have hfirst := h c c' hlike hroom hload
  have hsecond := h' c c' hlike hroom hload
  generalize parser.run c = x at hfirst ⊢
  generalize parser'.run c' = x' at hfirst ⊢
  cases hfirst with
  | none => exact hsecond
  | some a halong => exact .some a halong

/-- An expression carries over, and the tail is not reached behind it, as the line is still to end.
-/
theorem carries_nested (h : NestedAgree l nested nested') (kind : Category) :
    Carries l tail tail' 1 1 r Eq (nested kind) (nested' kind) :=
  .of_agree [] [] fun r' _ => h.agree kind r' []

/-- What a compound statement asks of its bodies, and of what follows it. -/
structure Bodies (l : Nat) (tail tail' : List Token) (r : Nat) (suite suite' : TokenParser Unit) :
    Prop where
  ne_nil : tail' ≠ []
  fresh : ∀ kind ∈ continuations, nextKind tail' ≠ kind
  suite : Carries l tail tail' 1 0 r Eq suite suite'

/-- What is asked for many characters is asked for fewer. -/
theorem Bodies.mono (h : Bodies l tail tail' r suite suite') (hr : r' ≤ r) :
    Bodies l tail tail' r' suite suite' := ⟨h.ne_nil, h.fresh, h.suite.mono hr⟩

/-- In particular behind a token that has been taken. -/
theorem Bodies.less (h : Bodies l tail tail' r suite suite') :
    Bodies l tail tail' (r - 1) suite suite' := h.mono (Nat.sub_le r 1)

/-! ## Parts of compound statements -/

-- chains of parsers, as where they are shown to take tokens off the front
set_option synthInstance.maxSize 4096

variable [∀ kind, Advances (nested kind)] [Advances suite]

section

variable (hnested : NestedAgree l nested nested') (h : Bodies l tail tail' r suite suite')
include h

omit [∀ kind, Advances (nested kind)] in
/-- A body carries over with the colon in front. -/
theorem carries_body : Carries l tail tail' 1 0 r Eq (body suite) (body suite') :=
  .behind rfl rfl fun _ => h.less.suite

omit [∀ kind, Advances (nested kind)] in
/-- A further part of the statement, behind its first word. -/
theorem carries_part {word : String} (hword : .keyword word ∈ continuations) :
    Carries l tail tail' 0 0 r Eq
      (foundKeyword word >>= fun isNext => if isNext = true then body suite else pure ())
      (foundKeyword word >>= fun isNext => if isNext = true then body suite' else pure ()) :=
  .whenFound (fun _ => h.fresh _ hword) rfl rfl (fun _ => carries_body h.less)
    (.pure rfl (Nat.le_refl 0))

omit [∀ kind, Advances (nested kind)] in
/-- So does an alternative body. Where the first list has none, the second has none either, as its
tail does not begin with that word. -/
theorem carries_elseBody : Carries l tail tail' 0 0 r Eq (elseBody suite) (elseBody suite') :=
  carries_part h (by decide)

include hnested

/-- The branches of a conditional statement carry over, by induction on the fuel. The second list
needs more fuel than the first one has characters. -/
theorem carries_branches {fuel fuel' : Nat} (hfuel : r < fuel') :
    Carries l tail tail' 1 0 r Eq (branches nested suite fuel) (branches nested' suite' fuel') := by
  induction fuel generalizing r fuel' with
  | zero => exact .failure
  | succ fuel ih =>
    cases fuel' with
    | zero => omega
    | succ fuel' =>
      unfold branches
      refine (carries_body h).bind fun _ _ _ => ?_
      refine .whenFound (fun _ => h.fresh _ (by decide)) rfl rfl (fun hr => ?_) (carries_elseBody h)
      exact (carries_nested hnested _).bind fun _ _ _ => ih h.less (by omega)

/-- A loop over values carries over behind its first word. -/
theorem carries_forLoop :
    Carries l tail tail' 1 0 r Eq (forLoop nested suite) (forLoop nested' suite') := by
  unfold forLoop
  refine (Carries.of_agree [] [] fun r' _ => agree_loopTargets hnested).bind fun _ _ _ => ?_
  refine .behind rfl rfl fun _ => (carries_nested hnested _).bind fun _ _ _ => ?_
  exact (carries_body h.less).bind fun _ _ _ => carries_elseBody h.less

omit [∀ kind, Advances (nested kind)] in
/-- So does a statement in a context. Its contexts are in one line, where parsers agree. -/
theorem carries_contextStatement :
    Carries l tail tail' 1 0 r Eq (contextStatement nested suite)
      (contextStatement nested' suite') := by
  unfold contextStatement
  dsimp only
  refine (Carries.of_agree [] [] fun r' _ => Agree.orElse ?_ ?_).bind
    fun _ _ _ => h.suite
  · refine (Agree.expect rfl).bind fun _ => .items (agree_contextItem hnested) fun _ => ?_
    exact (Agree.expect rfl).bind fun _ => .expect rfl
  · exact agree_list (agree_contextItem hnested) fun _ => .expect rfl

/-- Handlers carry over, by induction on the fuel. Whether they are for groups has been settled at
the first one. -/
theorem carries_handlers (groups : Bool) {fuel fuel' : Nat} (hfuel : r < fuel') :
    Carries l tail tail' 0 0 r Eq (handlers nested suite groups fuel)
      (handlers nested' suite' groups fuel') := by
  induction fuel generalizing r fuel' with
  | zero => exact .failure
  | succ fuel ih =>
    cases fuel' with
    | zero => omega
    | succ fuel' =>
      unfold handlers
      dsimp only
      -- no handler need follow; then the tail may be next, and does not begin with one
      refine .whenFound (fun _ => h.fresh _ (by decide)) rfl rfl (fun hr => ?_)
        (.pure rfl (Nat.le_refl 0))
      have hmore : ∀ r' ≤ r - 1, Carries l tail tail' 1 0 r' Eq
          (body suite >>= fun _ => handlers nested suite groups fuel)
          (body suite' >>= fun _ => handlers nested' suite' groups fuel') := fun r' hr' =>
        (carries_body (h.mono (by omega))).bind fun _ _ _ => ih (h.mono (by omega)) (by omega)
      have hrest : ∀ r' ≤ r - 1, Carries l tail tail' 1 0 r' Eq
          (peek >>= fun next => if (groups || decide (next ≠ .operator ":")) = true then
            nested .expression >>= fun _ => aliasName >>= fun _ => body suite >>= fun _ =>
              handlers nested suite groups fuel
            else body suite >>= fun _ => handlers nested suite groups fuel)
          (peek >>= fun next => if (groups || decide (next ≠ .operator ":")) = true then
            nested' .expression >>= fun _ => aliasName >>= fun _ => body suite' >>= fun _ =>
              handlers nested' suite' groups fuel'
            else body suite' >>= fun _ => handlers nested' suite' groups fuel') := by
        intro r' hr'
        refine .peek Nat.one_pos fun next =>
          (Carries.ite (fun _ => ?_) fun _ => hmore r' hr').atNext next
        refine (carries_nested hnested _).bind fun _ _ _ => ?_
        exact (Carries.of_agree [] [] fun r' _ => agree_aliasName).bind fun _ _ _ => hmore r' hr'
      exact .ite (fun _ => .behind rfl rfl fun _ => hrest _ (Nat.sub_le _ 1))
        fun _ => hrest _ (Nat.le_refl _)

omit hnested h in
/-- Where there is a handler, it is taken. -/
theorem lt_of_run_handlers {groups : Bool} {fuel : Nat} {c d : Cursor} {result : Unit}
    (hnext : c.next = .keyword "except")
    (hrun : (handlers nested suite groups fuel).run c = some (result, d)) :
    bulk d.rest < bulk c.rest := by
  cases fuel with
  | zero => cases hrun
  | succ fuel =>
    unfold handlers at hrun
    obtain ⟨isNext, e, hfound, hrest⟩ := run_bind_eq_some.mp hrun
    rcases found_eq_some hfound with ⟨rfl, token, rest, hc, hkind, rfl⟩ | ⟨-, hne, -⟩
    · rw [if_pos rfl] at hrest
      have hle : bulk d.rest ≤ bulk rest := (Advances.reaches hrest).bulk_le
      rw [hc, bulk_cons, hkind, Nat.add_comm]
      exact Nat.lt_succ_of_le hle
    · exact absurd hnext hne

/-- A guarded statement carries over behind its first word: with a last part only, or with handlers
and what may follow them. There is a handler then, so the tail is not reached at once. -/
theorem carries_guardedStatement :
    Carries l tail tail' 1 0 r Eq (guardedStatement nested suite)
      (guardedStatement nested' suite') := by
  unfold guardedStatement
  refine (carries_body h).bind fun _ _ _ => ?_
  refine .whenFound (fun _ => h.fresh _ (by decide)) rfl rfl (fun _ => carries_body h.less) ?_
  refine .of_consumes (.peek Nat.one_pos fun next => .ite (fun hnext => ?_)
    fun _ => Carries.failure.atNext next) ?_
  · subst hnext
    refine .peekSecond Nat.one_pos rfl fun second => (Carries.atNext ?_ _).pair second
    refine .remaining h.ne_nil fun r' hr m m' hm => ?_
    have hless := h.mono hr
    refine ((carries_handlers hnested hless _ hm).of_low (Nat.zero_le 1)).bind fun _ _ _ => ?_
    exact (carries_elseBody hless).bind fun _ _ _ => carries_part hless (by decide)
  · intro c result d hrun
    rw [run_bind_of (run_peek c)] at hrun
    split at hrun
    next hnext =>
      rw [run_bind_of (run_peekSecond c), run_bind_of (run_remaining c)] at hrun
      obtain ⟨_, e, hhandlers, hrest⟩ := run_bind_eq_some.mp hrun
      exact (Advances.reaches hrest).bulk_le.trans_lt (lt_of_run_handlers hnext hhandlers)
    next => cases hrun

/-- A function carries over behind its first word. -/
theorem carries_functionDefinition :
    Carries l tail tail' 1 0 r Eq (functionDefinition nested suite)
      (functionDefinition nested' suite') := by
  unfold functionDefinition
  refine (Carries.of_agree [] [] fun r' _ => agree_rawName).bind fun _ _ _ => ?_
  refine .behind rfl rfl fun _ => ?_
  refine (Carries.of_agree [")"] [")"] fun r' _ => agree_parameters hnested _ _).bind
    fun _ _ _ => ?_
  refine .behind rfl rfl fun _ => .whenFound (absurd · Nat.one_ne_zero) rfl rfl (fun _ => ?_)
    (carries_body h.less.less)
  exact (carries_nested hnested _).bind fun _ _ _ => carries_body h.less.less.less

/-- So does a class, with its bases in parentheses or without them. -/
theorem carries_classDefinition :
    Carries l tail tail' 1 0 r Eq (classDefinition nested suite)
      (classDefinition nested' suite') := by
  unfold classDefinition
  refine (Carries.of_agree [] [] fun r' _ => agree_rawName).bind fun _ _ _ => ?_
  refine .whenFound (absurd · Nat.one_ne_zero) rfl rfl (fun _ => ?_) (carries_body h)
  rw [← bind_assoc, ← bind_assoc]
  refine (Carries.of_agree [")"] [] fun r' _ => ?_).bind fun _ _ _ => carries_body h.less
  exact .remaining fun _ _ _ _ hm hm' => agree_argumentsFrom hnested hm hm' _

/-- So does a definition without decorators. -/
theorem carries_definition :
    Carries l tail tail' 1 0 r Eq (definition nested suite) (definition nested' suite') := by
  unfold definition
  refine .whenFound (absurd · Nat.one_ne_zero) rfl rfl
    (fun _ => carries_functionDefinition hnested h.less)
    (.whenFound (absurd · Nat.one_ne_zero) rfl rfl
      (fun _ => carries_classDefinition hnested h.less) ?_)
  exact .behind rfl rfl fun _ => .behind rfl rfl fun _ =>
    carries_functionDefinition hnested h.less.less

omit [Advances suite] in
/-- Decorators, and what comes behind them. -/
theorem carries_decorators {same : α → α → Prop} {f f' : Unit → TokenParser α}
    [Advances (f ())] {fuel fuel' : Nat} (hfuel : r < fuel')
    (hf : ∀ r' ≤ r, Carries l tail tail' 1 0 r' same (f ()) (f' ())) (hconsumes : Consumes (f ())) :
    Carries l tail tail' 1 0 r same (decorators nested fuel >>= f)
      (decorators nested' fuel' >>= f') := by
  have hunfold : ∀ (nested : Nested) (fuel : Nat) (g : Unit → TokenParser α),
      decorators nested (fuel + 1) >>= g
        = foundOperator "@" >>= fun isNext => if isNext = true then
            nested .named >>= fun _ => expect .newline >>= fun _ => decorators nested fuel >>= g
          else g () := by
    intro nested fuel g
    rw [decorators, bind_assoc]
    congr 1
    funext isNext
    cases isNext with
    | true => simp only [if_true, bind_assoc]
    | false => rfl
  induction fuel generalizing r fuel' with
  | zero => exact .failing
  | succ fuel ih =>
    cases fuel' with
    | zero => omega
    | succ fuel' =>
      rw [hunfold, hunfold]
      refine .whenFound (absurd · Nat.one_ne_zero) rfl rfl (fun hr => ?_) (hf r (Nat.le_refl r))
      refine (carries_nested hnested _).bind fun _ _ _ => .behind rfl rfl fun _ =>
        .of_consumes ?_ ?_
      · exact ih (h.mono (by omega)) (by omega) fun r' hr' => hf r' (by omega)
      · exact .second fun _ => hconsumes

/-- A definition with decorators carries over. What is found is not the same, as it is in another
place. -/
theorem carries_decoratedDefinition :
    Carries l tail tail' 1 0 r (fun _ _ => True) (decoratedDefinition nested suite)
      (decoratedDefinition nested' suite') := by
  unfold decoratedDefinition
  dsimp only
  refine .behind rfl rfl fun _ => .get fun cursor cursor' => ?_
  refine (carries_nested hnested _).bind fun _ _ _ => .behind rfl rfl fun _ => ?_
  have hdefinition : ∀ r' ≤ r - 1 - 1, ∀ decorator decorator' : Option Position,
      Carries l tail tail' 1 0 r' (fun _ _ => True)
        (start >>= fun position => definition nested suite >>= fun _ => get >>= fun cursor =>
          pure (⟨none, position, cursor.stop, decorator⟩ : ParsedStatement))
        (start >>= fun position => definition nested' suite' >>= fun _ => get >>= fun cursor =>
          pure (⟨none, position, cursor.stop, decorator'⟩ : ParsedStatement)) := by
    intro r' hr' _ _
    refine .start h.ne_nil fun _ _ => (carries_definition hnested (h.mono (by omega))).bind
      fun _ _ _ => .get fun _ _ => .pure trivial (Nat.le_refl 0)
  have hconsumes : ∀ decorator : Option Position, Consumes
      (start >>= fun position => definition nested suite >>= fun _ => get >>= fun cursor =>
        pure (⟨none, position, cursor.stop, decorator⟩ : ParsedStatement)) :=
    fun _ => .second fun _ => (show Consumes (definition nested suite) from .of_opens).first
  refine .of_consumes ?_ (.second fun _ => .second fun _ => hconsumes _)
  refine .remaining h.ne_nil fun r' hr m m' hm => ?_
  exact carries_decorators hnested (h.mono (by omega)) hm
    (fun r'' hr'' => hdefinition r'' (by omega) _ _) (hconsumes _)

/-! ### Branching statements -/

omit hnested h in
/-- There is at least one case, and it begins with a name. -/
theorem consumes_cases (patterns fuel : Nat) :
    Consumes (Grammar.cases nested patterns suite fuel) := by
  cases fuel with
  | zero => exact .failure
  | succ fuel =>
    have hopens : Opens (Grammar.cases nested patterns suite (fuel + 1)) :=
      Opens.of_peek fun kind _ _ _ hnext hrun => by
        split at hrun
        · cases hrun
        · rename_i hname
          obtain rfl : kind = .name "case".toList := Decidable.of_not_not hname
          exact Opens.enters_advance (hnext ▸ rfl) hrun
    exact .of_opens

/-- The cases of a branching statement carry over, by induction on the fuel. Patterns are nested no
deeper than there are characters. -/
theorem carries_cases {patterns patterns' fuel fuel' : Nat} (hpatterns : r ≤ patterns)
    (hpatterns' : r ≤ patterns') (hfuel : r < fuel') :
    Carries l tail tail' 1 0 r Eq (Grammar.cases nested patterns suite fuel)
      (Grammar.cases nested' patterns' suite' fuel') := by
  induction fuel generalizing r fuel' with
  | zero => exact .failure
  | succ fuel ih =>
    cases fuel' with
    | zero => omega
    | succ fuel' =>
      unfold Grammar.cases
      have hbody : 0 < r → ∀ r' ≤ r - 1, Carries l tail tail' 1 0 r' Eq
          (body suite >>= fun _ => found .dedent >>= fun isNext =>
            if isNext = true then pure () else Grammar.cases nested patterns suite fuel)
          (body suite' >>= fun _ => found .dedent >>= fun isNext =>
            if isNext = true then pure () else Grammar.cases nested' patterns' suite' fuel') := by
        intro hr r' hr'
        refine (carries_body (h.mono (by omega))).bind fun _ _ _ => ?_
        -- behind the last case the block ends, with a mark that has no character
        refine .whenSized (fun _ => h.fresh _ (by decide)) rfl rfl
          (fun _ => .pure rfl (Nat.le_refl 0)) ?_
        exact .of_consumes (ih (h.mono (by omega)) (by omega) (by omega) (by omega))
          (consumes_cases patterns fuel)
      refine .peek Nat.one_pos fun kind => .ite (fun _ => Carries.failing.atNext _) fun hkind => ?_
      obtain rfl : kind = .name "case".toList := Decidable.not_not.mp hkind
      refine .advance Nat.one_pos rfl rfl fun hr => ?_
      refine (Carries.of_agree [] [] fun r' hr' => agree_openSequence
        (agree_patternAt hnested (.inr ⟨by omega, by omega⟩))).bind fun _ _ _ => ?_
      refine .whenFound (absurd · Nat.one_ne_zero) rfl rfl (fun _ => ?_)
        (hbody hr _ (Nat.le_refl _))
      exact (carries_nested hnested _).bind fun _ _ _ => hbody hr _ (Nat.sub_le _ 1)

omit h [∀ kind, Advances (nested kind)] [Advances suite] in
/-- The head of a branching statement carries over: its subject is in one line, and the end of that
line is taken too. -/
theorem carries_branchingHead :
    Carries l tail tail' 1 0 r Eq (branchingHead nested) (branchingHead nested') := by
  rw [branchingHead_eq, branchingHead_eq]
  exact (Carries.of_agree [] [] fun r' _ => agree_branchingSubject hnested).bind
    fun _ _ _ => .expect rfl

omit h [∀ kind, Advances (nested kind)] [Advances suite] in
/-- Where a line is no head of a branching statement, the other one is none. -/
theorem run_branchingHead_eq_none {c c' : Cursor} (hlike : Like c.rest c'.rest)
    (hload : load c.rest ≤ l)
    (hnone : (branchingHead nested).run c = none) : (branchingHead nested').run c' = none := by
  have hsame := agree_branchingSubject hnested c c' hlike (Nat.le_refl _) hload
  rw [branchingHead_eq] at hnone ⊢
  cases hsubject : (branchingSubject nested).run c with
  | none =>
    rw [hsubject] at hsame
    generalize hsubject' : (branchingSubject nested').run c' = result at hsame
    cases hsame with
    | none => exact run_bind_eq_none hsubject' _
  | some result =>
    rw [hsubject] at hsame
    generalize hsubject' : (branchingSubject nested').run c' = result' at hsame
    cases hsame with
    | some a halong =>
      rename_i d d'
      rw [run_bind_of hsubject] at hnone
      rw [run_bind_of hsubject']
      have hne : d.next ≠ .newline := by
        intro hnext
        obtain ⟨token, rest, hd, hkind⟩ := Cursor.eq_of_next (c := d) (hnext ▸ nofun)
        rw [hd, ← hnext, ← hkind, run_expect] at hnone
        cases hnone
      rw [(halong.like hlike).next_eq] at hne
      unfold expect
      rw [run_bind_of (run_found_of_ne hne)]
      rfl

/-- A compound statement that begins with a name. -/
theorem carries_branchingStatement {patterns patterns' : Nat} (hpatterns : r ≤ patterns)
    (hpatterns' : r ≤ patterns') :
    Carries l tail tail' 1 0 r Eq
      (get >>= fun cursor => match (branchingHead nested).run cursor with
        | some (_, after) => set after >>= fun _ => expect .indent >>= fun _ =>
            remaining >>= fun fuel => Grammar.cases nested patterns suite fuel >>= fun _ =>
              pure true
        | none => pure false)
      (get >>= fun cursor => match (branchingHead nested').run cursor with
        | some (_, after) => set after >>= fun _ => expect .indent >>= fun _ =>
            remaining >>= fun fuel => Grammar.cases nested' patterns' suite' fuel >>= fun _ =>
              pure true
        | none => pure false) := by
  intro n c c' found d hlow hn hbeside hrun htail
  rw [run_bind_of (run_get c)] at hrun
  rw [run_bind_of (run_get c')]
  -- the head is tried apart, in both lists, so what it finds in one of them it finds in the other
  cases hhead : (branchingHead nested).run c with
  | none =>
    obtain ⟨m, rfl⟩ : ∃ m, n = m + 1 := ⟨n - 1, by omega⟩
    rw [run_branchingHead_eq_none hnested hbeside.like hbeside.load_le hhead]
    rw [hhead] at hrun
    obtain ⟨rfl, rfl⟩ := Prod.mk.inj (Option.some.inj hrun)
    exact ⟨_, c', m + 1, rfl, rfl, Nat.zero_le _, Nat.le_refl _, hbeside⟩
  | some result =>
    obtain ⟨_, after⟩ := result
    rw [hhead] at hrun
    have hrun : (expect .indent >>= fun _ => remaining >>= fun fuel =>
      Grammar.cases nested patterns suite fuel >>= fun _ => pure true).run after
        = some (found, d) := hrun
    have hsuffix : tail <:+ after.rest := htail.trans (Advances.reaches hrun).suffix
    obtain ⟨_, after', m, hhead', -, -, hm, hbehind⟩ :=
      carries_branchingHead hnested n c c' _ after hlow hn hbeside hhead hsuffix
    rw [hhead']
    have hcases : Carries l tail tail' 0 0 r Eq
        (expect .indent >>= fun _ => remaining >>= fun fuel =>
          Grammar.cases nested patterns suite fuel >>= fun _ => pure true)
        (expect .indent >>= fun _ => remaining >>= fun fuel =>
          Grammar.cases nested' patterns' suite' fuel >>= fun _ => pure true) := by
      refine .behindSized rfl rfl fun _ =>
        .of_consumes ?_ (.second fun _ => (consumes_cases _ _).first)
      refine .remaining h.ne_nil fun r' (hr' : r' ≤ r) _ _ hless => ?_
      exact (carries_cases hnested (h.mono (by omega)) (by omega) (by omega) hless).bind
        fun _ _ _ => .pure rfl (Nat.le_refl 0)
    obtain ⟨b', e', k, hrun', hsame, hhigh, hk, hrest⟩ :=
      hcases m after after' found d (Nat.zero_le m) (hm.trans hn) hbehind hrun htail
    exact ⟨b', e', k, hrun', hsame, hhigh, hk.trans hm, hrest⟩

/-- **A compound statement of any kind carries over**, and where the first list has none, the second
has none. -/
theorem carries_compoundStatement {patterns patterns' : Nat} (hpatterns : r ≤ patterns)
    (hpatterns' : r ≤ patterns') :
    Carries l tail tail' 1 0 r Eq (compoundStatement nested patterns suite)
      (compoundStatement nested' patterns' suite') := by
  unfold compoundStatement
  have hfor : ∀ r' ≤ r, Carries l tail tail' 1 0 r' Eq
      (forLoop nested suite >>= fun _ => pure true)
      (forLoop nested' suite' >>= fun _ => pure true) := fun r' hr =>
    (carries_forLoop hnested (h.mono hr)).bind fun _ _ _ => .pure rfl (Nat.le_refl 0)
  have hwith : ∀ r' ≤ r, Carries l tail tail' 1 0 r' Eq
      (contextStatement nested suite >>= fun _ => pure true)
      (contextStatement nested' suite' >>= fun _ => pure true) := fun r' hr =>
    (carries_contextStatement hnested (h.mono hr)).bind fun _ _ _ => .pure rfl (Nat.le_refl 0)
  have hdefinition : Carries l tail tail' 1 0 r Eq
      (definition nested suite >>= fun _ => pure true)
      (definition nested' suite' >>= fun _ => pure true) :=
    (carries_definition hnested h).bind fun _ _ _ => .pure rfl (Nat.le_refl 0)
  refine .peek Nat.one_pos fun kind => ?_
  split
  next =>
    refine .advance Nat.one_pos rfl rfl fun _ => (carries_nested hnested _).bind fun _ _ _ => ?_
    refine .remaining h.ne_nil fun r' hr' _ _ hless => ?_
    exact (carries_branches hnested (h.mono (by omega)) hless).bind
      fun _ _ _ => .pure rfl (Nat.le_refl 0)
  next =>
    refine .advance Nat.one_pos rfl rfl fun _ => (carries_nested hnested _).bind fun _ _ _ => ?_
    exact (carries_body h.less).bind fun _ _ _ => (carries_elseBody h.less).bind
      fun _ _ _ => .pure rfl (Nat.le_refl 0)
  next => exact .advance Nat.one_pos rfl rfl fun _ => hfor _ (Nat.sub_le r 1)
  next => exact .advance Nat.one_pos rfl rfl fun _ => hwith _ (Nat.sub_le r 1)
  next =>
    refine .advance Nat.one_pos rfl rfl fun _ => (carries_guardedStatement hnested h.less).bind
      fun _ _ _ => .pure rfl (Nat.le_refl 0)
  next => exact hdefinition.atNext _
  next => exact hdefinition.atNext _
  next =>
    refine .peekSecond Nat.one_pos rfl fun second => ?_
    split
    next =>
      exact .advance Nat.one_pos rfl rfl fun _ =>
        .advance Nat.one_pos rfl rfl fun _ => hfor _ (by omega)
    next =>
      exact .advance Nat.one_pos rfl rfl fun _ =>
        .advance Nat.one_pos rfl rfl fun _ => hwith _ (by omega)
    next => exact (hdefinition.atNext _).pair _
  next raw => exact (carries_branchingStatement hnested h hpatterns hpatterns').atNext _
  next => exact (Carries.pure (a := false) rfl (Nat.zero_le 1)).atNext _

/-! ### Lines -/

variable [∀ kind, Opens (nested kind)]

omit hnested h [Advances suite] in
/-- A line of simple statements is not empty. -/
theorem consumes_simpleLine (fuel : Nat) : Consumes (simpleLine nested fuel) := by
  cases fuel with
  | zero => exact .failure
  | succ fuel =>
    unfold simpleLine
    exact .second fun _ => (show Consumes (simpleStatement nested) from .of_opens).first

omit h [Advances suite] in
/-- It carries over, by induction on the fuel: every semicolon is a character. -/
theorem carries_simpleLine (hne : tail' ≠ []) {fuel fuel' : Nat} (hfuel : r < fuel') :
    Carries l tail tail' 1 0 r (fun _ _ => True) (simpleLine nested fuel)
      (simpleLine nested' fuel') := by
  induction fuel generalizing r fuel' with
  | zero => exact .failure
  | succ fuel ih =>
    cases fuel' with
    | zero => omega
    | succ fuel' =>
      unfold simpleLine
      refine .start hne fun _ _ => ?_
      refine (Carries.of_agree [] [] fun r' _ => agree_simpleStatement hnested).bind fun _ _ _ => ?_
      refine .get fun cursor cursor' =>
        .whenFound (absurd · Nat.one_ne_zero) rfl rfl (fun hr => ?_) ?_
      · refine .of_consumes (.whenFound (absurd · Nat.one_ne_zero) rfl rfl
          (fun _ => .pure trivial (Nat.le_refl 0)) ?_)
          (.whenFound rfl (consumes_simpleLine fuel).first)
        exact (ih (by omega)).bind fun _ _ _ => .pure trivial (Nat.le_refl 0)
      · exact .behind rfl rfl fun _ => .pure trivial (Nat.le_refl 0)

omit hnested h in
/-- No line of statements is empty. -/
theorem consumes_statementLine (patterns : Nat) :
    Consumes (statementLine nested patterns suite) := by
  unfold statementLine
  refine .second fun position => ?_
  intro c statements d hrun
  rw [run_bind_of (run_peek c)] at hrun
  split at hrun
  · have hdecorated : Consumes (decoratedDefinition nested suite) := (Consumes.expect rfl).first
    exact hdecorated.first c statements d hrun
  · obtain ⟨isFound, e, hcompound, hrest⟩ := run_bind_eq_some.mp hrun
    cases isFound with
    | true =>
      obtain ⟨token, taken, hc, hbegins, -⟩ := Opens.enters_compoundStatement hcompound
      have hle := (Advances.reaches hrest).bulk_le
      rw [hc, bulk_cons, bulk_append, Token.Kind.size_of_begins hbegins]
      omega
    | false =>
      have hline : Consumes (remaining >>= simpleLine nested) := .second consumes_simpleLine
      exact (hline e statements d hrest).trans_le (Advances.reaches hcompound).bulk_le

/-- **The statements of a line, or a compound statement.** -/
theorem carries_statementLine {patterns patterns' : Nat} (hpatterns : r ≤ patterns)
    (hpatterns' : r ≤ patterns') :
    Carries l tail tail' 1 0 r (fun _ _ => True) (statementLine nested patterns suite)
      (statementLine nested' patterns' suite') := by
  unfold statementLine
  refine .start h.ne_nil fun _ _ => .peek Nat.one_pos fun kind =>
    (Carries.ite (fun _ => ?_) fun _ => ?_).atNext kind
  · exact (carries_decoratedDefinition hnested h).bind fun _ _ _ => .pure trivial (Nat.le_refl 0)
  · refine (carries_compoundStatement hnested h hpatterns hpatterns').bind
      fun found found' hfound => ?_
    subst hfound
    refine .ite (fun _ => .get fun _ _ => .pure trivial (Nat.le_refl 0)) fun _ => ?_
    refine .of_consumes (.remaining h.ne_nil fun r' hr' _ _ hless => ?_)
      (.second fun fuel => consumes_simpleLine fuel)
    exact carries_simpleLine hnested h.ne_nil hless

omit hnested [∀ kind, Advances (nested kind)] [Advances suite] [∀ kind, Opens (nested kind)] in
/-- The lines of a block. -/
theorem carries_statementsUpTo {line line' : TokenParser (List ParsedStatement)} [Advances line]
    (hline : ∀ r' ≤ r, Carries l tail tail' 1 0 r' (fun _ _ => True) line line')
    (hconsumes : Consumes line) {fuel fuel' : Nat} (hfuel : r < fuel') :
    Carries l tail tail' 0 0 r (fun _ _ => True) (statementsUpTo .dedent line fuel)
      (statementsUpTo .dedent line' fuel') := by
  induction fuel generalizing r fuel' with
  | zero => exact .failure
  | succ fuel ih =>
    cases fuel' with
    | zero => omega
    | succ fuel' =>
      unfold statementsUpTo
      refine .whenSized (fun _ => h.fresh _ (by decide)) rfl rfl
        (fun _ => .pure trivial (Nat.le_refl 0)) (.of_consumes ?_ hconsumes.first)
      refine (hline r (Nat.le_refl r)).bindLess hconsumes fun hr _ _ _ => ?_
      have hless : ∀ r' ≤ r - 1, Carries l tail tail' 1 0 r' (fun _ _ => True) line line' :=
        fun r' hr' => hline r' (by omega)
      exact (ih h.less hless (by omega)).bind fun _ _ _ => .pure trivial (Nat.le_refl 0)

end

/-- No body is empty. -/
theorem consumes_suiteAt [∀ kind, Opens (nested kind)] (depth : Nat) :
    Consumes (suiteAt nested depth) := by
  cases depth with
  | zero => exact .failure
  | succ depth =>
    unfold suiteAt
    exact .whenFound rfl (.second fun fuel => (consumes_simpleLine fuel).first)

/-- **The body of a compound statement.** In a body that is nested in another there are fewer
characters, so the depth does not matter as long as there are no more of them. -/
theorem carries_suiteAt [∀ kind, Opens (nested kind)] (hnested : NestedAgree l nested nested')
    (hne : tail' ≠ []) (hfresh : ∀ kind ∈ continuations, nextKind tail' ≠ kind)
    {depth depth' : Nat} (hdepth : r ≤ depth) (hdepth' : r ≤ depth') :
    Carries l tail tail' 1 0 r Eq (suiteAt nested depth) (suiteAt nested' depth') := by
  induction depth generalizing r depth' with
  | zero => exact .failure
  | succ depth ih =>
    cases depth' with
    | zero =>
      -- no character is left for a body
      obtain rfl := Nat.le_zero.mp hdepth'
      exact .of_spent (consumes_suiteAt (depth + 1))
    | succ depth' =>
      unfold suiteAt
      have hbodies : Bodies l tail tail' (r - 1) (suiteAt nested depth) (suiteAt nested' depth') :=
        ⟨hne, hfresh, ih (by omega) (by omega)⟩
      have hline : ∀ r' ≤ r - 1, Carries l tail tail' 1 0 r' (fun _ _ => True)
          (statementLine nested depth (suiteAt nested depth))
          (statementLine nested' depth' (suiteAt nested' depth')) := fun r' hr =>
        carries_statementLine hnested (hbodies.mono hr) (by omega) (by omega)
      refine .whenFound (absurd · Nat.one_ne_zero) rfl rfl
        (fun _ => .behindSized rfl rfl fun _ => ?_) ?_
      · refine .of_consumes ?_ (consumes_statementLine depth).first
        refine (hline _ (Nat.le_refl (r - 1))).bind fun _ _ _ => ?_
        refine .remaining hne fun r' (hr' : r' ≤ r - 1) _ _ hless => ?_
        exact (carries_statementsUpTo (hbodies.mono hr') (fun _ hle => hline _ (hle.trans hr'))
          (consumes_statementLine depth) hless).bind fun _ _ _ => .pure rfl (Nat.le_refl 0)
      · refine .remaining hne fun r' _ _ _ hless => ?_
        exact (carries_simpleLine hnested hne hless).bind fun _ _ _ => .pure rfl (Nat.le_refl 0)

end ExpectFile.Grammar
