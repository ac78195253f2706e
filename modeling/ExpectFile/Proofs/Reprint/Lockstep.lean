import ExpectFile.Proofs.Grammar.Outline
import ExpectFile.Proofs.Grammar.Carrying
import ExpectFile.Proofs.Reprint.Calls

/-!
# The tokens of a reprint

A reprint has the tokens of the text that is printed, but for the marked statements: the tokens of a
printed call stand in the place of such a statement, or none at all. `Reprints` relates the two
lists. The reprint may be a program of its own, with an outline of its own, and then the two
outlines are gone through in lockstep. What a token begins is told by tokens that are alike, so the
reprint marks the calls that were printed and no other statement.

* **`Together.after`** — the step of the invariant: the stages of the two outlines stay together.
* **`run_callTokens`** — the tokens of a printed call are a simple statement.
* **`Reprints.not_compound`**, **`Reprints.not_simple`** — neither outline takes for a part of a
  compound statement what the other takes for a simple one.
* **`Reprints.of_keep`** — one step: a token that is kept is kept by both outlines.
* **`Reprints.isPrinted_and_endLines`** — the marked statements of a reprint are the calls that were
  printed, and a statement that was not ends its line.
-/

namespace ExpectFile.Grammar

open TokenParser Reprint

/-! ## Tokens of a reprint -/

/-- What a marked statement is printed as: a name to call and a text, or nothing. -/
abbrev Printing := ParsedStatement → Option (String × String)

/-- The tokens of a printed call. -/
def callTokens (name text : String) (p q r s t : Position) : List Token :=
  [⟨.name name.toList, p, q⟩, ⟨.operator "(", q, r⟩,
    ⟨.literal ⟨[], Reprint.body text.toList⟩, r, s⟩,
    ⟨.operator ")", s, t⟩]

/-- **The tokens of a reprint**, next to the items of the text that is printed: tokens that are
kept, calls in the places of marked statements, or nothing there, perhaps with the end of the line
gone as well. `placed` says where a call can stand. -/
inductive Reprints (printing : Printing) (placed : Position → String → String → Prop) :
    List Item → List Token → Prop where
  | nil : Reprints printing placed [] []
  | keep {token token' : Token} {items : List Item} {ts : List Token}
      (hkind : token.kind = token'.kind) (h : Reprints printing placed items ts) :
      Reprints printing placed (.keep token :: items) (token' :: ts)
  | call {tokens : List Token} {statement : ParsedStatement} {items : List Item} {ts : List Token}
      {name text : String} {p q r s : Position} (hprinted : printing statement = some (name, text))
      (hplaced : placed p name text) (h : Reprints printing placed items ts) :
      Reprints printing placed (.mark tokens statement :: items)
        (callTokens name text p q r s (p.afterText (call name text)) ++ ts)
  | drop {tokens : List Token} {statement : ParsedStatement} {items : List Item} {ts : List Token}
      (hprinted : printing statement = none) (h : Reprints printing placed items ts) :
      Reprints printing placed (.mark tokens statement :: items) ts
  | dropLine {tokens : List Token} {statement : ParsedStatement} {feed : Token} {items : List Item}
      {ts : List Token} (hprinted : printing statement = none) (hfeed : feed.kind = .newline)
      (h : Reprints printing placed items ts) :
      Reprints printing placed (.mark tokens statement :: .keep feed :: items) ts

/-- Every statement that is not printed is the last of its line. -/
def EndLines (printing : Printing) : List Item → Prop
  | [] => True
  | .keep _ :: items => EndLines printing items
  | .mark _ statement :: items =>
    (printing statement = none → nextKind (flat items) = .newline) ∧ EndLines printing items

variable {marks : Option Expr → Bool} {nested nested' : Nested} {σ τ : Stage}
  {items items' : List Item} {ts : List Token} {due : List String} {printing : Printing}
  {placed : Position → String → String → Prop}

/-! ## Ends of lines -/

/-- A stage outside of compound statements, or in front of one. -/
def Stage.isSimple : Stage → Bool
  | .top | .next | .mid _ | .done => true
  | _ => false

theorem Stage.after_done {opened : Bool} {kind : Token.Kind}
    (h : Stage.done.after opened kind = some τ) :
    kind = .newline ∧ τ = .top ∨ kind = .operator ";" ∧ τ = .next := by
  change after.behind kind = some τ at h
  unfold after.behind at h
  split at h
  next heq => exact .inl ⟨heq, (Option.some.inj h).symm⟩
  split at h
  next heq => exact .inr ⟨heq, (Option.some.inj h).symm⟩
  exact absurd h nofun

theorem Stage.isSimple_after {opened : Bool} {kind : Token.Kind} (hσ : σ.isSimple = true)
    (hkind : kind.isInner = false) (h : σ.after opened kind = some τ) :
    kind = .newline ∧ τ = .top ∨ kind = .operator ";" ∧ τ = .next := by
  cases σ with
  | line | head => cases hσ
  | top => simp [after, hkind] at h
  | next =>
    simp only [after] at h
    split at h
    next heq => exact .inl ⟨heq, (Option.some.inj h).symm⟩
    next => cases h
  | mid due =>
    simp only [after, hkind, Bool.false_eq_true, if_false] at h
    split at h
    · have hdone : Stage.done.after opened kind = some τ := h
      exact after_done hdone
    · cases h
  | done => exact after_done h

/-- Behind the end of a line. -/
theorem Outline.of_feed {feed : Token} (h : Outline marks nested .done (.keep feed :: items))
    (hfeed : feed.kind = .newline) : Outline marks nested .top items := by
  cases h with
  | finish _ hσ => exact absurd hσ (by simp)
  | token hafter hrest =>
    rcases Stage.after_done hafter with ⟨-, rfl⟩ | ⟨heq, -⟩
    · exact hrest
    · cases hfeed.symm.trans heq
  | plain hready => cases hready

/-- The first token of a marked statement is part of it. -/
theorem exists_of_turns {tokens : List Token} {position : Position}
    (hturns : turns [] tokens = some []) (hstart : tokens.head?.map (·.start) = some position) :
    ∃ token rest due, tokens = token :: rest ∧ token.start = position
      ∧ token.kind.turn [] = some due ∧ turns due rest = some [] := by
  cases tokens with
  | nil => exact absurd hstart nofun
  | cons token rest =>
    obtain ⟨due, hturn, hrest⟩ := Option.bind_eq_some_iff.mp hturns
    exact ⟨token, rest, due, rfl, Option.some.inj hstart, hturn, hrest⟩

/-- Outside of compound statements no block begins. -/
theorem Reprints.not_indent (h : Reprints printing placed items ts) (hσ : σ.isSimple = true)
    (houtline : Outline marks nested σ items) :
    ts.head?.any (·.kind = .indent) = false := by
  induction h generalizing σ with
  | nil => rfl
  | @keep token token' items ts hkind _ _ =>
    simp only [List.head?_cons, Option.any_some, decide_eq_false_iff_not]
    rw [← hkind]
    intro hindent
    cases houtline with
    | finish _ _ hfinish => exact absurd (hfinish.symm.trans hindent) nofun
    | token hafter _ =>
      rw [hindent] at hafter
      rcases Stage.isSimple_after hσ rfl hafter with ⟨heq, -⟩ | ⟨heq, -⟩ <;> exact absurd heq nofun
    | plain _ _ _ hturn _ =>
      rw [hindent] at hturn
      exact absurd hturn nofun
  | call => rfl
  | drop _ _ ih =>
    cases houtline with
    | mark _ _ _ _ _ _ _ hrest => exact ih rfl hrest
  | dropLine _ hfeed _ ih =>
    cases houtline with
    | mark _ _ _ _ _ _ _ hrest =>
      cases hrest with
      | finish _ hdone => exact absurd hdone (by simp)
      | token hafter hmore =>
        rcases Stage.isSimple_after rfl (by rw [hfeed]; rfl) hafter with ⟨-, rfl⟩ | ⟨heq, -⟩
        · exact ih rfl hmore
        · exact absurd (hfeed.symm.trans heq) nofun
      | plain hready => exact absurd hready nofun

/-- Behind a simple statement no block begins. -/
theorem Reprints.not_opens (h : Reprints printing placed items ts)
    (houtline : Outline marks nested (.mid due) items) : opens ts = false := by
  induction h generalizing due with
  | nil => rfl
  | @keep token token' items ts hkind h ih =>
    rw [opens, ← hkind]
    cases houtline with
    | finish _ hσ => exact absurd hσ (by simp)
    | token hafter hrest =>
      cases hinner : token.kind.isInner with
      | true =>
        have hne : token.kind ≠ .newline := by
          intro heq
          rw [heq] at hinner
          cases hinner
        simp only [Stage.after, hinner, if_true, Option.map_eq_some_iff] at hafter
        obtain ⟨next, -, rfl⟩ := hafter
        rw [if_neg hne, ih hrest, Bool.and_false]
      | false =>
        rcases Stage.isSimple_after rfl hinner hafter with ⟨heq, rfl⟩ | ⟨heq, -⟩
        · rw [if_pos heq]
          exact h.not_indent rfl hrest
        · rw [if_neg (by simp [heq]), Bool.false_and]
    | plain hready => cases hready
  | call | drop | dropLine =>
    cases houtline with
    | mark hready => cases hready

/-- In the line that begins a compound statement nothing is changed. -/
theorem Reprints.opens_of_head (h : Reprints printing placed items ts)
    (houtline : Outline marks nested (.head 0) items) (hopens : opens (flat items) = true) :
    opens ts = true := by
  induction h with
  | nil => cases hopens
  | @keep token token' items ts hkind h ih =>
    rw [flat_keep, opens] at hopens
    rw [opens, ← hkind]
    cases houtline with
    | finish _ hσ => exact absurd hσ (by simp)
    | @token _ _ _ _ hafter hrest =>
      by_cases hfeed : token.kind = .newline
      · rw [if_pos hfeed] at hopens ⊢
        cases h with
        | nil => cases hopens
        | keep hkind' _ =>
          simp only [flat_keep, List.head?_cons, Option.any_some, decide_eq_true_eq] at hopens ⊢
          rw [← hkind', hopens]
        | call | drop | dropLine =>
          -- a marked statement does not begin with the mark of a block
          cases hrest with
          | mark _ _ _ hturns hstart =>
            obtain ⟨first, others, due, rfl, -, hturn, -⟩ := exists_of_turns hturns hstart
            simp only [flat_mark, List.cons_append, List.head?_cons, Option.any_some,
              decide_eq_true_eq] at hopens
            rw [hopens] at hturn
            cases hturn
      · rw [if_neg hfeed, Bool.and_eq_true] at hopens
        rw [Stage.after_head 0 hopens.1] at hafter
        obtain rfl := Option.some.inj hafter
        rw [if_neg hfeed, hopens.1, ih hrest hopens.2, Bool.and_self]
    | plain hready => cases hready
  | call | drop | dropLine =>
    cases houtline with
    | mark hready => cases hready

/-- Inside a simple statement the tokens are alike up to its end. -/
theorem Reprints.like (h : Reprints printing placed items ts)
    (houtline : Outline marks nested (.mid due) items) : Like (flat items) ts := by
  induction h generalizing due with
  | nil => cases houtline
  | @keep token token' items ts hkind h ih =>
    cases hinner : token.kind.isInner with
    | false => exact .stop hkind hinner
    | true =>
      refine .inner hkind hinner ?_
      cases houtline with
      | finish _ hσ => exact absurd hσ (by simp)
      | token hafter hrest =>
        simp only [Stage.after, hinner, if_true, Option.map_eq_some_iff] at hafter
        obtain ⟨next, -, rfl⟩ := hafter
        exact ih hrest
      | plain hready => cases hready
  | call | drop | dropLine =>
    cases houtline with
    | mark hready => cases hready

/-- The same of the text that is printed itself. -/
theorem Outline.not_indent (h : Outline marks nested σ items) (hσ : σ.isSimple = true) :
    (flat items).head?.any (·.kind = .indent) = false := by
  have hfirst : ∀ (token : Token) (rest : List Token), token.kind ≠ .indent →
      (token :: rest).head?.any (·.kind = .indent) = false := by
    intro token rest hne
    simpa using hne
  cases h with
  | finish _ _ hkind => exact hfirst _ _ (hkind ▸ nofun)
  | token hafter =>
    refine hfirst _ _ fun hindent => ?_
    rw [hindent] at hafter
    rcases Stage.isSimple_after hσ rfl hafter with ⟨heq, -⟩ | ⟨heq, -⟩ <;> exact absurd heq nofun
  | plain _ _ _ hturn _ =>
    refine hfirst _ _ fun hindent => ?_
    rw [hindent] at hturn
    exact absurd hturn nofun
  | mark _ _ _ hturns hstart =>
    obtain ⟨first, others, due, rfl, -, hturn, -⟩ := exists_of_turns hturns hstart
    refine hfirst _ _ fun hindent => ?_
    rw [hindent] at hturn
    exact absurd hturn nofun

theorem Outline.not_opens (h : Outline marks nested (.mid due) items) :
    opens (flat items) = false := by
  induction items generalizing due with
  | nil => rfl
  | cons item items ih =>
    cases h with
    | finish _ hσ => exact absurd hσ (by simp)
    | @token _ _ token _ hafter hrest =>
      rw [flat_keep, opens]
      cases hinner : token.kind.isInner with
      | true =>
        have hne : token.kind ≠ .newline := by
          intro heq
          rw [heq] at hinner
          cases hinner
        simp only [Stage.after, hinner, if_true, Option.map_eq_some_iff] at hafter
        obtain ⟨next, -, rfl⟩ := hafter
        rw [if_neg hne, ih hrest, Bool.and_false]
      | false =>
        rcases Stage.isSimple_after rfl hinner hafter with ⟨heq, rfl⟩ | ⟨heq, -⟩
        · rw [if_pos heq]
          exact hrest.not_indent rfl
        · rw [if_neg (by simp [heq]), Bool.false_and]
    | plain hready => cases hready
    | mark hready => cases hready

/-! ## Statements that are parsed alike -/

theorem Like.load_eq {ts ts' : List Token} (h : Like ts ts') : load ts = load ts' := by
  induction h with
  | stop hkind hstop => rw [load, load, ← hkind, if_neg (by simp [hstop]), if_neg (by simp [hstop])]
  | inner hkind hinner _ ih => rw [load, load, ← hkind, if_pos hinner, if_pos hinner, ih]

/-- Simple statements of tokens that are alike have the same expression. -/
theorem expression_eq_of_like {depth depth' : Nat} {c c' d d' : Cursor} {value value' : Option Expr}
    (hlike : Like c.rest c'.rest) (hload : load c.rest < depth) (hload' : load c'.rest < depth')
    (hrun : (simpleStatement (exprAt depth)).run c = some (value, d))
    (hrun' : (simpleStatement (exprAt depth')).run c' = some (value', d')) : value = value' := by
  have hnested : NestedAgree (load c.rest) (exprAt depth) (exprAt depth') :=
    nestedAgree_exprAt (.inr ⟨hload, hlike.load_eq ▸ hload'⟩)
  have hagree : Agree [] [] (room c.rest) (load c.rest) (simpleStatement (exprAt depth))
      (simpleStatement (exprAt depth')) := agree_simpleStatement hnested
  have hsame := hagree c c' hlike (Nat.le_refl _) (Nat.le_refl _)
  rw [hrun, hrun'] at hsame
  cases hsame
  rfl

/-- Where a compound statement begins in any case, no simple statement does. -/
theorem begins_of_run_simpleStatement {depth : Nat} {c d : Cursor} {value : Option Expr}
    (hrun : (simpleStatement (exprAt depth)).run c = some (value, d)) :
    c.next.beginsCompound = false := by
  unfold simpleStatement expressionStatement at hrun
  rw [run_bind_of (run_peek c)] at hrun
  split at hrun
  case h_13 =>
    cases hbegins : c.next.beginsCompound with
    | false => rfl
    | true =>
      have hwords : ∀ word ∈ compoundWords, (Token.Kind.keyword word).leads = false := by decide
      have hleads : c.next.leads = false := by
        cases hnext : c.next with
        | keyword word =>
          rw [hnext] at hbegins
          exact hwords word (List.contains_iff_mem.mp hbegins)
        | operator symbol =>
          rw [hnext] at hbegins
          obtain rfl := eq_of_beq hbegins
          rfl
        | _ =>
          rw [hnext] at hbegins
          cases hbegins
      rw [run_bind_eq_none (led_exprAt depth .stars c hleads)] at hrun
      cases hrun
  all_goals
    rw [‹c.next = _›]
    rfl

/-- Two stages that the reprint and the text that is printed can be at together. -/
def Together (σ τ : Stage) : Prop :=
  σ = τ ∨ (σ.isReady = true ∨ σ = .done) ∧ τ.isReady = true

/-- Whether a block begins behind the line decides whether there is a step, and not where it goes.
-/
theorem Stage.after_congr {υ φ : Stage} {opened opened' : Bool} {kind : Token.Kind}
    (h : σ.after opened kind = some υ) (h' : σ.after opened' kind = some φ) : υ = φ := by
  cases σ with
  | line | top =>
    simp only [after] at h h'
    split at h <;> split at h' <;> grind
  | head | next | mid | done => exact Option.some.inj (h.symm.trans h')

/-- The steps from a stage at which a simple statement can begin. -/
theorem Stage.after_of_isReady {opened : Bool} {kind : Token.Kind} (hσ : σ.isReady = true)
    (h : σ.after opened kind = some τ) :
    kind = .newline ∧ τ = .top ∨ kind = .indent ∧ τ = .line 1
      ∨ kind.isInner = true ∧ (kind.beginsCompound || opened) = true ∧ τ = .head 0 := by
  cases σ with
  | top =>
    simp only [after] at h
    split at h
    next hinner =>
      rw [Bool.and_eq_true] at hinner
      exact .inr (.inr ⟨hinner.1, hinner.2, (Option.some.inj h).symm⟩)
    next => cases h
  | line depth =>
    cases depth with
    | zero =>
      simp only [after] at h
      split at h
      next hindent => exact .inr (.inl ⟨hindent, (Option.some.inj h).symm⟩)
      split at h
      next => cases h
      split at h
      next hinner =>
        simp only [bne_self_eq_false, Bool.false_or, Bool.and_eq_true] at hinner
        exact .inr (.inr ⟨hinner.1, hinner.2, (Option.some.inj h).symm⟩)
      next => cases h
    | succ depth => cases hσ
  | next =>
    simp only [after] at h
    split at h
    next hfeed => exact .inl ⟨hfeed, (Option.some.inj h).symm⟩
    next => cases h
  | head | mid | done => cases hσ

theorem Together.after {υ φ : Stage} {opened opened' : Bool} {kind : Token.Kind}
    (h : Together σ τ) (hσ : σ.after opened kind = some υ) (hτ : τ.after opened' kind = some φ) :
    Together υ φ := by
  rcases h with rfl | ⟨hready, hready'⟩
  · exact .inl (Stage.after_congr hσ hτ)
  have hsteps' := Stage.after_of_isReady hready' hτ
  have hsteps : kind = .newline ∧ υ = .top ∨ kind = .operator ";" ∧ υ = .next
      ∨ kind = .indent ∧ υ = .line 1 ∨ kind.isInner = true ∧ υ = .head 0 := by
    rcases hready with hready | rfl
    · rcases Stage.after_of_isReady hready hσ with h | h | ⟨hinner, -, h⟩
      · exact .inl h
      · exact .inr (.inr (.inl h))
      · exact .inr (.inr (.inr ⟨hinner, h⟩))
    · rcases Stage.after_done hσ with h | h
      · exact .inl h
      · exact .inr (.inl h)
  rcases hsteps with ⟨rfl, rfl⟩ | ⟨rfl, rfl⟩ | ⟨rfl, rfl⟩ | ⟨hinner, rfl⟩ <;>
    rcases hsteps' with ⟨heq, rfl⟩ | ⟨heq, rfl⟩ | ⟨hinner', -, rfl⟩ <;>
    first
      | exact .inl rfl
      | (rw [heq] at hinner; exact absurd hinner nofun)
      | exact absurd heq nofun
      | exact absurd hinner' nofun

/-! ## Marked statements of a reprint -/

/-- All statements count for less than a depth. -/
def Bounded (depth : Nat) (ts : List Token) : Prop :=
  ∀ front back, ts = front ++ back → load back < depth

theorem Bounded.behind {depth : Nat} (front : List Token) (h : Bounded depth (front ++ ts)) :
    Bounded depth ts :=
  fun more back heq => h (front ++ more) back (by rw [heq, List.append_assoc])

theorem Bounded.load_lt {depth : Nat} (h : Bounded depth ts) : load ts < depth := h [] ts rfl

/-- The expression of a printed call. -/
def callExpr (name text : String) : Expr := .call (.name name) [.constant (.text text false)] []

/-- An expression of its own in front of the end of a statement is a statement that is nothing
else. -/
theorem Alone.run_simpleStatement_of_ends {depth : Nat} {cursor after : Cursor} {value : Expr}
    (h : Alone (exprAt depth) cursor value after)
    (hends : after.next = .newline ∨ after.next = .operator ";") :
    (simpleStatement (exprAt (depth + 1))).run cursor = some (some value, after) := by
  have hstars : (exprAt (depth + 1) .stars).run cursor = some (value, after) := h.run_stars
  have hexpression :
      (expressionStatement (exprAt (depth + 1))).run cursor = some (some value, after) := by
    unfold expressionStatement
    rw [run_bind_of hstars, run_bind_of (run_peek after)]
    rcases hends with hnext | hnext <;> rw [hnext] <;> rfl
  have hword : ∀ word, cursor.next ≠ .keyword word := Token.Kind.ne_keyword_of_isPlain h.plain
  unfold simpleStatement
  rw [run_bind_of (run_peek cursor)]
  -- every other kind of statement begins with a keyword
  split
  all_goals first | exact hexpression | exact absurd ‹_› (hword _)

/-- A printed call is a simple statement. -/
theorem run_callTokens {depth : Nat} {name text : String} {p q r s t stop : Position}
    (hname : Callable name) {token : Token} {rest : List Token}
    (htoken : token.kind = .newline ∨ token.kind = .operator ";") :
    (simpleStatement (exprAt (depth + 2))).run
        ⟨callTokens name text p q r s t ++ token :: rest, stop⟩
      = some (some (callExpr name text), ⟨token :: rest, t⟩) := by
  have hcloses : (Cursor.mk (token :: rest) t).next.closes = true := by
    show token.kind.closes = true
    rcases htoken with h | h <;> rw [h] <;> rfl
  have hpoints : ([] : List Token).map (·.kind) = pointedKinds [] := rfl
  have hvalue := literalsExpr_body (embedded (exprAt depth)) text
  have halone : Alone (exprAt (depth + 1)) ⟨callTokens name text p q r s t ++ token :: rest, stop⟩
      (.call (attributes (.name (identifier name.toList)) []) [.constant (.text text false)] [])
      ⟨token :: rest, t⟩ := alone_call hpoints hvalue hcloses
  rw [hname.identifier, attributes, List.foldl_nil] at halone
  exact halone.run_simpleStatement_of_ends htoken

/-- A marked statement of a reprint is a call that was printed. -/
def IsPrinted (placed : Position → String → String → Prop) (printed : String × String)
    (statement : ParsedStatement) : Prop :=
  placed statement.start printed.1 printed.2
    ∧ statement = ⟨some (callExpr printed.1 printed.2), statement.start,
        statement.start.afterText (call printed.1 printed.2), none⟩

/-- What follows a marked statement. -/
theorem Reprints.exists_of_done (h : Reprints printing placed items ts)
    (houtline : Outline marks nested .done items) :
    ∃ token rest, ts = token :: rest ∧ (token.kind = .newline ∨ token.kind = .operator ";") := by
  cases houtline with
  | finish _ hσ => exact absurd hσ (by simp)
  | token hafter =>
    cases h with
    | @keep _ token' _ ts hkind =>
      refine ⟨token', ts, rfl, ?_⟩
      rw [← hkind]
      exact (Stage.after_done hafter).imp And.left And.left
  | plain hready => exact absurd hready nofun
  | mark hready => exact absurd hready nofun

theorem Together.isReady (h : Together σ τ) (hσ : σ.isReady = true) : τ.isReady = true := by
  rcases h with rfl | ⟨-, hτ⟩
  · exact hσ
  · exact hτ

/-- Where the text that is printed has a compound statement, the reprint has no simple one. -/
theorem Reprints.not_compound {depth depth' : Nat} {token token' : Token} {υ : Stage}
    {stop : Position}
    {value : Option Expr} {d : Cursor} (h : Reprints printing placed items (flat items'))
    (htogether : Together σ τ) (hτ : τ.isReady = true)
    (hafter : σ.after (opens (token :: flat items)) token.kind = some υ)
    (hrest : Outline marks (exprAt depth) υ items) (hkind : token.kind = token'.kind)
    (hrun : (simpleStatement (exprAt depth')).run ⟨token' :: flat items', stop⟩ = some (value, d))
    (hturn : token'.kind.turn [] = some due)
    (hmid : Outline marks (exprAt depth') (.mid due) items') :
    False := by
  have hinner : token.kind.isInner = true := hkind ▸ Token.Kind.isInner_of_turn hturn
  have hready : σ.isReady = true := by
    rcases htogether with rfl | ⟨hready | rfl, -⟩
    · exact hτ
    · exact hready
    · rcases Stage.after_done hafter with ⟨heq, -⟩ | ⟨heq, -⟩ <;>
        cases heq ▸ hinner
  rcases Stage.after_of_isReady hready hafter with ⟨heq, -⟩ | ⟨heq, -⟩ | ⟨-, hbegins, rfl⟩
  · cases heq ▸ hinner
  · cases heq ▸ hinner
  · have hnone : token.kind.beginsCompound = false := hkind ▸ begins_of_run_simpleStatement hrun
    have hne : token.kind ≠ .newline := by
      intro heq
      cases heq ▸ hinner
    rw [hnone, Bool.false_or, opens, if_neg hne, hinner, Bool.true_and] at hbegins
    cases (h.opens_of_head hrest hbegins).symm.trans hmid.not_opens

/-- Where the text that is printed has a simple statement, the reprint has no compound one. -/
theorem Reprints.not_simple {depth : Nat} {token token' : Token} {υ : Stage} {stop : Position}
    {value : Option Expr} {d : Cursor} (h : Reprints printing placed items ts)
    (hτ : τ.isReady = true) (hafter : τ.after (opens (token' :: ts)) token'.kind = some υ)
    (hkind : token.kind = token'.kind) {behind : List Token}
    (hrun : (simpleStatement (exprAt depth)).run ⟨token :: behind, stop⟩ = some (value, d))
    (hinner : token.kind.isInner = true)
    (hmid : Outline marks nested (.mid due) items) : False := by
  rw [← hkind] at hafter
  rcases Stage.after_of_isReady hτ hafter with ⟨heq, -⟩ | ⟨heq, -⟩ | ⟨-, hbegins, -⟩
  · cases heq ▸ hinner
  · cases heq ▸ hinner
  · have hnone : token.kind.beginsCompound = false := begins_of_run_simpleStatement hrun
    have hne : token'.kind ≠ .newline := by
      rintro heq
      rw [hkind, heq] at hinner
      cases hinner
    rw [hnone, Bool.false_or, opens, if_neg hne, ← hkind, hinner, Bool.true_and] at hbegins
    cases hbegins.symm.trans (h.not_opens hmid)

/-- At the end of a text no statement is marked. -/
theorem Outline.marked_of_finish {token : Token} (h : Outline marks nested σ (.keep token :: items))
    (hfinish : token.kind = .finish) : marked (.keep token :: items) = [] := by
  cases h with
  | finish tokens => simp
  | token hafter =>
    rw [hfinish, Stage.after_finish] at hafter
    exact absurd hafter nofun
  | plain _ _ _ hturn =>
    rw [hfinish] at hturn
    exact absurd hturn nofun

/-- The tokens of a printed call are a marked statement, where a simple statement can begin. -/
theorem Outline.of_callTokens {depth : Nat} {name text : String} {p q r s : Position}
    (h : Outline marks (exprAt (depth + 2)) σ items) (hready : σ.isReady = true)
    (hname : Callable name) (hmarks : marks (some (callExpr name text)) = true)
    (hflat : flat items = callTokens name text p q r s (p.afterText (Reprint.call name text)) ++ ts)
    (hends : ∃ token rest, ts = token :: rest
      ∧ (token.kind = .newline ∨ token.kind = .operator ";")) (hopens : opens ts = false) :
    ∃ tokens behind, items = .mark tokens ⟨some (callExpr name text), p,
        p.afterText (Reprint.call name text), none⟩ :: behind
      ∧ flat behind = ts ∧ Outline marks (exprAt (depth + 2)) .done behind := by
  obtain ⟨token, rest, hts, htoken⟩ := hends
  have hcall : ∀ stop, (simpleStatement (exprAt (depth + 2))).run
        ⟨callTokens name text p q r s (p.afterText (Reprint.call name text)) ++ ts, stop⟩
      = some (some (callExpr name text), ⟨ts, p.afterText (Reprint.call name text)⟩) := by
    intro stop
    rw [hts]
    exact run_callTokens hname htoken
  cases h with
  | finish _ _ hfinish =>
    obtain ⟨rfl, -⟩ := List.cons.inj hflat
    cases hfinish
  | token hafter hrest =>
    simp only [flat_keep, callTokens, List.cons_append, List.cons.injEq] at hflat
    obtain ⟨rfl, hbehind⟩ := hflat
    -- a call begins with a name, which is no mark; and no compound statement begins with this one,
    -- as no block is opened behind it
    rcases Stage.after_of_isReady hready hafter with ⟨heq, -⟩ | ⟨heq, -⟩ | ⟨-, hbegins, -⟩
    · cases heq
    · cases heq
    · have hopened : opens ts = true := by
        simpa [Token.Kind.beginsCompound, hbehind, opens, Token.Kind.isInner] using hbegins
      cases hopened.symm.trans hopens
  | plain _ hrun hnone =>
    -- were it an ordinary statement, its expression would not be marked
    rw [← flat_keep, hflat, hcall] at hrun
    obtain ⟨rfl, -⟩ := Prod.mk.inj (Option.some.inj hrun)
    rw [hmarks] at hnone
    cases hnone
  | @mark _ tokens statement behind _ _ hrun _ hturns hstart _ hdecorator hrest =>
    rw [← flat_mark, hflat, hcall] at hrun
    simp only [Option.some.injEq, Prod.mk.injEq, Cursor.mk.injEq] at hrun
    obtain ⟨hexpression, hbehind, hstop⟩ := hrun
    obtain ⟨first, others, due, rfl, hposition, -⟩ := exists_of_turns hturns hstart
    simp only [flat_mark, callTokens, List.cons_append, List.cons.injEq] at hflat
    obtain ⟨rfl, -⟩ := hflat
    obtain ⟨expression, start, stop, decorator⟩ := statement
    simp only at hexpression hposition hstop hdecorator
    subst hexpression hposition hstop hdecorator
    exact ⟨_, behind, rfl, hbehind.symm, hrest⟩

/-- What the reprint marks begins no statement that the text that is printed leaves alone. -/
theorem Reprints.not_mark {depth depth' : Nat} {token token' : Token} {tokens : List Token}
    {statement : ParsedStatement} (hkind : token.kind = token'.kind)
    (h : Reprints printing placed items ts)
    (houtline : Outline marks (exprAt depth) σ (.keep token :: items))
    (houtline' : Outline marks (exprAt (depth' + 2)) τ (.mark tokens statement :: items'))
    (hflat : flat (.mark tokens statement :: items') = token' :: ts)
    (hbound : Bounded depth (token :: flat items)) (hbound' : Bounded (depth' + 2) (token' :: ts))
    (htogether : Together σ τ) : False := by
  cases houtline' with
  | mark hready' hrun' hmarks' hturns' hstart' _ _ hrest' =>
    obtain ⟨first, others, due, rfl, -, hturn', hmore'⟩ := exists_of_turns hturns' hstart'
    have hmid' := Outline.mid_of_turns hmore' hrest'.mid_of_done
    simp only [flat_mark, List.cons_append, List.cons.injEq] at hflat hrun'
    obtain ⟨rfl, hts⟩ := hflat
    cases houtline with
    | finish _ _ hfinish =>
      rw [← hkind, hfinish] at hturn'
      cases hturn'
    | token hafter hrest =>
      have hflat : flat (others.map .keep ++ items') = ts := by
        rw [flat_append, flat_map_keep, hts]
      rw [hts, ← hflat] at hrun'
      subst hflat
      exact h.not_compound htogether hready' hafter hrest hkind hrun' hturn' hmid'
    | plain hready hrun hmarks hturn hrest =>
      -- the two simple statements begin alike, so they have the same expression
      rw [hts] at hrun'
      have hlike : Like (token :: flat items) (first :: ts) :=
        .inner hkind (Token.Kind.isInner_of_turn hturn) (h.like hrest)
      have heq := expression_eq_of_like hlike hbound.load_lt hbound'.load_lt hrun hrun'
      rw [← heq, hmarks] at hmarks'
      cases hmarks'

/-- **One step in lockstep**: a token that is kept is kept by both outlines, and they stay
together. -/
theorem Reprints.of_keep {depth depth' : Nat} {token token' : Token}
    (hkind : token.kind = token'.kind) (h : Reprints printing placed items ts)
    (houtline : Outline marks (exprAt depth) σ (.keep token :: items))
    (houtline' : Outline marks (exprAt (depth' + 2)) τ items') (hflat : flat items' = token' :: ts)
    (hbound : Bounded depth (token :: flat items)) (hbound' : Bounded (depth' + 2) (token' :: ts))
    (htogether : Together σ τ) :
    token.kind = .finish ∧ marked items' = []
      ∨ ∃ σ' τ' behind, items' = .keep token' :: behind ∧ flat behind = ts ∧ Together σ' τ'
        ∧ Outline marks (exprAt depth) σ' items
        ∧ Outline marks (exprAt (depth' + 2)) τ' behind := by
  cases houtline' with
  | finish tokens _ hfinish' =>
    obtain ⟨rfl, -⟩ := List.cons.inj hflat
    exact .inl ⟨hkind.trans hfinish', by simp⟩
  | token hafter' hrest' =>
    simp only [flat_keep, List.cons.injEq] at hflat
    obtain ⟨rfl, rfl⟩ := hflat
    cases houtline with
    | finish _ _ hfinish =>
      rw [← hkind, hfinish, Stage.after_finish] at hafter'
      cases hafter'
    | token hafter hrest =>
      exact .inr ⟨_, _, _, rfl, rfl, htogether.after hafter (hkind ▸ hafter'), hrest, hrest'⟩
    | plain hready hrun _ hturn hrest =>
      -- a token cannot move the one outline on in a compound statement and be part of a simple one
      -- in the other
      exact (h.not_simple (htogether.isReady hready) hafter' hkind hrun
        (Token.Kind.isInner_of_turn hturn) hrest).elim
  | plain hready' hrun' hmarks' hturn' hrest' =>
    simp only [flat_keep, List.cons.injEq] at hflat
    obtain ⟨rfl, rfl⟩ := hflat
    cases houtline with
    | finish _ _ hfinish =>
      rw [← hkind, hfinish] at hturn'
      cases hturn'
    | token hafter hrest =>
      exact (h.not_compound htogether hready' hafter hrest hkind hrun' hturn' hrest').elim
    | plain hready hrun _ hturn hrest =>
      obtain rfl := Option.some.inj (hturn'.symm.trans (hkind ▸ hturn))
      exact .inr ⟨_, _, _, rfl, rfl, .inl rfl, hrest, hrest'⟩
  | mark hready hrun hmarks hturns hstart hstop hdecorator hrest =>
    exact (h.not_mark hkind houtline (.mark hready hrun hmarks hturns hstart hstop hdecorator hrest)
      hflat hbound hbound' htogether).elim

/-- Where no statement is marked there is none to look at. -/
theorem endLines_of_marked_eq_nil (h : marked items = []) : EndLines printing items := by
  induction items with
  | nil => trivial
  | cons item items ih =>
    cases item with
    | keep => exact ih h
    | mark => cases h

/-- What follows a marked statement. -/
theorem Outline.next_of_done (h : Outline marks nested .done items) :
    nextKind (flat items) = .newline ∨ nextKind (flat items) = .operator ";" := by
  cases h with
  | finish _ hσ => exact absurd hσ (by simp)
  | token hafter => exact (Stage.after_done hafter).imp And.left And.left
  | plain hready => cases hready
  | mark hready => cases hready

/-- No statement begins with a semicolon. -/
theorem Outline.next_ne_semicolon (h : Outline marks nested σ items) (hready : σ.isReady = true) :
    nextKind (flat items) ≠ .operator ";" := by
  intro hnext
  cases h with
  | @finish _ token _ _ hkind =>
    have hsemicolon : token.kind = .operator ";" := hnext
    cases hkind.symm.trans hsemicolon
  | @token _ _ token _ hafter =>
    have hsemicolon : token.kind = .operator ";" := hnext
    rw [hsemicolon] at hafter
    rcases Stage.after_of_isReady hready hafter with ⟨heq, -⟩ | ⟨heq, -⟩ | ⟨heq, -⟩ <;> cases heq
  | @plain _ token _ _ _ _ _ _ _ _ hturn =>
    have hsemicolon : token.kind = .operator ";" := hnext
    have hinner := Token.Kind.isInner_of_turn hturn
    rw [hsemicolon] at hinner
    cases hinner
  | mark _ _ _ hturns hstart =>
    obtain ⟨first, others, due, rfl, -, hturn, -⟩ := exists_of_turns hturns hstart
    have hsemicolon : first.kind = .operator ";" := hnext
    have hinner := Token.Kind.isInner_of_turn hturn
    rw [hsemicolon] at hinner
    cases hinner

/-- Where the reprint is a program, nothing is left of a line behind a statement that is not
printed. -/
theorem Reprints.next_of_dropped (h : Reprints printing placed items (flat items'))
    (hdone : Outline marks nested .done items) (houtline' : Outline marks nested' τ items')
    (hready : τ.isReady = true) : nextKind (flat items) = .newline := by
  refine hdone.next_of_done.resolve_right fun hsemicolon => ?_
  have hsame : nextKind (flat items) = nextKind (flat items') := by
    generalize flat items' = ts at h
    cases hdone with
    | finish _ hσ => exact absurd hσ (by simp)
    | token =>
      cases h with
      | keep hkind => exact hkind
    | plain hready => cases hready
    | mark hready => cases hready
  exact houtline'.next_ne_semicolon hready (hsame ▸ hsemicolon)

/-- **The marked statements of a reprint are the calls that were printed**, in the same order, and a
statement that was not ends its line. Induction on the tokens of the reprint; the two outlines go
along, in stages that stay together. -/
theorem Reprints.isPrinted_and_endLines {depth depth' : Nat} (h : Reprints printing placed items ts)
    (hprinting : ∀ statement name text, printing statement = some (name, text) →
      Callable name ∧ marks (some (callExpr name text)) = true)
    (houtline : Outline marks (exprAt depth) σ items)
    (houtline' : Outline marks (exprAt (depth' + 2)) τ items') (hflat : flat items' = ts)
    (hbound : Bounded depth (flat items)) (hbound' : Bounded (depth' + 2) ts)
    (htogether : Together σ τ) :
    List.Forall₂ (IsPrinted placed) ((marked items).filterMap printing) (marked items')
      ∧ EndLines printing items := by
  induction h generalizing σ τ items' with
  | nil => cases houtline
  | @keep token token' items ts hkind h ih =>
    have hbehind : Bounded depth (flat items) := hbound.behind [token]
    have hbehind' : Bounded (depth' + 2) ts := hbound'.behind [token']
    rcases h.of_keep hkind houtline houtline' hflat hbound hbound' htogether with
      ⟨hfinish, hnone⟩ | ⟨σ', τ', behind, rfl, hflat', htogether', hrest, hrest'⟩
    -- at the end of the text no statement is marked in either outline
    · have hmarked := houtline.marked_of_finish hfinish
      rw [hmarked, hnone]
      exact ⟨.nil, endLines_of_marked_eq_nil hmarked⟩
    · have hmore := ih hrest hrest' hflat' hbehind hbehind' htogether'
      exact hmore
  | @call tokens statement items ts name text p q r s hprinted hplaced h ih =>
    cases houtline with
    | mark hready _ _ _ _ _ _ hrest =>
      obtain ⟨hname, hmarks⟩ := hprinting statement name text hprinted
      obtain ⟨tokens', behind, rfl, hbehind, hdone⟩ := houtline'.of_callTokens
        (htogether.isReady hready) hname hmarks hflat (h.exists_of_done hrest)
        (h.not_opens hrest.mid_of_done)
      obtain ⟨hmore, hends⟩ :=
        ih hrest hdone hbehind (hbound.behind _) (hbound'.behind _) (.inl rfl)
      rw [marked_mark, marked_mark, List.filterMap_cons_some hprinted]
      exact ⟨.cons ⟨hplaced, rfl⟩ hmore, fun hnone => absurd (hprinted.symm.trans hnone) nofun,
        hends⟩
  | @drop tokens statement items ts hprinted h ih =>
    cases houtline with
    | mark hready _ _ _ _ _ _ hrest =>
      -- the statement is gone, so the second outline is still where a statement can begin; what it
      -- begins with next shows that the line ends
      have hready' := htogether.isReady hready
      obtain ⟨hmore, hends⟩ := ih hrest houtline' hflat (hbound.behind _) hbound'
        (.inr ⟨.inr rfl, hready'⟩)
      rw [marked_mark, List.filterMap_cons_none hprinted]
      subst hflat
      exact ⟨hmore, fun _ => h.next_of_dropped hrest houtline' hready', hends⟩
  | @dropLine tokens statement feed items ts hprinted hfeed h ih =>
    cases houtline with
    | mark hready _ _ _ _ _ _ hrest =>
      have hbehind : Bounded depth (flat items) :=
        (hbound.behind _ : Bounded _ (feed :: flat items)).behind [feed]
      -- the line is gone with its end, and both outlines are at the start of the next line
      have htogether' : Together .top τ := .inr ⟨.inl rfl, htogether.isReady hready⟩
      obtain ⟨hprints, hends⟩ :=
        ih (hrest.of_feed hfeed) houtline' hflat hbehind hbound' htogether'
      rw [marked_mark, List.filterMap_cons_none hprinted]
      exact ⟨hprints, fun _ => hfeed, hends⟩

end ExpectFile.Grammar
