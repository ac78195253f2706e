import ExpectFile.Grammar.ExprParser
import ExpectFile.Proofs.Grammar.Cursors

/-!
# Where an expression can begin

No level of the expressions goes through where the next token cannot begin one. A statement that is
empty up to a semicolon, or to the end of its line, is no expression for that reason.

* **`Led.bind`** — what begins with a parser that is led is led.
* **`led_exprAt`** — every category, at every depth, by induction on the depth.
-/

namespace ExpectFile.Grammar

open TokenParser

/-- Whether an expression of any category can begin with a token. -/
def Token.Kind.leads (kind : Token.Kind) : Bool := startsItem kind || kind == .keyword "yield"

/-- A parser that goes through only where an expression can begin. -/
def Led {α : Type} (parser : TokenParser α) : Prop :=
  ∀ cursor : Cursor, cursor.next.leads = false → parser.run cursor = none

variable {α β : Type} {nested : Nested}

/-- A parser that fails first does not get further. -/
theorem run_bind_eq_none {parser : TokenParser α} {cursor : Cursor}
    (h : parser.run cursor = none) (f : α → TokenParser β) : (parser >>= f).run cursor = none := by
  rw [StateT.run_bind, h]
  rfl

namespace Led

/-- A parser that always fails is led. -/
theorem failure : Led (failure : TokenParser α) := fun _ _ => rfl

/-- **A parser that begins with one that is led is led**, whatever comes behind. -/
theorem bind {parser : TokenParser α} (h : Led parser) (f : α → TokenParser β) :
    Led (parser >>= f) :=
  fun cursor hnext => run_bind_eq_none (h cursor hnext) f

/-- Looking at the next token. -/
theorem peek {f : Token.Kind → TokenParser β}
    (h : ∀ kind : Token.Kind, kind.leads = false →
      ∀ cursor : Cursor, cursor.next = kind → (f kind).run cursor = none) :
    Led (TokenParser.peek >>= f) := by
  intro cursor hnext
  rw [run_bind_of (run_peek cursor)]
  exact h cursor.next hnext cursor rfl

/-- A parser that takes a leading token if it is next. -/
theorem whenFound {kind : Token.Kind} {parser other : TokenParser β} (hkind : kind.leads = true)
    (h : Led other) :
    Led (found kind >>= fun isNext => if isNext = true then parser else other) := by
  intro cursor hnext
  have hne : cursor.next ≠ kind := by
    rintro rfl
    exact absurd (hkind.symm.trans hnext) nofun
  rw [run_bind_of (run_found_of_ne hne)]
  exact h cursor hnext

/-- A parser behind a leading token. -/
theorem expect {kind : Token.Kind} (hkind : kind.leads = true) : Led (TokenParser.expect kind) :=
  .whenFound hkind .failure

/-- A list begins with an item. -/
theorem commaItems {starts : Token.Kind → Bool} {item : TokenParser α} (h : Led item) (fuel : Nat) :
    Led (TokenParser.commaItems starts item fuel) := by
  cases fuel with
  | zero => exact .failure
  | succ fuel => exact h.bind _

/-- What is looked at first does not matter. -/
theorem behind {parser : TokenParser α} {f : α → TokenParser β}
    (hparser : ∀ cursor, ∃ a, parser.run cursor = some (a, cursor)) (h : ∀ a, Led (f a)) :
    Led (parser >>= f) := by
  intro cursor hnext
  obtain ⟨a, hrun⟩ := hparser cursor
  rw [run_bind_of hrun]
  exact h a cursor hnext

end Led

/-! ## One level after the other -/

/-- Every token that begins an atom can begin an expression. -/
theorem led_atom : Led (atom nested) := by
  unfold atom
  refine .peek fun kind hleads cursor hnext => ?_
  split
  case h_11 => rfl
  all_goals exact absurd hleads (by simp [Token.Kind.leads, startsItem, startsExpression])

/-- So each level in turn, which begins with the one below it or with a token of its own. -/
theorem led_primary : Led (primary nested) := led_atom.bind _

theorem led_power : Led (power nested) :=
  .whenFound rfl (led_primary.bind _)

/-- The signs in front of a value can begin an expression. -/
theorem led_factor : Led (factor nested) := by
  unfold factor
  refine .peek fun kind hleads cursor hnext => ?_
  have hpower : (power nested).run cursor = none := led_power cursor (hnext ▸ hleads)
  split
  next symbol =>
    split
    next hmem =>
      have hsigns : ∀ symbol ∈ ["+", "-", "~"], (Token.Kind.operator symbol).leads = true := by
        decide
      rw [hsigns symbol (List.contains_iff_mem.mp hmem)] at hleads
      exact absurd hleads nofun
    next => exact hpower
  next => exact hpower

/-- The six levels of arithmetic begin with a factor. -/
theorem led_bitOr : Led (bitOr nested) :=
  (((((led_factor.bind _).bind _).bind _).bind _).bind _).bind _

/-- A negation is the only one of these levels that begins with a word. -/
theorem led_disjunction : Led (disjunction nested) :=
  (Led.bind (.whenFound rfl (led_bitOr.bind _)) _).bind _

theorem led_expression : Led (expression nested) := .whenFound rfl (led_disjunction.bind _)

/-- Whether a name is given is only looked at; then an expression comes, or the name. -/
theorem led_namedExpression : Led (namedExpression nested) := by
  intro cursor hnext
  have hname : ∀ raw, cursor.next ≠ .name raw := by
    intro raw hname
    rw [hname] at hnext
    exact absurd hnext nofun
  unfold namedExpression atName
  simp only [bind_assoc]
  rw [run_bind_of (run_peek cursor)]
  split
  next raw heq => exact absurd heq (hname raw)
  next =>
    rw [pure_bind, run_bind_of (run_peekSecond cursor)]
    exact run_bind_eq_none (led_expression cursor hnext) _

/-- Several expressions begin with the first of them, or with its star. -/
theorem led_starExpressions : Led (starExpressions nested) := by
  unfold starExpressions
  refine .behind (fun cursor => ⟨_, run_remaining cursor⟩) fun fuel => Led.bind ?_ _
  exact .commaItems (.whenFound rfl led_expression) fuel

/-- What a generator hands out begins with a word that can begin an expression. -/
theorem led_yieldExpression : Led (yieldExpression nested) := (Led.expect rfl).bind _

/-- **Where no expression can begin, none is found.** -/
theorem led_exprAt (depth : Nat) (kind : Category) : Led (exprAt depth kind) := by
  cases depth with
  | zero => exact .failure
  | succ depth =>
    show Led (category (exprAt depth) kind)
    cases kind with
    | expression => exact led_expression
    | named => exact led_namedExpression
    | stars => exact led_starExpressions
    | yield => exact led_yieldExpression
    | disjunction => exact led_disjunction
    | inversion => exact .whenFound rfl (led_bitOr.bind _)
    | bitOr => exact led_bitOr
    | factor => exact led_factor

end ExpectFile.Grammar
