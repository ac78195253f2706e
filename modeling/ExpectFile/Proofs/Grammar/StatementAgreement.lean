import ExpectFile.Proofs.Grammar.ExprAgreement
import ExpectFile.Grammar.StatementParser

/-!
# Simple statements are parsed alike

The statements that stand in a line, given how expressions are parsed.

* **`agree_simpleStatement`** — a simple statement of any kind.
-/

namespace ExpectFile.Grammar

open TokenParser

variable {α β : Type} {due left : List String} {r l : Nat} {nested nested' : Nested}

/-- Looking once more at a token that is known. -/
theorem AgreeAt.peek {kind : Token.Kind} {f f' : Token.Kind → TokenParser β}
    (h : AgreeAt kind due left r l (f kind) (f' kind)) :
    AgreeAt kind due left r l (TokenParser.peek >>= f) (TokenParser.peek >>= f') := by
  intro c c' hlike hroom hload hnext
  rw [run_bind_of (run_peek c), run_bind_of (run_peek c'), ← hlike.next_eq, hnext]
  exact h c c' hlike hroom hload hnext

/-! ## Names -/

/-- The names behind the points of a dotted name are parsed alike, by induction on the fuel. -/
theorem agree_attributeNames {fuel fuel' : Nat} (hfuel : r < fuel) (hfuel' : r < fuel') :
    Agree due due r l (attributeNames fuel) (attributeNames fuel') := by
  induction fuel generalizing r fuel' with
  | zero => omega
  | succ fuel ih =>
    cases fuel' with
    | zero => omega
    | succ fuel' =>
      unfold attributeNames
      refine .nextFound rfl (fun hr => ?_) (.pure 0)
      exact agree_rawName.bind fun _ => (ih (by omega) (by omega)).bind fun _ => .pure _

/-- So is a dotted name. -/
theorem agree_dottedName : Agree due due r l dottedName dottedName := by
  unfold dottedName
  refine agree_rawName.bind fun _ => .looping (fun r' _ m m' hm hm' => ?_) fun _ => .pure ()
  exact agree_attributeNames (Nat.lt_succ_of_lt hm) (Nat.lt_succ_of_lt hm')

/-- A name that something is called by is parsed alike, or there is none in either list. -/
theorem agree_aliasName : Agree due due r l aliasName aliasName := by
  unfold aliasName
  exact .ifFound rfl (agree_rawName.bind fun _ => .pure ()) (.pure ())

/-- The points in front of a module are parsed alike, one at a time or three, by induction on the
fuel. -/
theorem agree_leadingPoints {fuel fuel' : Nat} (hfuel : r < fuel) (hfuel' : r < fuel') :
    Agree due due r l (leadingPoints fuel) (leadingPoints fuel') := by
  induction fuel generalizing r fuel' with
  | zero => omega
  | succ fuel ih =>
    cases fuel' with
    | zero => omega
    | succ fuel' =>
      unfold leadingPoints
      have hpoints : ∀ kind : Token.Kind,
          (decide (kind = .operator ".") || decide (kind = .operator "...")) = true →
            kind.turn due = some due := by
        intro kind h
        rcases (Bool.or_eq_true _ _).mp h with h | h <;> rw [of_decide_eq_true h] <;> rfl
      refine .peek fun kind => .peek (.ite (fun h => ?_) fun _ => (Agree.pure false).atNext _)
      refine .advance (hpoints kind h) fun hr _ => Agree.mono ?_ (Nat.le_refl _) (Nat.sub_le l _)
      exact (ih (by omega) (by omega)).bind fun _ => .pure true

/-- Items separated by commas, and nothing made of them. -/
theorem agree_list {item item' : TokenParser α} {f f' : List α → TokenParser β}
    (h : Agree due due r l item item') (hf : ∀ found, Agree due left r l (f found) (f' found)) :
    Agree due left r l (remaining >>= fun fuel => commaList item fuel >>= f)
      (remaining >>= fun fuel => commaList item' fuel >>= f') :=
  .looping (fun _ hr _ _ hm hm' => (h.mono hr (Nat.le_refl l)).commaList hm hm') hf

/-- What is imported is parsed alike: everything, or names in parentheses or without them. -/
theorem agree_importedNames : Agree due due r l importedNames importedNames := by
  unfold importedNames
  dsimp only
  have hitem : ∀ {due : List String}, Agree due due r l
      (rawName >>= fun _ => aliasName) (rawName >>= fun _ => aliasName) :=
    agree_rawName.bind fun _ => agree_aliasName
  refine .ifFound rfl (.pure ()) (.ifFound rfl ?_ (agree_list hitem fun _ => .pure ()))
  exact .items hitem fun _ => .expect rfl

/-! ## Assignments -/

/-- What is assigned is parsed alike. -/
theorem agree_assignedValue (h : NestedAgree l nested nested') :
    Agree due due r l (assignedValue nested) (assignedValue nested') := by
  unfold assignedValue
  exact .peek fun next => (Agree.ite (fun _ => h.agree _ r _) fun _ => h.agree _ r _).atNext next

/-- So is a chain of assignments, in which every value but the last is a target. -/
theorem agree_assignments (h : NestedAgree l nested nested') {fuel fuel' : Nat} (hfuel : r < fuel)
    (hfuel' : r < fuel') (target : Expr) :
    Agree due due r l (assignments nested fuel target) (assignments nested' fuel' target) := by
  induction fuel generalizing r fuel' target with
  | zero => omega
  | succ fuel ih =>
    cases fuel' with
    | zero => omega
    | succ fuel' =>
      unfold assignments
      refine .nextFound rfl (fun hr => .ite (fun _ => .failing) fun _ => ?_) (.pure ())
      exact (agree_assignedValue h).bind fun value => ih (by omega) (by omega) value

/-- A statement that begins with an expression is parsed alike. The token behind the expression says
what kind of assignment it is, or that it is none. -/
theorem agree_expressionStatement (h : NestedAgree l nested nested') :
    Agree due due r l (expressionStatement nested) (expressionStatement nested') := by
  unfold expressionStatement
  refine (h.agree _ r _).bind fun value => .peek fun kind => ?_
  split
  next symbol =>
    refine .ite (fun _ => Agree.atNext ?_ _) fun _ => .ite (fun hcolon => ?_) fun _ =>
      .ite (fun hmem => ?_) fun _ => (Agree.pure _).atNext _
    · refine .looping (fun r' _ m m' hm hm' => ?_)
        fun _ => .pure none
      exact agree_assignments h (Nat.lt_succ_of_lt hm) (Nat.lt_succ_of_lt hm') value
    · subst hcolon
      refine .ite (fun _ => Agree.failing.atNext _) fun _ => .taking rfl ?_
      refine (h.agree _ r _).bind fun _ => .ifFound rfl ?_ (.pure none)
      exact (agree_assignedValue h).bind fun _ => .pure none
    · have hsymbols : ∀ symbol ∈ operatingAssignments, leavesBrackets symbol = true := by decide
      have hturn := turn_of_leavesBrackets (hsymbols symbol (List.contains_iff_mem.mp hmem)) due
      refine .ite (fun _ => Agree.failing.atNext _) fun _ => .taking hturn ?_
      exact (agree_assignedValue h).bind fun _ => .pure none
  next => exact (Agree.pure _).atNext _

/-! ## Statements -/

/-- **Simple statements** are parsed alike where expressions are. -/
theorem agree_simpleStatement (h : NestedAgree l nested nested') :
    Agree due due r l (simpleStatement nested) (simpleStatement nested') := by
  unfold simpleStatement
  refine .peek fun kind => ?_
  split
  next => exact ((h.agree _ r _).bind fun value => .pure _).atNext _
  next => exact .taking rfl (.pure none)
  next => exact .taking rfl (.pure none)
  next => exact .taking rfl (.pure none)
  next =>
    refine .taking rfl (.peek fun next => (Agree.ite (fun _ => ?_) fun _ => .pure none).atNext next)
    exact (h.agree _ r _).bind fun _ => .pure none
  next =>
    refine .taking rfl (.peek fun next => (Agree.ite (fun _ => ?_) fun _ => .pure none).atNext next)
    refine (h.agree _ r _).bind fun _ => .ifFound rfl ?_ (.pure none)
    exact (h.agree _ r _).bind fun _ => .pure none
  next =>
    refine .taking rfl ((h.agree _ r _).bind fun _ => .ifFound rfl ?_ (.pure none))
    exact (h.agree _ r _).bind fun _ => .pure none
  next =>
    refine .taking rfl ((h.agree _ r _).bind fun target => ?_)
    exact .ite (fun _ => .pure none) fun _ => .failure
  next => exact .taking rfl (agree_list agree_rawName fun _ => .pure none)
  next => exact .taking rfl (agree_list agree_rawName fun _ => .pure none)
  next =>
    refine .taking rfl (agree_list ?_ fun _ => .pure none)
    exact agree_dottedName.bind fun _ => agree_aliasName
  next =>
    -- both forms of an import from a module end alike, behind its points or its name
    have hnames : Agree due due r l
        (keyword "import" >>= fun _ => importedNames >>= fun _ => pure none)
        (keyword "import" >>= fun _ => importedNames >>= fun _ => pure (none : Option Expr)) :=
      (Agree.expect rfl).bind fun _ => agree_importedNames.bind fun _ => .pure none
    refine .taking rfl (.looping (fun _ _ _ _ hm hm' => agree_leadingPoints hm hm')
      fun points => ?_)
    refine agree_atName.bind fun isName => .ite (fun _ => ?_) fun _ => hnames
    exact agree_dottedName.bind fun _ => hnames
  next => exact (agree_expressionStatement h).atNext _

end ExpectFile.Grammar
