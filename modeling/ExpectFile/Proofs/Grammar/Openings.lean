import ExpectFile.Proofs.Grammar.Progress

/-!
# Where expressions and statements begin

An expression is never empty, and no line break or change of indentation stands at its front: the
first token that its parser takes is a visible one. The same holds of statements, so where a
statement starts is the place of a token that belongs to its text, and it ends no earlier.

As for progress (`Advances`), chains keep the property, and instance resolution follows them.

* **`Opens`** — a parser takes a token first, and one to begin with.
-/

namespace ExpectFile.Grammar

open TokenParser

/-- Whether an expression, or a statement without decorators, may begin with the token: not with a
mark of layout, and not with an `@`. -/
def Token.Kind.begins : Token.Kind → Bool
  | .newline | .indent | .dedent | .finish => false
  | .operator symbol => symbol != "@"
  | _ => true

/-- A token to begin with is no mark of layout. -/
theorem Token.isVisible_of_begins {token : Token} (h : token.kind.begins = true) :
    token.isVisible = true := by
  obtain ⟨kind, start, stop⟩ := token
  cases kind <;> first | rfl | exact absurd h nofun

/-- The second cursor is what the first becomes when tokens are taken, of which the first is one to
begin with. -/
def Cursor.Enters (cursor after : Cursor) : Prop :=
  ∃ token taken, cursor.rest = token :: (taken ++ after.rest) ∧ token.kind.begins = true
    ∧ after.stop = stopBehind taken token.stop

/-- One token, if it is one to begin with. -/
theorem Cursor.enters_behind {cursor : Cursor} {token : Token} {rest : List Token}
    (h : cursor.rest = token :: rest) (hbegins : token.kind.begins = true) :
    cursor.Enters (.behind token rest cursor.stop) :=
  ⟨token, [], h, hbegins, if_pos (Token.isVisible_of_begins hbegins)⟩

/-- Behind the first token any others may be taken. -/
theorem Cursor.Enters.trans {cursor between after : Cursor} (h : cursor.Enters between)
    (hnext : between.Reaches after) : cursor.Enters after := by
  obtain ⟨token, first, hfirst, hbegins, hstop⟩ := h
  obtain ⟨second, hsecond, hlast⟩ := hnext
  refine ⟨token, first ++ second, ?_, hbegins, ?_⟩
  · rw [hfirst, hsecond, List.append_assoc]
  · rw [hlast, hstop]
    exact List.foldl_append.symm

variable {α β : Type}

/-- A parser that takes a token first that is one to begin with. -/
class Opens (parser : TokenParser α) : Prop where
  enters : ∀ {cursor a after}, parser.run cursor = some (a, after) → cursor.Enters after

/-! ## Chains and choices -/

namespace Opens

variable {parser first second : TokenParser α} {f : α → TokenParser β}

/-- A parser that fails need not begin with anything. -/
instance : Opens (failure : TokenParser α) where
  enters h := absurd h nofun

/-- A chain begins as its first part does. -/
instance andThen [Opens parser] [∀ a, Advances (f a)] : Opens (parser >>= f) where
  enters h := by
    obtain ⟨a, between, hfirst, hsecond⟩ := run_bind_eq_some.mp h
    exact (enters hfirst).trans (Advances.reaches hsecond)

/-- As an instance, with the rest of the chain given. -/
theorem andThen' (hfirst : Opens parser) (h : ∀ a, Advances (f a)) : Opens (parser >>= f) :=
  inferInstance

/-- A chain begins as its second part does, if the first one takes nothing. -/
instance behind [Looks parser] [∀ a, Opens (f a)] : Opens (parser >>= f) where
  enters h := by
    obtain ⟨a, between, hfirst, hsecond⟩ := run_bind_eq_some.mp h
    obtain rfl := Looks.stays hfirst
    exact enters hsecond

instance {g : α → β} [Opens parser] : Opens (g <$> parser) :=
  inferInstanceAs (Opens (parser >>= fun a => pure (g a)))

/-- A choice by a condition begins as the part that is chosen does. -/
instance {c : Prop} [Decidable c] [Opens first] [Opens second] :
    Opens (if c then first else second) := by
  split <;> infer_instance

/-- Only the alternative that is taken counts. -/
instance [Opens second] : Opens (if false = true then first else second) :=
  inferInstanceAs (Opens second)

/-- A parser that goes on by the kind of the next token. -/
theorem of_peek {f : Token.Kind → TokenParser α}
    (h : ∀ kind, ∀ {cursor : Cursor} {a after}, cursor.next = kind →
      (f kind).run cursor = some (a, after) → cursor.Enters after) :
    Opens (peek >>= f) where
  enters {cursor a after} hrun := by
    obtain ⟨kind, between, hpeek, hrest⟩ := run_bind_eq_some.mp hrun
    rw [run_peek] at hpeek
    cases hpeek
    exact h _ rfl hrest

/-- Taking the next token, if it is one to begin with. -/
theorem enters_advance {f : Unit → TokenParser α} [Advances (f ())] {cursor after : Cursor} {a : α}
    (hbegins : cursor.next.begins = true)
    (h : (advance >>= f).run cursor = some (a, after)) : cursor.Enters after := by
  obtain ⟨⟨⟩, between, hadvance, hrest⟩ := run_bind_eq_some.mp h
  obtain ⟨rest, stop⟩ := cursor
  cases rest with
  | nil => exact absurd hbegins nofun
  | cons token rest =>
    rw [run_advance] at hadvance
    cases hadvance
    exact (Cursor.enters_behind rfl hbegins).trans (Advances.reaches hrest)

/-- A parser that takes a token, if it is next, and goes on otherwise. -/
theorem of_found {kind : Token.Kind} {f : Bool → TokenParser α} [Advances (f true)]
    (hbegins : kind.begins = true) (h : Opens (f false)) : Opens (found kind >>= f) where
  enters {cursor a after} hrun := by
    obtain ⟨isFound, between, hfound, hrest⟩ := run_bind_eq_some.mp hrun
    rcases found_eq_some hfound with ⟨rfl, token, rest, hcursor, rfl, rfl⟩ | ⟨rfl, -, rfl⟩
    · exact (Cursor.enters_behind hcursor hbegins).trans (Advances.reaches hrest)
    · exact h.enters hrest

instance {f : Bool → TokenParser α} [Advances (f true)] [Opens (f false)] :
    Opens (foundOperator "*" >>= f) := of_found rfl inferInstance

instance {word : String} {f : Bool → TokenParser α} [Advances (f true)] [Opens (f false)] :
    Opens (foundKeyword word >>= f) := of_found rfl inferInstance

end Opens

/-! ## Expressions -/

namespace Opens

instance (word : String) : Opens (keyword word) :=
  inferInstanceAs (Opens (foundKeyword word >>= fun isFound =>
    if isFound = true then pure () else failure))

/-- A name may stand at the beginning. -/
instance : Opens rawName := of_peek fun kind _ _ _ hnext h => by
  split at h
  · exact enters_advance (hnext ▸ rfl) h
  · exact absurd h nofun

instance : Opens nameToken := by unfold nameToken; infer_instance

/-- A list is not empty, so it begins with its first item. -/
instance {starts : Token.Kind → Bool} {item : TokenParser α} [Opens item] [Advances item]
    (fuel : Nat) : Opens (commaItems starts item fuel) := by
  cases fuel with
  | zero => exact inferInstanceAs (Opens failure)
  | succ fuel => unfold commaItems; infer_instance

/-- Operators of one level begin with their first operand. -/
instance (level : Level) (symbols : List String) (operand : TokenParser Expr) [Advances operand]
    [Opens operand] : Opens (leftLevel level symbols operand) :=
  andThen' inferInstance fun first => Advances.of_peek fun kind => by split <;> infer_instance

/-- So do operands with a word between them. -/
instance (level : Level) (word : String) (operand : TokenParser Expr) [Advances operand]
    [Opens operand] : Opens (keywordLevel level word operand) := by
  unfold keywordLevel; infer_instance

variable {nested : Nested} [∀ kind, Advances (nested kind)]

/-- Adjacent literals begin with a literal, if one is next. -/
theorem enters_adjacentLiterals {fuel : Nat} {cursor after : Cursor} {content : RawLiteral}
    {literals : List RawLiteral} (hnext : cursor.next = .literal content)
    (h : (adjacentLiterals fuel).run cursor = some (literals, after)) : cursor.Enters after := by
  cases fuel with
  | zero => exact absurd h nofun
  | succ fuel =>
    unfold adjacentLiterals at h
    rw [run_bind_of (run_peek cursor), hnext] at h
    exact enters_advance (hnext ▸ rfl) h

/-- An atom begins with a name, a number, a literal or an opening bracket. -/
instance : Opens (atom nested) := of_peek fun kind cursor value after hnext h => by
  split at h
  case h_3 content =>
    -- the literals are counted first
    rw [run_bind_of (run_remaining cursor)] at h
    obtain ⟨literals, between, hliterals, hrest⟩ := run_bind_eq_some.mp h
    have hstays : between.Reaches after := by
      split at hrest <;> exact Advances.reaches hrest
    exact (enters_adjacentLiterals hnext hliterals).trans hstays
  all_goals first
    | exact enters_advance (hnext ▸ rfl) h
    | exact absurd h nofun

instance : Opens (primary nested) :=
  andThen' inferInstance fun value => Advances.of_peek fun kind => by split <;> infer_instance

instance : Opens (power nested) := by unfold power; infer_instance

/-- The sign in front of a value is none that begins a decorator. -/
instance : Opens (factor nested) := of_peek fun kind _ _ _ hnext h => by
  split at h
  · split at h
    · rename_i symbol hsign
      have hne : symbol ≠ "@" := by
        rintro rfl
        exact absurd hsign (by decide)
      exact enters_advance (hnext ▸ bne_iff_ne.mpr hne) h
    · exact enters h
  · exact enters h

instance : Opens (bitOr nested) := by unfold bitOr; infer_instance

instance : Opens (comparison nested) :=
  andThen' inferInstance fun first => Advances.andThen inferInstance fun symbol => by
    split <;> infer_instance

instance : Opens (inversion nested) := by unfold inversion; infer_instance

instance : Opens (disjunction nested) := by unfold disjunction; infer_instance

instance : Opens (expression nested) := by unfold expression; infer_instance

instance : Opens (namedExpression nested) := by unfold namedExpression; infer_instance

instance : Opens (starExpressions nested) := by unfold starExpressions; infer_instance

instance : Opens (yieldExpression nested) := by unfold yieldExpression; infer_instance

/-- **Every category of expressions** begins with a token of its own. -/
instance (kind : Category) : Opens (category nested kind) := by
  unfold category
  split <;> infer_instance

/-- So expressions do at every depth. -/
instance (depth : Nat) (kind : Category) : Opens (exprAt depth kind) := by
  cases depth with
  | zero => exact inferInstanceAs (Opens failure)
  | succ depth => exact inferInstanceAs (Opens (category (exprAt depth) kind))

/-! ## Statements -/

set_option synthInstance.maxSize 4096

/-- A statement that begins with an expression begins with a token of it. -/
instance [∀ kind, Opens (nested kind)] : Opens (expressionStatement nested) :=
  andThen' inferInstance fun value => Advances.of_peek fun kind => by split <;> infer_instance

/-- Every simple statement but an expression begins with a keyword. -/
instance [∀ kind, Opens (nested kind)] :
    Opens (simpleStatement nested) := of_peek fun kind _ _ _ hnext h => by
  split at h
  all_goals first
    | exact enters_advance (hnext ▸ rfl) h
    | exact enters h

variable {suite : TokenParser Unit} [Advances suite]

instance : Opens (definition nested suite) := by unfold definition; infer_instance

/-- A definition begins with a word, whatever the result is then. -/
theorem enters_definition {result : Bool} {cursor after : Cursor}
    (h : (definition nested suite >>= fun _ => pure true).run cursor = some (result, after)) :
    cursor.Enters after :=
  enters h

/-- The head of a branching statement begins with a name. -/
instance : Opens (branchingHead nested) := of_peek fun kind _ _ _ hnext h => by
  split at h
  · exact absurd h nofun
  · rename_i hname
    have hname : kind = .name "match".toList := Decidable.of_not_not hname
    have := Advances.afterSubject
    exact enters_advance (hnext ▸ hname ▸ rfl) h

/-- If there is a compound statement, its first token is taken. -/
theorem enters_compoundStatement {depth : Nat} {cursor after : Cursor}
    (h : (compoundStatement nested depth suite).run cursor = some (true, after)) :
    cursor.Enters after := by
  unfold compoundStatement at h
  rw [run_bind_of (run_peek cursor)] at h
  generalize hnext : cursor.next = kind at h
  split at h
  all_goals first
    | exact enters_advance (hnext ▸ rfl) h
    | exact enters_definition h
    | skip
  · rw [run_bind_of (run_peekSecond cursor)] at h
    split at h
    all_goals first
      | exact enters_advance (hnext ▸ rfl) h
      | exact enters_definition h
  · -- the head of a branching statement has been tried apart
    rw [run_bind_of (run_get cursor)] at h
    split at h
    · rename_i head between hhead
      obtain ⟨_, _, hset, h⟩ := run_bind_eq_some.mp h
      cases hset
      exact (enters hhead).trans (Advances.reaches h)
    · cases h
  · cases h

end Opens

end ExpectFile.Grammar
