import ExpectFile.Grammar.Cursor

/-!
# Running parsers

What the elementary parsers do at a cursor. A parser that is put together from others is opened by
taking one step after the other off its front (`run_bind_of`), so no proof about it has to look into
the state monad.
-/

namespace ExpectFile.Grammar

open TokenParser

namespace Cursor

/-- The kind of the next token. -/
def next (cursor : Cursor) : Token.Kind := (cursor.rest.head?.map (·.kind)).getD .finish

/-- The kind of the token after the next one. -/
def second (cursor : Cursor) : Token.Kind := (cursor.rest[1]?.map (·.kind)).getD .finish

/-- The cursor behind a token. -/
def behind (token : Token) (rest : List Token) (stop : Position) : Cursor :=
  ⟨rest, if token.isVisible then token.stop else stop⟩

end Cursor

variable {α β : Type} {cursor after : Cursor}

/-- **One step off the front.** -/
theorem run_bind_of {parser : TokenParser α} {a : α} (h : parser.run cursor = some (a, after))
    (f : α → TokenParser β) : (parser >>= f).run cursor = (f a).run after := by
  rw [StateT.run_bind, h]
  rfl

/-- A chain of two parsers goes through where both do. -/
theorem run_bind_eq_some {parser : TokenParser α} {f : α → TokenParser β} {b : β} :
    (parser >>= f).run cursor = some (b, after)
      ↔ ∃ a between, parser.run cursor = some (a, between)
        ∧ (f a).run between = some (b, after) := by
  rw [StateT.run_bind]
  cases parser.run cursor with
  | none => simp
  | some outcome => simp [Prod.ext_iff, and_assoc]

/-! ## Looking -/

/-- What is left is seen without taking anything. -/
theorem run_get (cursor : Cursor) :
    (get : TokenParser Cursor).run cursor = some (cursor, cursor) := rfl

/-- The kind of the next token is seen without taking it. -/
theorem run_peek (cursor : Cursor) : peek.run cursor = some (cursor.next, cursor) := by
  obtain ⟨rest, stop⟩ := cursor
  cases rest <;> rfl

/-- So is the kind of the token behind it. -/
theorem run_peekSecond (cursor : Cursor) :
    peekSecond.run cursor = some (cursor.second, cursor) := by
  obtain ⟨rest, stop⟩ := cursor
  match rest with
  | [] => rfl
  | [_] => rfl
  | _ :: _ :: _ => rfl

/-- So is the number of tokens that are left. -/
theorem run_remaining (cursor : Cursor) :
    remaining.run cursor = some (cursor.rest.length, cursor) := rfl

/-! ## Taking -/

variable (token : Token) (rest : List Token) (stop : Position)

/-- A position is that of the next token. -/
theorem run_start : TokenParser.start.run ⟨token :: rest, stop⟩
    = some (token.start, ⟨token :: rest, stop⟩) := rfl

/-- The next token is taken, and the cursor is behind it. -/
theorem run_advance : advance.run ⟨token :: rest, stop⟩ = some ((), .behind token rest stop) := rfl

/-- A token that may be next is taken, if it is. -/
theorem run_found : (found token.kind).run ⟨token :: rest, stop⟩
    = some (true, .behind token rest stop) := by
  unfold found
  rw [run_bind_of (run_peek _)]
  show (if token.kind = token.kind then _ else _ : TokenParser Bool).run _ = _
  rw [if_pos rfl]
  rfl

/-- A token that has to be next is taken, if it is. -/
theorem run_expect : (expect token.kind).run ⟨token :: rest, stop⟩
    = some ((), .behind token rest stop) := by
  unfold expect
  rw [run_bind_of (run_found token rest stop)]
  rfl

variable {token rest stop}

/-- Another token is left where it is. -/
theorem run_found_of_ne {kind : Token.Kind} (h : cursor.next ≠ kind) :
    (found kind).run cursor = some (false, cursor) := by
  unfold found
  rw [run_bind_of (run_peek cursor), if_neg h]
  rfl

/-- A token of a kind was taken, or it is not next. -/
theorem found_eq_some {kind : Token.Kind} {isFound : Bool}
    (h : (found kind).run cursor = some (isFound, after)) :
    (isFound = true ∧ ∃ token rest, cursor.rest = token :: rest ∧ token.kind = kind
        ∧ after = .behind token rest cursor.stop)
      ∨ (isFound = false ∧ cursor.next ≠ kind ∧ after = cursor) := by
  by_cases hnext : cursor.next = kind
  · subst hnext
    obtain ⟨rest, stop⟩ := cursor
    cases rest with
    | nil => exact absurd h nofun
    | cons token rest =>
      change (found token.kind).run _ = _ at h
      rw [run_found] at h
      cases h
      exact Or.inl ⟨rfl, token, rest, rfl, rfl, rfl⟩
  · rw [run_found_of_ne hnext] at h
    cases h
    exact Or.inr ⟨rfl, hnext, rfl⟩

/-- A token that is expected was next, and it has been taken. -/
theorem expect_eq_some {kind : Token.Kind} {u : Unit}
    (h : (expect kind).run cursor = some (u, after)) :
    ∃ token rest, cursor.rest = token :: rest ∧ token.kind = kind
      ∧ after = .behind token rest cursor.stop := by
  obtain ⟨isFound, between, hfound, hrest⟩ := run_bind_eq_some.mp h
  rcases found_eq_some hfound with ⟨rfl, token, rest, hcursor, hkind, rfl⟩ | ⟨rfl, -, -⟩
  · cases hrest
    exact ⟨token, rest, hcursor, hkind, rfl⟩
  · exact absurd hrest nofun

/-- An operator that may be next is taken, if it is. -/
theorem run_foundOperator {symbol : String} (h : token.kind = .operator symbol) :
    (foundOperator symbol).run ⟨token :: rest, stop⟩ = some (true, .behind token rest stop) := by
  unfold foundOperator
  rw [← h, run_found]

theorem run_foundOperator_of_ne {symbol : String} (h : cursor.next ≠ .operator symbol) :
    (foundOperator symbol).run cursor = some (false, cursor) := run_found_of_ne h

theorem run_foundKeyword_of_ne {word : String} (h : cursor.next ≠ .keyword word) :
    (foundKeyword word).run cursor = some (false, cursor) := run_found_of_ne h

/-- An operator that has to be next is taken, if it is. -/
theorem run_operator {symbol : String} (h : token.kind = .operator symbol) :
    (operator symbol).run ⟨token :: rest, stop⟩ = some ((), .behind token rest stop) := by
  unfold operator
  rw [← h, run_expect]

end ExpectFile.Grammar
