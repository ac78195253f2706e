import ExpectFile.Grammar.StatementParser
import ExpectFile.Proofs.Grammar.Cursors

/-!
# Through the levels of binding

An expression is parsed level by level, and a simple one passes through all of them: where a primary
begins with a name, a number or a literal, and no operator can follow it, every level takes it for
an expression of its own (`Alone`).

* **`Alone.run_bitOr`**, **`Alone.run_disjunction`**, **`Alone.run_expression`** — the levels, the
  tightest first.
* **`Alone.run_named`**, **`Alone.run_stars`** — the categories that arguments and statements are.
-/

namespace ExpectFile.Grammar

open TokenParser

/-! ## Tokens in front of an expression and behind it -/

/-- A token that a simple primary begins with. -/
def Token.Kind.isPlain : Token.Kind → Bool
  | .name _ | .number _ | .literal _ => true
  | _ => false

/-- The operators behind which no expression goes on. -/
def closers : List String := [")", "]", "\x7d", ";"]

/-- A token behind which no expression goes on. -/
def Token.Kind.closes : Token.Kind → Bool
  | .newline => true
  | .operator symbol => closers.contains symbol
  | _ => false

namespace Token.Kind

variable {kind : Token.Kind}

/-- A token that a simple primary begins with is no operator. -/
theorem ne_operator_of_isPlain (h : kind.isPlain = true) (symbol : String) :
    kind ≠ .operator symbol := by
  rintro rfl
  exact absurd h nofun

/-- It is no keyword either. -/
theorem ne_keyword_of_isPlain (h : kind.isPlain = true) (word : String) : kind ≠ .keyword word := by
  rintro rfl
  exact absurd h nofun

/-- A token behind which no expression goes on is none of the other operators. -/
theorem ne_operator_of_closes (h : kind.closes = true) {symbol : String}
    (hsymbol : closers.contains symbol = false) : kind ≠ .operator symbol := by
  rintro rfl
  exact absurd (h.symm.trans hsymbol) nofun

/-- A closing operator is in no list of operators that go on. -/
theorem not_contains_of_closes {symbol : String} (h : closes (.operator symbol) = true)
    {symbols : List String} (hsymbols : ∀ symbol ∈ symbols, closers.contains symbol = false) :
    ¬symbols.contains symbol = true :=
  fun hmem => ne_operator_of_closes h (hsymbols symbol (List.contains_iff_mem.mp hmem)) rfl

/-- It is no keyword. -/
theorem ne_keyword_of_closes (h : kind.closes = true) (word : String) : kind ≠ .keyword word := by
  rintro rfl
  exact absurd h nofun

end Token.Kind

/-- A simple primary stands at the cursor, and nothing behind it belongs to the expression. -/
structure Alone (nested : Nested) (cursor : Cursor) (value : Expr) (after : Cursor) : Prop where
  run : (primary nested).run cursor = some (value, after)
  plain : cursor.next.isPlain = true
  closes : after.next.closes = true

variable {nested : Nested} {value : Expr} {cursor after : Cursor}

/-! ## One level -/

/-- An atom is a primary if nothing is called, indexed or looked up behind it. -/
theorem run_primary_of_atom (h : (atom nested).run cursor = some (value, after))
    (hcloses : after.next.closes = true) : (primary nested).run cursor = some (value, after) := by
  unfold primary
  rw [run_bind_of h, run_bind_of (run_peek after)]
  split
  · rename_i symbol hnext
    rw [hnext] at hcloses
    rw [if_neg (Token.Kind.not_contains_of_closes hcloses (by decide))]
    rfl
  · rfl

/-- A level of operators passes an operand on if none of its operators follows. -/
theorem run_leftLevel {level : Level} {symbols : List String} {operand : TokenParser Expr}
    (h : operand.run cursor = some (value, after)) (hcloses : after.next.closes = true)
    (hsymbols : ∀ symbol ∈ symbols, closers.contains symbol = false) :
    (leftLevel level symbols operand).run cursor = some (value, after) := by
  unfold leftLevel
  rw [run_bind_of h, run_bind_of (run_peek after)]
  split
  · rename_i symbol hnext
    rw [hnext] at hcloses
    rw [if_neg (Token.Kind.not_contains_of_closes hcloses hsymbols)]
    rfl
  · rfl

/-- A level of operators that are words has one operand, if no such word follows. -/
theorem run_keywordLevel {level : Level} {word : String} {operand : TokenParser Expr}
    (h : operand.run cursor = some (value, after)) (hback : after.next ≠ .keyword word) :
    (keywordLevel level word operand).run cursor = some (value, after) := by
  unfold keywordLevel
  rw [run_bind_of h, run_bind_of (run_peek after), if_neg hback]
  rfl

/-- No comparison follows in front of a token that closes. -/
theorem run_comparisonOperator (h : cursor.next.closes = true) :
    comparisonOperator.run cursor = some (none, cursor) := by
  unfold comparisonOperator
  rw [run_bind_of (run_peek cursor), run_bind_of (run_peekSecond cursor)]
  split
  · rename_i symbol hnext
    rw [hnext] at h
    rw [if_neg (Token.Kind.not_contains_of_closes h (by decide))]
    rfl
  · rename_i hnext _
    exact absurd hnext (Token.Kind.ne_keyword_of_closes h _)
  · rename_i hnext
    exact absurd hnext (Token.Kind.ne_keyword_of_closes h _)
  · rename_i hnext _
    exact absurd hnext (Token.Kind.ne_keyword_of_closes h _)
  · rename_i hnext _
    exact absurd hnext (Token.Kind.ne_keyword_of_closes h _)
  · rfl

/-! ## All levels -/

namespace Alone

/-- No power follows, and no word is in front. -/
theorem run_power (h : Alone nested cursor value after) :
    (power nested).run cursor = some (value, after) := by
  have hawait : cursor.next ≠ .keyword "await" := Token.Kind.ne_keyword_of_isPlain h.plain _
  have hpower : after.next ≠ .operator "**" := Token.Kind.ne_operator_of_closes h.closes rfl
  unfold power
  rw [run_bind_of (run_foundKeyword_of_ne hawait)]
  show (primary nested >>= _ : TokenParser Expr).run cursor = _
  rw [run_bind_of h.run]
  show (foundOperator "**" >>= _ : TokenParser Expr).run after = _
  rw [run_bind_of (run_foundOperator_of_ne hpower)]
  rfl

/-- No sign is in front. -/
theorem run_factor (h : Alone nested cursor value after) :
    (factor nested).run cursor = some (value, after) := by
  unfold factor
  rw [run_bind_of (run_peek cursor)]
  split
  · rename_i symbol hnext
    exact absurd hnext (Token.Kind.ne_operator_of_isPlain h.plain symbol)
  · exact h.run_power

/-- **No operator of arithmetic** follows. -/
theorem run_bitOr (h : Alone nested cursor value after) :
    (bitOr nested).run cursor = some (value, after) := by
  unfold bitOr
  -- the three bitwise levels, shifts, sums and products, the loosest first
  refine run_leftLevel ?_ h.closes (by decide)
  refine run_leftLevel ?_ h.closes (by decide)
  refine run_leftLevel ?_ h.closes (by decide)
  refine run_leftLevel ?_ h.closes (by decide)
  refine run_leftLevel ?_ h.closes (by decide)
  exact run_leftLevel h.run_factor h.closes (by decide)

/-- No comparison follows. -/
theorem run_comparison (h : Alone nested cursor value after) :
    (comparison nested).run cursor = some (value, after) := by
  unfold comparison
  rw [run_bind_of h.run_bitOr, run_bind_of (run_comparisonOperator h.closes)]
  rfl

/-- No negation is in front. -/
theorem run_inversion (h : Alone nested cursor value after) :
    (inversion nested).run cursor = some (value, after) := by
  have hnot : cursor.next ≠ .keyword "not" := Token.Kind.ne_keyword_of_isPlain h.plain _
  unfold inversion
  rw [run_bind_of (run_foundKeyword_of_ne hnot)]
  exact h.run_comparison

/-- **Neither `and` nor `or`** follows. -/
theorem run_disjunction (h : Alone nested cursor value after) :
    (disjunction nested).run cursor = some (value, after) := by
  have hword : ∀ word, after.next ≠ .keyword word := Token.Kind.ne_keyword_of_closes h.closes
  exact run_keywordLevel (run_keywordLevel h.run_inversion (hword "and")) (hword "or")

/-- **The expression is one of its own**: no function without a name, and not the first part of a
conditional one. -/
theorem run_expression (h : Alone nested cursor value after) :
    (expression nested).run cursor = some (value, after) := by
  have hlambda : cursor.next ≠ .keyword "lambda" := Token.Kind.ne_keyword_of_isPlain h.plain _
  have hif : after.next ≠ .keyword "if" := Token.Kind.ne_keyword_of_closes h.closes _
  unfold expression
  rw [run_bind_of (run_foundKeyword_of_ne hlambda)]
  show (disjunction nested >>= _ : TokenParser Expr).run cursor = _
  rw [run_bind_of h.run_disjunction, run_bind_of (run_foundKeyword_of_ne hif)]
  rfl

end Alone

/-! ## Arguments and statements -/

/-- Whether a name is next is only looked at. -/
theorem run_atName (cursor : Cursor) : ∃ isName, atName.run cursor = some (isName, cursor) := by
  unfold atName
  rw [run_bind_of (run_peek cursor)]
  split <;> exact ⟨_, rfl⟩

namespace Alone

/-- An argument, unless it is given a name on the way. -/
theorem run_named (h : Alone nested cursor value after) (hsecond : cursor.second ≠ .operator ":=") :
    (namedExpression nested).run cursor = some (value, after) := by
  have hassign : after.next ≠ .operator ":=" := Token.Kind.ne_operator_of_closes h.closes rfl
  obtain ⟨isName, hname⟩ := run_atName cursor
  unfold namedExpression
  rw [run_bind_of hname, run_bind_of (run_peekSecond cursor), if_neg (by simp [hsecond]),
    run_bind_of h.run_expression, run_bind_of (run_peek after), if_neg hassign]
  rfl

/-- There is a token to begin with. -/
theorem exists_length_eq (h : Alone nested cursor value after) :
    ∃ others, cursor.rest.length = others + 1 := by
  have hplain := h.plain
  cases hrest : cursor.rest with
  | nil => simp [Cursor.next, hrest, Token.Kind.isPlain] at hplain
  | cons token rest => exact ⟨rest.length, rfl⟩

/-- A list of values that is one value. -/
theorem run_stars (h : Alone nested cursor value after) :
    (starExpressions nested).run cursor = some (value, after) := by
  have hstar : cursor.next ≠ .operator "*" := Token.Kind.ne_operator_of_isPlain h.plain _
  have hcomma : after.next ≠ .operator "," := Token.Kind.ne_operator_of_closes h.closes rfl
  obtain ⟨others, hlength⟩ := h.exists_length_eq
  unfold starExpressions
  rw [run_bind_of (run_remaining cursor), hlength]
  unfold commaItems
  simp only [bind_assoc]
  rw [run_bind_of (run_foundOperator_of_ne hstar)]
  show (expression nested >>= _ : TokenParser Expr).run cursor = _
  rw [run_bind_of h.run_expression, run_bind_of (run_foundOperator_of_ne hcomma)]
  rfl

end Alone

end ExpectFile.Grammar
