import ExpectFile.Proofs.Grammar.Levels
import ExpectFile.Proofs.Grammar.Progress

/-!
# A literal, and a call with one

A literal is parsed as the value that it has, and a name, plain or dotted, with a literal in
parentheses as the call of the name with this value; and where either is all of a line, the line is
one statement, this expression and nothing else.

* **`alone_literal`** — a literal is an expression of its own in front of a closing token.
* **`run_trailers_points`** — names behind points are looked up one after the other.
* **`alone_call`** — a call of a name with a literal is an expression of its own.
* **`Alone.run_simpleLine`** — an expression of its own at the end of a line is a statement.
* **`parseStatements_of_alone`** — a text that is such a line is that statement.
-/

namespace ExpectFile.Grammar

open TokenParser

variable {nested : Nested} {value : Expr} {content : RawLiteral} {rest : List Token}
  {p q r s t u stop : Position}

/-! ## Literals -/

/-- What a literal of text is parsed as: a letter in front of it may leave a trace. -/
theorem literalsExpr_of_text {text : List Char} (hbytes : content.isBytes = false)
    (hplain : content.isInterpolated = false)
    (hvalue : decodeText content.isRaw content.body = some text)
    (parse : List Char → Option Expr) :
    literalsExpr parse [content]
      = some (.constant (.text (String.ofList text) (content.letters.head? == some 'u'))) := by
  have hparts : literalParts parse content = some [.text text] := by
    unfold literalParts
    rw [if_neg (by simp [hplain]), hvalue]
    rfl
  unfold literalsExpr
  rw [if_neg (by simp [hbytes])]
  show (([content] : List RawLiteral).mapM (literalParts parse) >>= _) = _
  rw [List.mapM_cons, hparts]
  simp [hplain]

/-- A literal stands alone where none follows. -/
theorem run_adjacentLiterals (hcloses : (Cursor.mk rest q).next.closes = true) (fuel : Nat) :
    (adjacentLiterals (fuel + 2)).run ⟨⟨.literal content, p, q⟩ :: rest, stop⟩
      = some ([content], ⟨rest, q⟩) := by
  have hnone : (adjacentLiterals (fuel + 1)).run ⟨rest, q⟩ = some ([], ⟨rest, q⟩) := by
    unfold adjacentLiterals
    rw [run_bind_of (run_peek _)]
    split
    · rename_i found hnext
      rw [hnext] at hcloses
      exact absurd hcloses nofun
    · rfl
  unfold adjacentLiterals
  rw [run_bind_of (run_peek _)]
  show (advance >>= _ : TokenParser (List RawLiteral)).run _ = _
  rw [run_bind_of (run_advance _ rest stop)]
  show (adjacentLiterals (fuel + 1) >>= _ : TokenParser (List RawLiteral)).run ⟨rest, q⟩ = _
  rw [run_bind_of hnone]
  rfl

theorem run_atom_literal (hvalue : literalsExpr (embedded nested) [content] = some value)
    (hcloses : (Cursor.mk rest q).next.closes = true) :
    (atom nested).run ⟨⟨.literal content, p, q⟩ :: rest, stop⟩ = some (value, ⟨rest, q⟩) := by
  -- the closing token is there as well, so two steps are paid for
  obtain ⟨fuel, hfuel⟩ : ∃ fuel, (Token.mk (.literal content) p q :: rest).length = fuel + 2 := by
    cases rest with
    | nil => exact absurd hcloses nofun
    | cons token others => exact ⟨others.length, rfl⟩
  unfold atom
  rw [run_bind_of (run_peek _)]
  show (remaining >>= _ : TokenParser Expr).run _ = _
  rw [run_bind_of (run_remaining _), hfuel, run_bind_of (run_adjacentLiterals hcloses fuel), hvalue]
  rfl

/-- **A literal is an expression of its own.** -/
theorem alone_literal (hvalue : literalsExpr (embedded nested) [content] = some value)
    (hcloses : (Cursor.mk rest q).next.closes = true) :
    Alone nested ⟨⟨.literal content, p, q⟩ :: rest, stop⟩ value ⟨rest, q⟩ where
  run := run_primary_of_atom (run_atom_literal hvalue hcloses) hcloses
  plain := rfl
  closes := hcloses

/-! ## Calls -/

variable {raw : List Char} {depth : Nat} {cursor after : Cursor}

theorem startsExpression_of_isPlain {kind : Token.Kind} (h : kind.isPlain = true) :
    startsExpression kind = true := by
  cases kind <;> first | rfl | exact absurd h nofun

theorem run_atNamedArgument (hsecond : cursor.second ≠ .operator "=") :
    atNamedArgument.run cursor = some (false, cursor) := by
  obtain ⟨isName, hname⟩ := run_atName cursor
  unfold atNamedArgument
  rw [run_bind_of hname, run_bind_of (run_peekSecond cursor)]
  simp [hsecond]

theorem run_atClause (hcloses : cursor.next.closes = true) :
    atClause.run cursor = some (false, cursor) := by
  have hword : ∀ word, cursor.next ≠ .keyword word := Token.Kind.ne_keyword_of_closes hcloses
  unfold atClause
  rw [run_bind_of (run_peek cursor), run_bind_of (run_peekSecond cursor)]
  simp [hword]

/-- The arguments of a call that are one expression of its own. -/
theorem Alone.run_callArguments
    (h : Alone (exprAt depth) cursor value ⟨⟨.operator ")", s, t⟩ :: rest, stop⟩)
    (hequals : cursor.second ≠ .operator "=") (hassign : cursor.second ≠ .operator ":=") :
    (callArguments (exprAt (depth + 1))).run cursor = some (([value], []), ⟨rest, t⟩) := by
  have hcomma : (Cursor.mk (⟨.operator ")", s, t⟩ :: rest) stop).next ≠ .operator "," :=
    Token.Kind.ne_operator_of_closes h.closes rfl
  have hnamed : (exprAt (depth + 1) .named).run cursor
      = some (value, ⟨⟨.operator ")", s, t⟩ :: rest, stop⟩) := h.run_named hassign
  unfold callArguments
  rw [run_bind_of (run_peek cursor), run_bind_of (run_atNamedArgument hequals),
    if_pos (by simp [startsExpression_of_isPlain h.plain]), run_bind_of hnamed,
    run_bind_of (run_atClause h.closes)]
  show (foundOperator "," >>= _ : TokenParser (List Expr × List Expr)).run _ = _
  rw [run_bind_of (run_foundOperator_of_ne hcomma)]
  show (operator ")" >>= _ : TokenParser (List Expr × List Expr)).run _ = _
  rw [run_bind_of (run_operator rfl)]
  rfl

/-- Nothing is behind a value that a closing token follows. -/
theorem run_trailers_of_closes (hcloses : cursor.next.closes = true) (fuel : Nat) :
    (trailers nested (fuel + 1) value).run cursor = some (value, cursor) := by
  have hsymbol : ∀ symbol, closers.contains symbol = false → cursor.next ≠ .operator symbol :=
    fun _ => Token.Kind.ne_operator_of_closes hcloses
  unfold trailers
  rw [run_bind_of (run_foundOperator_of_ne (hsymbol "." rfl))]
  show (foundOperator "(" >>= _ : TokenParser Expr).run cursor = _
  rw [run_bind_of (run_foundOperator_of_ne (hsymbol "(" rfl))]
  show (foundOperator "[" >>= _ : TokenParser Expr).run cursor = _
  rw [run_bind_of (run_foundOperator_of_ne (hsymbol "[" rfl))]
  rfl

theorem run_atom_name : (atom nested).run ⟨⟨.name raw, p, q⟩ :: rest, stop⟩
    = some (.name (identifier raw), ⟨rest, q⟩) := by
  unfold atom
  rw [run_bind_of (run_peek _)]
  rfl

/-- ASCII characters are in normal form. -/
theorem identifier_of_ascii {name : String} (h : name.toList.all (·.toNat < 0x80) = true) :
    identifier name.toList = name := by
  unfold identifier Unicode.normalForm
  rw [if_pos h, String.ofList_toList]

theorem run_nameToken : nameToken.run ⟨⟨.name raw, p, q⟩ :: rest, stop⟩
    = some (identifier raw, ⟨rest, q⟩) := by
  unfold nameToken rawName
  rw [bind_assoc, run_bind_of (run_peek _)]
  rfl

/-- The tokens of names behind points. -/
def pointedKinds (parts : List (List Char)) : List Token.Kind :=
  parts.flatMap fun raw => [.operator ".", .name raw]

/-- The attributes of a value that names behind points spell. -/
def attributes (value : Expr) (parts : List (List Char)) : Expr :=
  parts.foldl (fun base raw => .attribute base (identifier raw)) value

variable {parts : List (List Char)} {points : List Token}

theorem length_pointedKinds (parts : List (List Char)) :
    (pointedKinds parts).length = 2 * parts.length := by
  induction parts with
  | nil => rfl
  | cons raw parts ih =>
    show (pointedKinds parts).length + 2 = 2 * (parts.length + 1)
    rw [ih, Nat.mul_add]

/-- **Names behind points are looked up one after the other.** Induction on their number. -/
theorem run_trailers_points (hpoints : points.map (·.kind) = pointedKinds parts) (fuel : Nat) :
    (trailers nested (fuel + parts.length) value).run ⟨points ++ rest, stop⟩
      = (trailers nested fuel (attributes value parts)).run ⟨rest, stopBehind points stop⟩ := by
  induction parts generalizing points value stop with
  | nil =>
    rw [List.map_eq_nil_iff.mp hpoints]
    rfl
  | cons raw parts ih =>
    obtain ⟨⟨_, p, q⟩, _, rfl, rfl, hbehind⟩ := List.map_eq_cons_iff.mp hpoints
    obtain ⟨⟨_, r, s⟩, points, rfl, rfl, hrest⟩ := List.map_eq_cons_iff.mp hbehind
    have hname : nameToken.run ⟨⟨.name raw, r, s⟩ :: (points ++ rest), q⟩
        = some (identifier raw, ⟨points ++ rest, s⟩) := run_nameToken
    rw [List.length_cons, ← Nat.add_assoc, trailers, List.cons_append,
      run_bind_of (run_foundOperator rfl)]
    show (nameToken >>= _ : TokenParser Expr).run ⟨_, q⟩ = _
    rw [List.cons_append, run_bind_of hname]
    exact ih hrest

/-- What follows a name, in a call of it, goes on with the name. -/
theorem exists_next_eq_operator {opening : Token} (hopening : opening.kind = .operator "(")
    (hpoints : points.map (·.kind) = pointedKinds parts) :
    ∃ symbol, (Cursor.mk (points ++ opening :: rest) stop).next = .operator symbol
      ∧ [".", "(", "["].contains symbol = true := by
  cases parts with
  | nil =>
    rw [List.map_eq_nil_iff.mp hpoints]
    exact ⟨"(", hopening, by decide⟩
  | cons raw parts =>
    obtain ⟨point, others, rfl, hpoint, -⟩ := List.map_eq_cons_iff.mp hpoints
    exact ⟨".", hpoint, by decide⟩

/-- A literal in parentheses calls what stands in front of it. -/
theorem run_trailers_call {callee : Expr} {o : Position}
    (hvalue : literalsExpr (embedded (exprAt depth)) [content] = some value)
    (hcloses : (Cursor.mk rest t).next.closes = true) (fuel : Nat) :
    (trailers (exprAt (depth + 1)) (fuel + 2) callee).run
        ⟨⟨.operator "(", o, r⟩ :: ⟨.literal content, r, s⟩ :: ⟨.operator ")", s, t⟩ :: rest, stop⟩
      = some (.call callee [value] [], ⟨rest, t⟩) := by
  have hargument : Alone (exprAt depth)
      ⟨⟨.literal content, r, s⟩ :: ⟨.operator ")", s, t⟩ :: rest, r⟩ value
      ⟨⟨.operator ")", s, t⟩ :: rest, s⟩ := alone_literal hvalue rfl
  have hclosing : ∀ symbol, symbol ≠ ")" → Token.Kind.operator ")" ≠ .operator symbol :=
    fun symbol hne heq => hne (Token.Kind.operator.inj heq).symm
  have harguments := hargument.run_callArguments
    (hclosing "=" (by decide)) (hclosing ":=" (by decide))
  have hpoint : (Cursor.mk (⟨.operator "(", o, r⟩ :: ⟨.literal content, r, s⟩
      :: ⟨.operator ")", s, t⟩ :: rest) stop).next ≠ .operator "." :=
    fun heq => absurd (Token.Kind.operator.inj heq) (by decide)
  unfold trailers
  rw [run_bind_of (run_foundOperator_of_ne hpoint)]
  show (foundOperator "(" >>= _ : TokenParser Expr).run _ = _
  rw [run_bind_of (run_foundOperator rfl)]
  show (callArguments (exprAt (depth + 1)) >>= _ : TokenParser Expr).run ⟨_, r⟩ = _
  rw [run_bind_of harguments]
  exact run_trailers_of_closes hcloses _

/-- **A call of a name with a literal is an expression of its own.** -/
theorem alone_call {o : Position} (hpoints : points.map (·.kind) = pointedKinds parts)
    (hvalue : literalsExpr (embedded (exprAt depth)) [content] = some value)
    (hcloses : (Cursor.mk rest t).next.closes = true) :
    Alone (exprAt (depth + 1))
      ⟨⟨.name raw, p, q⟩ :: (points ++ ⟨.operator "(", o, r⟩ :: ⟨.literal content, r, s⟩
        :: ⟨.operator ")", s, t⟩ :: rest), stop⟩
      (.call (attributes (.name (identifier raw)) parts) [value] []) ⟨rest, t⟩ where
  run := by
    obtain ⟨symbol, hsymbol, hmember⟩ :
        ∃ symbol, (Cursor.mk (points ++ ⟨.operator "(", o, r⟩ :: ⟨.literal content, r, s⟩
            :: ⟨.operator ")", s, t⟩ :: rest) q).next = .operator symbol
          ∧ [".", "(", "["].contains symbol = true := exists_next_eq_operator rfl hpoints
    have hlength : points.length = 2 * parts.length := by
      rw [← length_pointedKinds, ← hpoints, List.length_map]
    -- every name behind a point brings two tokens, and pays for one step
    obtain ⟨fuel, hfuel⟩ : ∃ fuel, (points ++ ⟨.operator "(", o, r⟩ :: ⟨.literal content, r, s⟩
        :: ⟨.operator ")", s, t⟩ :: rest).length = fuel + 2 + parts.length :=
      ⟨parts.length + 1 + rest.length, by simp only [List.length_append, List.length_cons]; omega⟩
    unfold primary
    rw [run_bind_of run_atom_name, run_bind_of (run_peek _), hsymbol]
    show (if [".", "(", "["].contains symbol then _ else _ : TokenParser Expr).run _ = _
    rw [if_pos hmember, run_bind_of (run_remaining _), hfuel, run_trailers_points hpoints]
    exact run_trailers_call hvalue hcloses fuel
  plain := rfl
  closes := hcloses

/-! ## Statements -/

/-- An expression of its own at the end of a line is a statement that is nothing else. -/
theorem Alone.run_simpleStatement (h : Alone (exprAt depth) cursor value after)
    (hnewline : after.next = .newline) :
    (simpleStatement (exprAt (depth + 1))).run cursor = some (some value, after) := by
  have hstars : (exprAt (depth + 1) .stars).run cursor = some (value, after) := h.run_stars
  have hexpression :
      (expressionStatement (exprAt (depth + 1))).run cursor = some (some value, after) := by
    unfold expressionStatement
    rw [run_bind_of hstars, run_bind_of (run_peek after), hnewline]
    rfl
  have hword : ∀ word, cursor.next ≠ .keyword word := Token.Kind.ne_keyword_of_isPlain h.plain
  unfold simpleStatement
  rw [run_bind_of (run_peek cursor)]
  -- every other kind of statement begins with a keyword
  split
  all_goals first | exact hexpression | exact absurd ‹_› (hword _)

variable {token : Token} {others : List Token}

/-- The head of a branching statement has a colon. -/
theorem exists_colon_of_branchingHead [∀ kind, Advances (nested kind)] {u : Unit}
    (h : (branchingHead nested).run cursor = some (u, after)) :
    ∃ token ∈ cursor.rest, token.kind = .operator ":" := by
  unfold branchingHead at h
  rw [run_bind_of (run_peek cursor)] at h
  split at h
  · exact absurd h nofun
  obtain ⟨_, first, hadvance, h⟩ := run_bind_eq_some.mp h
  rw [run_bind_of (run_remaining first)] at h
  obtain ⟨⟨items, trailing⟩, behind, hitems, h⟩ := run_bind_eq_some.mp h
  obtain ⟨taken, htaken, -⟩ : cursor.Reaches behind :=
    (Advances.reaches hadvance).trans (Advances.reaches hitems)
  dsimp only at h
  split at h
  · exact absurd h nofun
  obtain ⟨_, _, hcolon, -⟩ := run_bind_eq_some.mp h
  obtain ⟨token, rest, hrest, hkind, -⟩ := expect_eq_some hcolon
  refine ⟨token, ?_, hkind⟩
  rw [htaken, hrest]
  exact List.mem_append_right taken List.mem_cons_self

/-- What begins with a plain token is no compound statement, if no colon follows: the one compound
statement that begins with a name has a colon in its head. -/
theorem run_compoundStatement_of_isPlain [∀ kind, Advances (nested kind)]
    (hplain : token.kind.isPlain = true) (hcolon : ∀ other ∈ rest, other.kind ≠ .operator ":")
    (suite : TokenParser Unit) :
    (compoundStatement nested depth suite).run ⟨token :: rest, stop⟩
      = some (false, ⟨token :: rest, stop⟩) := by
  have hhead : (branchingHead nested).run ⟨token :: rest, stop⟩ = none := by
    refine Option.eq_none_iff_forall_ne_some.mpr fun outcome hrun => ?_
    obtain ⟨other, hother, hkind⟩ := exists_colon_of_branchingHead hrun
    rcases List.mem_cons.mp hother with rfl | hrest
    · exact Token.Kind.ne_operator_of_isPlain hplain ":" hkind
    · exact hcolon other hrest hkind
  have hword : ∀ word, (Cursor.mk (token :: rest) stop).next ≠ .keyword word :=
    Token.Kind.ne_keyword_of_isPlain hplain
  unfold compoundStatement
  rw [run_bind_of (run_peek _)]
  -- every compound statement but the one that branches begins with a keyword
  split
  all_goals first | exact absurd ‹_› (hword _) | skip
  · show (get >>= _ : TokenParser Bool).run _ = _
    rw [run_bind_of (run_get _), hhead]
    rfl
  · rfl

/-- A line that is an expression of its own is one statement. -/
theorem Alone.run_simpleLine
    (h : Alone (exprAt depth) ⟨token :: others, stop⟩ value ⟨⟨.newline, s, t⟩ :: rest, u⟩)
    (fuel : Nat) :
    (simpleLine (exprAt (depth + 1)) (fuel + 1)).run ⟨token :: others, stop⟩
      = some ([⟨some value, token.start, u, none⟩], ⟨rest, u⟩) := by
  have hsemicolon : (Cursor.mk (⟨.newline, s, t⟩ :: rest) u).next ≠ .operator ";" := nofun
  unfold simpleLine
  rw [run_bind_of (run_start token others stop), run_bind_of (h.run_simpleStatement rfl),
    run_bind_of (run_get _)]
  show (foundOperator ";" >>= _ : TokenParser (List ParsedStatement)).run _ = _
  rw [run_bind_of (run_foundOperator_of_ne hsemicolon)]
  show (expect .newline >>= _ : TokenParser (List ParsedStatement)).run _ = _
  rw [run_bind_of (run_expect ⟨.newline, s, t⟩ rest u)]
  rfl

/-- **So is a line of a program.** -/
theorem Alone.run_statementLine (hcolon : ∀ other ∈ others, other.kind ≠ .operator ":")
    (h : Alone (exprAt depth) ⟨token :: others, stop⟩ value ⟨⟨.newline, s, t⟩ :: rest, u⟩)
    (levels : Nat) (suite : TokenParser Unit) :
    (statementLine (exprAt (depth + 1)) levels suite).run ⟨token :: others, stop⟩
      = some ([⟨some value, token.start, u, none⟩], ⟨rest, u⟩) := by
  have hsign : (Cursor.mk (token :: others) stop).next ≠ .operator "@" :=
    Token.Kind.ne_operator_of_isPlain h.plain _
  unfold statementLine
  rw [run_bind_of (run_start _ others stop), run_bind_of (run_peek _), if_neg hsign,
    run_bind_of (run_compoundStatement_of_isPlain h.plain hcolon suite)]
  show (remaining >>= _ : TokenParser (List ParsedStatement)).run _ = _
  rw [run_bind_of (run_remaining _)]
  exact h.run_simpleLine others.length

/-- **A text that is one such line is one statement.** -/
theorem parseStatements_of_alone {text : List Char}
    (htokens : tokens? text = some (token :: others))
    (hcolon : ∀ other ∈ others, other.kind ≠ .operator ":")
    (h : Alone (exprAt (text.length + 1)) ⟨token :: others, ⟨1, 0⟩⟩ value
      ⟨[⟨.newline, s, t⟩, ⟨.finish, u, u⟩], stop⟩) :
    parseStatements text = some [⟨some value, token.start, stop, none⟩] := by
  have hplain : (Cursor.mk (token :: others) ⟨1, 0⟩).next ≠ .finish := by
    intro hfinish
    have hkind : Token.Kind.isPlain .finish = true := hfinish ▸ h.plain
    exact absurd hkind nofun
  have hline := h.run_statementLine hcolon (text.length + 2)
    (suiteAt (exprAt (text.length + 2)) (text.length + 2))
  have hrun : (statementsUpTo .finish
        (statementLine (exprAt (text.length + 2)) (text.length + 2)
          (suiteAt (exprAt (text.length + 2)) (text.length + 2)))
        (others.length + 2)).run ⟨token :: others, ⟨1, 0⟩⟩
      = some ([⟨some value, token.start, stop, none⟩], ⟨[], stop⟩) := by
    unfold statementsUpTo
    rw [run_bind_of (run_found_of_ne hplain)]
    show (statementLine _ _ _ >>= _ : TokenParser (List ParsedStatement)).run _ = _
    rw [run_bind_of hline]
    rfl
  unfold parseStatements
  rw [htokens]
  show ((statementsUpTo .finish _ (others.length + 2)).run _ >>= _) = _
  rw [hrun]
  rfl

end ExpectFile.Grammar
