import ExpectFile.Proofs.Grammar.Openings

/-!
# Which tokens a statement is read from

The parser goes through the tokens of a text once, and every statement is read from tokens of its
own: it starts where the first of them starts and stops where the last visible one stops. A decorated
definition is read from its `@` on, though it starts only behind its decorators; of them is kept where
the expression of the first starts, and nothing but opening parentheses stands between its `@` and
this expression.

* **`exists_innerStart`** — looking for the expression of a decorator passes parentheses only.
* **`ParsedStatement.Reads`** — the tokens of one statement; **`ReadsAll`** — of a list of them.
* **`readsAll_of_parseStatements`** — the statements of a text.
-/

namespace ExpectFile.Grammar

open TokenParser

/-! ## Tokens of a statement -/

/-- `parsed.Reads before after`: the statement is read off the front of the tokens `before`, and the
tokens `after` are left. -/
inductive ParsedStatement.Reads (parsed : ParsedStatement) : (before after : List Token) → Prop where
  | plain {first : Token} {more after : List Token}
      (hbegins : first.kind.begins = true)
      (hstart : parsed.start = first.start)
      (hstop : parsed.stop = stopBehind more first.stop)
      (hdecorator : parsed.decorator = none) :
      parsed.Reads (first :: (more ++ after)) after
  | decorated {sign opened first : Token} {parens others lead more after : List Token}
      (hsign : sign.kind = .operator "@")
      (hparens : ∀ paren ∈ parens, paren.kind = .operator "(")
      (hopened : opened.kind.begins = true)
      (hdecorator : parsed.decorator = some opened.start)
      (hsame : parens ++ opened :: others = lead ++ first :: (more ++ after))
      (hbegins : first.kind.begins = true)
      (hstart : parsed.start = first.start)
      (hstop : parsed.stop = stopBehind more first.stop) :
      parsed.Reads (sign :: (parens ++ opened :: others)) after

/-- What is left is the end of what there was. -/
theorem ParsedStatement.Reads.exists_eq_append {parsed : ParsedStatement} {before after : List Token}
    (h : parsed.Reads before after) : ∃ taken, before = taken ++ after := by
  cases h with
  | @plain first more => exact ⟨first :: more, rfl⟩
  | @decorated sign opened first parens others lead more _ _ _ _ _ hsame =>
    exact ⟨sign :: (lead ++ first :: more), by simp [hsame]⟩

/-- `ReadsAll before parsed after`: the statements are read one after the other from the tokens
`before`, perhaps with other tokens in front of them, and the tokens `after` are left. -/
inductive ReadsAll : (before : List Token) → List ParsedStatement → (after : List Token) → Prop where
  | nil (skipped after : List Token) : ReadsAll (skipped ++ after) [] after
  | cons {before between after : List Token} {first : ParsedStatement} {rest : List ParsedStatement}
      (skipped : List Token) (hfirst : first.Reads before between)
      (hrest : ReadsAll between rest after) : ReadsAll (skipped ++ before) (first :: rest) after

namespace ReadsAll

variable {before between after : List Token} {first second : List ParsedStatement}

theorem refl (after : List Token) : ReadsAll after [] after := .nil [] after

/-- More tokens may stand in front. -/
theorem skip (skipped : List Token) (h : ReadsAll before first after) :
    ReadsAll (skipped ++ before) first after := by
  cases h with
  | nil others after =>
    rw [← List.append_assoc]
    exact .nil (skipped ++ others) after
  | cons others hfirst hrest =>
    rw [← List.append_assoc]
    exact .cons (skipped ++ others) hfirst hrest

theorem append (h : ReadsAll before first between) (hnext : ReadsAll between second after) :
    ReadsAll before (first ++ second) after := by
  induction h with
  | nil skipped between => exact hnext.skip skipped
  | cons skipped hfirst _ ih => exact .cons skipped hfirst (ih hnext)

theorem single {parsed : ParsedStatement} (h : parsed.Reads before after) :
    ReadsAll before [parsed] after := .cons [] h (refl after)

/-- Tokens may be taken behind the statements. -/
theorem of_reaches {cursor last : Cursor} (h : ReadsAll before first cursor.rest)
    (hnext : cursor.Reaches last) : ReadsAll before first last.rest := by
  obtain ⟨taken, htaken, -⟩ := hnext
  have hlast : ReadsAll cursor.rest [] last.rest := by
    rw [htaken]
    exact .nil taken last.rest
  simpa using h.append hlast

/-- And in front of them. -/
theorem behind {cursor last : Cursor} (hfront : last.Reaches cursor)
    (h : ReadsAll cursor.rest first after) : ReadsAll last.rest first after := by
  obtain ⟨taken, htaken, -⟩ := hfront
  rw [htaken]
  exact h.skip taken

end ReadsAll

/-! ## The expression of a decorator -/

variable {nested : Nested} {cursor after : Cursor}

theorem run_passes {α : Type} (parser : TokenParser α) (cursor : Cursor) :
    (passes parser).run cursor = some ((parser.run cursor).isSome, cursor) := rfl

theorem exists_rest_eq_cons (h : cursor.next.begins = true) :
    ∃ token rest, cursor.rest = token :: rest ∧ token.kind.begins = true := by
  obtain ⟨rest, stop⟩ := cursor
  cases rest with
  | nil => exact absurd h nofun
  | cons token rest => exact ⟨token, rest, rfl, h⟩

theorem Cursor.Enters.begins (h : cursor.Enters after) : cursor.next.begins = true := by
  obtain ⟨token, taken, hrest, hbegins, -⟩ := h
  rw [Cursor.next, hrest]
  exact hbegins

/-- At a parser's start there is a token. -/
theorem start_eq_some {p : Position} (h : TokenParser.start.run cursor = some (p, after)) :
    after = cursor ∧ ∃ token rest, cursor.rest = token :: rest ∧ p = token.start := by
  obtain ⟨rest, stop⟩ := cursor
  cases rest with
  | nil => exact absurd h nofun
  | cons token rest =>
    cases h
    exact ⟨rfl, token, rest, rfl, rfl⟩

variable [∀ kind, Opens (nested kind)]

/-- **Looking for the expression of a decorator** passes nothing but opening parentheses. Induction
on their number; behind each of them an expression begins, because what they enclose is one. -/
theorem exists_innerStart (fuel : Nat) (closing : Token.Kind) (hbegins : cursor.next.begins = true) :
    ∃ parens opened others last,
      (innerStart nested fuel closing).run cursor = some (opened.start, last)
        ∧ cursor.rest = parens ++ opened :: others
        ∧ (∀ paren ∈ parens, paren.kind = .operator "(") ∧ opened.kind.begins = true := by
  induction fuel generalizing cursor closing with
  | zero =>
    obtain ⟨token, rest, hrest, htoken⟩ := exists_rest_eq_cons hbegins
    obtain ⟨_, stop⟩ := cursor
    cases hrest
    exact ⟨[], token, rest, _, rfl, rfl, nofun, htoken⟩
  | succ fuel ih =>
    unfold innerStart
    simp only [run_bind_of (run_passes _ cursor)]
    split
    -- what is in parentheses has been tried: it begins with an expression again
    · rename_i hpasses
      obtain ⟨⟨_, last⟩, henclosed⟩ := Option.isSome_iff_exists.mp hpasses
      obtain ⟨_, inside, hparen, hinside⟩ := run_bind_eq_some.mp henclosed
      obtain ⟨paren, rest, hrest, hkind, rfl⟩ := expect_eq_some hparen
      have hnext : (Cursor.behind paren rest cursor.stop).next.begins = true :=
        (Opens.enters hinside).begins
      obtain ⟨parens, opened, others, last, hrun, hsame, hparens, hopened⟩ :=
        ih (.operator ")") hnext
      refine ⟨paren :: parens, opened, others, last, ?_, ?_, ?_, hopened⟩
      · obtain ⟨_, stop⟩ := cursor
        cases hrest
        rw [run_bind_of (run_advance _ _ _)]
        exact hrun
      · rw [hrest, List.cons_append, ← hsame]
        rfl
      · exact List.forall_mem_cons.mpr ⟨hkind, hparens⟩
    · obtain ⟨token, rest, hrest, htoken⟩ := exists_rest_eq_cons hbegins
      obtain ⟨_, stop⟩ := cursor
      cases hrest
      exact ⟨[], token, rest, _, rfl, rfl, nofun, htoken⟩

/-! ## Statements -/

variable [∀ kind, Advances (nested kind)] {suite : TokenParser Unit} [Advances suite]
  {statements : List ParsedStatement}

/-- A statement without decorators, of which nothing but its first token and its end is known. -/
theorem reads_of_enters {expression : Option Expr} {token : Token} {rest : List Token}
    (hrest : cursor.rest = token :: rest) (h : cursor.Enters after) :
    ParsedStatement.Reads ⟨expression, token.start, after.stop, none⟩ cursor.rest after.rest := by
  obtain ⟨first, taken, hcursor, hbegins, hstop⟩ := h
  obtain ⟨rfl, -⟩ : token = first ∧ rest = taken ++ after.rest :=
    List.cons.inj (hrest.symm.trans hcursor)
  rw [hcursor]
  exact .plain hbegins rfl hstop rfl

/-- The statements of a line are read one after the other. Induction on their number; only a
semicolon or the end of the line stands behind each. -/
theorem readsAll_simpleLine {fuel : Nat}
    (h : (simpleLine nested fuel).run cursor = some (statements, after)) :
    ReadsAll cursor.rest statements after.rest := by
  induction fuel generalizing cursor statements with
  | zero => exact absurd h nofun
  | succ fuel ih =>
    unfold simpleLine at h
    obtain ⟨p, _, hstart, h⟩ := run_bind_eq_some.mp h
    obtain ⟨rfl, token, rest, hrest, rfl⟩ := start_eq_some hstart
    obtain ⟨expression, behind, hstatement, h⟩ := run_bind_eq_some.mp h
    have hfirst : ParsedStatement.Reads ⟨expression, token.start, behind.stop, none⟩ _ _ :=
      reads_of_enters hrest (Opens.enters hstatement)
    rw [run_bind_of (run_get behind)] at h
    obtain ⟨isSemicolon, front, hsemicolon, h⟩ := run_bind_eq_some.mp h
    have hfront : behind.Reaches front := Advances.reaches hsemicolon
    split at h
    · obtain ⟨isNewline, next, hnewline, h⟩ := run_bind_eq_some.mp h
      have hnext : behind.Reaches next := hfront.trans (Advances.reaches hnewline)
      split at h
      · cases h
        exact (ReadsAll.single hfirst).of_reaches hnext
      · obtain ⟨others, last, hothers, h⟩ := run_bind_eq_some.mp h
        cases h
        exact (ReadsAll.single hfirst).append ((ih hothers).behind hnext)
    · obtain ⟨_, last, hnewline, h⟩ := run_bind_eq_some.mp h
      cases h
      exact (ReadsAll.single hfirst).of_reaches (hfront.trans (Advances.reaches hnewline))

/-- **A decorated definition** is read from its `@` on. -/
theorem reads_decoratedDefinition {parsed : ParsedStatement}
    (h : (decoratedDefinition nested suite).run cursor = some (parsed, after)) :
    parsed.Reads cursor.rest after.rest := by
  unfold decoratedDefinition at h
  obtain ⟨_, inside, hsign, h⟩ := run_bind_eq_some.mp h
  obtain ⟨sign, rest, hcursor, hkind, rfl⟩ := expect_eq_some hsign
  have hinside : (Cursor.behind sign rest cursor.stop).rest = rest := rfl
  generalize Cursor.behind sign rest cursor.stop = inside at h hinside
  rw [run_bind_of (run_get _)] at h
  obtain ⟨_, behind, hvalue, h⟩ := run_bind_eq_some.mp h
  obtain ⟨parens, opened, others, last, hinner, hrest, hparens, hopened⟩ :=
    @exists_innerStart nested _ _ inside.rest.length .newline (Opens.enters hvalue).begins
  obtain ⟨_, line, hnewline, h⟩ := run_bind_eq_some.mp h
  rw [run_bind_of (run_remaining line)] at h
  obtain ⟨_, _, hothers, h⟩ := run_bind_eq_some.mp h
  obtain ⟨p, front, hstart, h⟩ := run_bind_eq_some.mp h
  obtain ⟨rfl, token, more, htoken, rfl⟩ := start_eq_some hstart
  obtain ⟨_, back, hdefinition, h⟩ := run_bind_eq_some.mp h
  rw [run_bind_of (run_get back)] at h
  cases h
  -- the decorators, and then the definition from its first token on
  obtain ⟨lead, hlead, -⟩ : inside.Reaches front :=
    ((Advances.reaches hvalue).trans (Advances.reaches hnewline)).trans (Advances.reaches hothers)
  obtain ⟨first, taken, hfront, hbegins, hstop⟩ := Opens.enters hdefinition
  obtain rfl : token = first := (List.cons.inj (htoken.symm.trans hfront)).1
  have hbefore : cursor.rest = sign :: (parens ++ opened :: others) := by
    rw [hcursor, ← hinside, hrest]
  have hsame : parens ++ opened :: others = lead ++ token :: (taken ++ after.rest) := by
    rw [← hrest, hlead, hfront]
  rw [hbefore]
  exact .decorated hkind hparens hopened (congrArg (Option.map (·.1)) hinner) hsame hbegins rfl hstop

/-- **The statements of a line**, or of a compound statement. -/
theorem readsAll_statementLine {depth : Nat}
    (h : (statementLine nested depth suite).run cursor = some (statements, after)) :
    ReadsAll cursor.rest statements after.rest := by
  unfold statementLine at h
  obtain ⟨p, _, hstart, h⟩ := run_bind_eq_some.mp h
  obtain ⟨rfl, token, rest, hrest, rfl⟩ := start_eq_some hstart
  rw [run_bind_of (run_peek _)] at h
  split at h
  · obtain ⟨parsed, last, hparsed, h⟩ := run_bind_eq_some.mp h
    cases h
    exact .single (reads_decoratedDefinition hparsed)
  · obtain ⟨isCompound, last, hcompound, h⟩ := run_bind_eq_some.mp h
    split at h
    · rename_i hisCompound
      subst hisCompound
      rw [run_bind_of (run_get last)] at h
      cases h
      exact .single (reads_of_enters hrest (Opens.enters_compoundStatement hcompound))
    · rw [run_bind_of (run_remaining last)] at h
      exact (readsAll_simpleLine h).behind (Advances.reaches hcompound)

/-- The statements up to a mark. Induction on the number of lines. -/
theorem readsAll_statementsUpTo {mark : Token.Kind} {line : TokenParser (List ParsedStatement)}
    (hline : ∀ {cursor statements after}, line.run cursor = some (statements, after) →
      ReadsAll cursor.rest statements after.rest)
    {fuel : Nat} (h : (statementsUpTo mark line fuel).run cursor = some (statements, after)) :
    ReadsAll cursor.rest statements after.rest := by
  induction fuel generalizing cursor statements with
  | zero => exact absurd h nofun
  | succ fuel ih =>
    unfold statementsUpTo at h
    obtain ⟨isMark, behind, hmark, h⟩ := run_bind_eq_some.mp h
    have hbehind : cursor.Reaches behind := Advances.reaches hmark
    split at h
    · cases h
      exact (ReadsAll.refl _).behind hbehind
    · obtain ⟨first, between, hfirst, h⟩ := run_bind_eq_some.mp h
      obtain ⟨others, last, hothers, h⟩ := run_bind_eq_some.mp h
      cases h
      exact ((hline hfirst).append (ih hothers)).behind hbehind

/-- **The statements of a text** are read from its tokens, one after the other. -/
theorem readsAll_of_parseStatements {text : List Char} {parsed : List ParsedStatement}
    (h : parseStatements text = some parsed) :
    ∃ tokens after, tokens? text = some tokens ∧ ReadsAll tokens parsed after := by
  unfold parseStatements at h
  obtain ⟨tokens, htokens, h⟩ := Option.bind_eq_some_iff.mp h
  obtain ⟨⟨statements, after⟩, hrun, h⟩ := Option.bind_eq_some_iff.mp h
  cases h
  exact ⟨tokens, after.rest, htokens, readsAll_statementsUpTo readsAll_statementLine hrun⟩

end ExpectFile.Grammar
