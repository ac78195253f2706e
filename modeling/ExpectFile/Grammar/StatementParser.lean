import ExpectFile.Grammar.PatternParser

/-!
# Parsing statements

The top-level statements of a program. Of a statement is kept where it starts and stops, its
expression if it is nothing but one, and where the expression of its first decorator starts. What
stands inside compound statements is checked and not kept.

A statement goes from its first token to the last one that is visible. The semicolon between two
simple statements belongs to neither; the one at the end of a compound statement whose body stands
on its line belongs to it. A decorated definition starts behind its decorators.
-/

namespace ExpectFile.Grammar

open TokenParser

/-- A top-level statement in its place. -/
structure ParsedStatement where
  /-- The expression, of a statement that is nothing else. -/
  expression : Option Expr
  start : Position
  stop : Position
  /-- Where the expression of the first decorator starts, parentheses around it apart. -/
  decorator : Option Position

/-! ## Simple statements -/

/-- What is assigned: a list of values, or one from outside the generator. -/
def assignedValue (nested : Nested) : TokenParser Expr := do
  if (← peek) = .keyword "yield" then nested .yield else nested .stars

/-- The rest of an assignment from its first equals sign on. -/
def assignments (nested : Nested) : (fuel : Nat) → (target : Expr) → TokenParser Unit
  | 0, _ => failure
  | fuel + 1, target => do
    if ← foundOperator "=" then
      if !target.isTarget then failure
      let value ← assignedValue nested
      assignments nested fuel value
    else return ()

/-- The operators that assign the result of an operation. -/
def operatingAssignments : List String :=
  ["+=", "-=", "*=", "@=", "/=", "%=", "&=", "|=", "^=", "<<=", ">>=", "**=", "//="]

/-- A statement that begins with an expression: an assignment of any kind, or just the expression,
which is the result then. -/
def expressionStatement (nested : Nested) : TokenParser (Option Expr) := do
  let value ← nested .stars
  match ← peek with
  | .operator symbol =>
    if symbol = "=" then
      assignments nested ((← remaining) + 1) value
      return none
    else if symbol = ":" then
      if !value.isSingleTarget then failure
      advance
      let _ ← nested .expression
      if ← foundOperator "=" then
        let _ ← assignedValue nested
      return none
    else if operatingAssignments.contains symbol then
      if !value.isSingleTarget then failure
      advance
      let _ ← assignedValue nested
      return none
    else return some value
  | _ => return some value

/-- A dotted name. -/
def dottedName : TokenParser Unit := do
  let _ ← rawName
  let _ ← attributeNames ((← remaining) + 1)

/-- A name that something is called by, if one follows. -/
def aliasName : TokenParser Unit := do
  if ← foundKeyword "as" then
    let _ ← rawName
  else return ()

/-- The points in front of the name of a module, and whether there is one. -/
def leadingPoints : (fuel : Nat) → TokenParser Bool
  | 0 => failure
  | fuel + 1 => do
    if (← peek) = .operator "." || (← peek) = .operator "..." then
      advance
      let _ ← leadingPoints fuel
      return true
    else return false

/-- What is imported from a module. -/
def importedNames : TokenParser Unit := do
  let item : TokenParser Unit := do
    let _ ← rawName
    aliasName
  if ← foundOperator "*" then return ()
  else if ← foundOperator "(" then
    let _ ← commaItems startsExpression item (← remaining)
    operator ")"
  else
    let _ ← commaList item (← remaining)

/-- A simple statement, and its expression if it is nothing else. -/
def simpleStatement (nested : Nested) : TokenParser (Option Expr) := do
  match ← peek with
  | .keyword "yield" => return some (← nested .yield)
  | .keyword "pass" | .keyword "break" | .keyword "continue" =>
    advance
    return none
  | .keyword "return" =>
    advance
    if startsItem (← peek) then
      let _ ← nested .stars
    return none
  | .keyword "raise" =>
    advance
    if startsExpression (← peek) then
      let _ ← nested .expression
      if ← foundKeyword "from" then
        let _ ← nested .expression
    return none
  | .keyword "assert" =>
    advance
    let _ ← nested .expression
    if ← foundOperator "," then
      let _ ← nested .expression
    return none
  | .keyword "del" =>
    advance
    let target ← nested .stars
    if target.isDeletable then return none else failure
  | .keyword "global" | .keyword "nonlocal" =>
    advance
    let _ ← commaList rawName (← remaining)
    return none
  | .keyword "import" =>
    advance
    let item : TokenParser Unit := do
      dottedName
      aliasName
    let _ ← commaList item (← remaining)
    return none
  | .keyword "from" =>
    advance
    let hasPoints ← leadingPoints (← remaining)
    if !hasPoints || (← atName) then dottedName
    keyword "import"
    importedNames
    return none
  | _ => expressionStatement nested

/-- The simple statements of a line, separated by semicolons. -/
def simpleLine (nested : Nested) : (fuel : Nat) → TokenParser (List ParsedStatement)
  | 0 => failure
  | fuel + 1 => do
    let start ← TokenParser.start
    let expression ← simpleStatement nested
    let statement : ParsedStatement := ⟨expression, start, (← get).stop, none⟩
    if ← foundOperator ";" then
      if ← found .newline then return [statement]
      else return statement :: (← simpleLine nested fuel)
    else
      expect .newline
      return [statement]

/-! ## Compound statements -/

/-- A colon and the body behind it. -/
def body (suite : TokenParser Unit) : TokenParser Unit := do
  operator ":"
  suite

/-- An alternative body behind the word `else`, if there is one. -/
def elseBody (suite : TokenParser Unit) : TokenParser Unit := do
  if ← foundKeyword "else" then body suite else return ()

/-- The branches of a conditional statement after the first condition. -/
def branches (nested : Nested) (suite : TokenParser Unit) : (fuel : Nat) → TokenParser Unit
  | 0 => failure
  | fuel + 1 => do
    body suite
    if ← foundKeyword "elif" then
      let _ ← nested .named
      branches nested suite fuel
    else elseBody suite

/-- A loop over values, after its first word. -/
def forLoop (nested : Nested) (suite : TokenParser Unit) : TokenParser Unit := do
  let _ ← loopTargets nested
  keyword "in"
  let _ ← nested .stars
  body suite
  elseBody suite

/-- A context, and what it is assigned to. -/
def contextItem (nested : Nested) : TokenParser Unit := do
  let _ ← nested .expression
  if ← foundKeyword "as" then
    let _ ← foundOperator "*"
    let target ← nested .bitOr
    if target.isPlainTarget then return () else failure
  else return ()

/-- A statement in a context, after its first word. The contexts may be put in parentheses; if
what stands in parentheses is no list of contexts, it is an expression. -/
def contextStatement (nested : Nested) (suite : TokenParser Unit) : TokenParser Unit := do
  let enclosed : TokenParser Unit := do
    operator "("
    let _ ← commaItems startsExpression (contextItem nested) (← remaining)
    operator ")"
    operator ":"
  let plain : TokenParser Unit := do
    let _ ← commaList (contextItem nested) (← remaining)
    operator ":"
  enclosed <|> plain
  suite

/-- The handlers of a guarded statement, all of one kind: for single exceptions, or for groups,
with a star. -/
def handlers (nested : Nested) (suite : TokenParser Unit) (groups : Bool) :
    (fuel : Nat) → TokenParser Unit
  | 0 => failure
  | fuel + 1 => do
    if ← foundKeyword "except" then
      if groups then operator "*"
      if groups || (← peek) ≠ .operator ":" then
        let _ ← nested .expression
        aliasName
      body suite
      handlers nested suite groups fuel
    else return ()

/-- A guarded statement after its first word. -/
def guardedStatement (nested : Nested) (suite : TokenParser Unit) : TokenParser Unit := do
  body suite
  if ← foundKeyword "finally" then body suite
  else if (← peek) = .keyword "except" then
    let groups := (← peekSecond) = .operator "*"
    handlers nested suite groups (← remaining)
    elseBody suite
    if ← foundKeyword "finally" then body suite else return ()
  else failure

/-- A function after its first word. -/
def functionDefinition (nested : Nested) (suite : TokenParser Unit) : TokenParser Unit := do
  let _ ← rawName
  operator "("
  let _ ← parameters nested true ")"
  operator ")"
  if ← foundOperator "->" then
    let _ ← nested .expression
  body suite

/-- A class after its first word. -/
def classDefinition (nested : Nested) (suite : TokenParser Unit) : TokenParser Unit := do
  let _ ← rawName
  if ← foundOperator "(" then
    let _ ← argumentsFrom nested (← remaining) .positional
  body suite

/-- The cases of a branching statement up to the end of its body. -/
def cases (nested : Nested) (depth : Nat) (suite : TokenParser Unit) :
    (fuel : Nat) → TokenParser Unit
  | 0 => failure
  | fuel + 1 => do
    if (← peek) ≠ .name "case".toList then failure
    advance
    openSequence (patternAt nested depth)
    if ← foundKeyword "if" then
      let _ ← nested .named
    body suite
    if ← found .dedent then return () else cases nested depth suite fuel

/-- The head of a branching statement: the word `match`, a subject, and the start of a block. The
word is a name as well, so whether this is such a statement is known only at the end of the
line. -/
def branchingHead (nested : Nested) : TokenParser Unit := do
  if (← peek) ≠ .name "match".toList then failure
  advance
  let (items, trailing) ← commaItems startsItem (starNamed nested) (← remaining)
  match items, trailing with
  | [.starred _], false => failure
  | _, _ =>
    operator ":"
    expect .newline

/-- Where the expression at the front starts, parentheses around the whole of it apart. `closing`
is what has to follow the whole. -/
def innerStart (nested : Nested) : (fuel : Nat) → (closing : Token.Kind) → TokenParser Position
  | 0, _ => TokenParser.start
  | fuel + 1, closing => do
    let enclosed : TokenParser Unit := do
      operator "("
      let _ ← if (← peek) = .keyword "yield" then nested .yield else nested .named
      operator ")"
      if (← peek) = closing then return () else failure
    if ← passes enclosed then
      advance
      innerStart nested fuel (.operator ")")
    else TokenParser.start

/-- The lines of decorators. -/
def decorators (nested : Nested) : (fuel : Nat) → TokenParser Unit
  | 0 => failure
  | fuel + 1 => do
    if ← foundOperator "@" then
      let _ ← nested .named
      expect .newline
      decorators nested fuel
    else return ()

/-- A definition without its decorators, if one is next. -/
def definition (nested : Nested) (suite : TokenParser Unit) : TokenParser Unit := do
  if ← foundKeyword "def" then functionDefinition nested suite
  else if ← foundKeyword "class" then classDefinition nested suite
  else
    keyword "async"
    keyword "def"
    functionDefinition nested suite

/-- A definition with decorators, from the first of them on. -/
def decoratedDefinition (nested : Nested) (suite : TokenParser Unit) :
    TokenParser ParsedStatement := do
  operator "@"
  let cursor ← get
  let decorator := ((innerStart nested cursor.rest.length .newline).run cursor).map (·.1)
  let _ ← nested .named
  expect .newline
  decorators nested (← remaining)
  let start ← TokenParser.start
  definition nested suite
  return ⟨none, start, (← get).stop, decorator⟩

/-- A compound statement without decorators. The result says whether there is one; if not, no
token has been taken. -/
def compoundStatement (nested : Nested) (depth : Nat) (suite : TokenParser Unit) :
    TokenParser Bool := do
  match ← peek with
  | .keyword "if" =>
    advance
    let _ ← nested .named
    branches nested suite (← remaining)
    return true
  | .keyword "while" =>
    advance
    let _ ← nested .named
    body suite
    elseBody suite
    return true
  | .keyword "for" =>
    advance
    forLoop nested suite
    return true
  | .keyword "with" =>
    advance
    contextStatement nested suite
    return true
  | .keyword "try" =>
    advance
    guardedStatement nested suite
    return true
  | .keyword "def" | .keyword "class" =>
    definition nested suite
    return true
  | .keyword "async" =>
    match ← peekSecond with
    | .keyword "for" =>
      advance
      advance
      forLoop nested suite
    | .keyword "with" =>
      advance
      advance
      contextStatement nested suite
    | _ => definition nested suite
    return true
  | .name _ =>
    let cursor ← get
    match (branchingHead nested).run cursor with
    | some (_, after) =>
      set after
      expect .indent
      cases nested depth suite (← remaining)
      return true
    | none => return false
  | _ => return false

/-- The statements of a line, or a compound statement. -/
def statementLine (nested : Nested) (depth : Nat) (suite : TokenParser Unit) :
    TokenParser (List ParsedStatement) := do
  let start ← TokenParser.start
  if (← peek) = .operator "@" then return [← decoratedDefinition nested suite]
  else if ← compoundStatement nested depth suite then
    return [⟨none, start, (← get).stop, none⟩]
  else simpleLine nested (← remaining)

/-- Statements up to a mark, which is taken. -/
def statementsUpTo (mark : Token.Kind) (line : TokenParser (List ParsedStatement)) :
    (fuel : Nat) → TokenParser (List ParsedStatement)
  | 0 => failure
  | fuel + 1 => do
    if ← found mark then return []
    else
      let first ← line
      let others ← statementsUpTo mark line fuel
      return first ++ others

/-- The body of a compound statement: an indented block, or simple statements on the same line.
Bodies are nested at most `depth` levels deep. -/
def suiteAt (nested : Nested) : (depth : Nat) → TokenParser Unit
  | 0 => failure
  | depth + 1 => do
    if ← found .newline then
      expect .indent
      let line := statementLine nested depth (suiteAt nested depth)
      let first ← line
      let others ← statementsUpTo .dedent line (← remaining)
      let _ := first ++ others
    else
      let _ ← simpleLine nested (← remaining)

/-- The top-level statements of a program. Nothing in a text is nested deeper than the text is
long. -/
def parseStatements (text : List Char) : Option (List ParsedStatement) := do
  let tokens ← tokens? text
  let depth := text.length + 2
  let nested := exprAt depth
  let line := statementLine nested depth (suiteAt nested depth)
  let (statements, _) ← (statementsUpTo .finish line (tokens.length + 1)).run ⟨tokens, ⟨1, 0⟩⟩
  return statements

end ExpectFile.Grammar
