import ExpectFile.Grammar.Cursor
import ExpectFile.Grammar.Interpolation
import ExpectFile.Grammar.Lexer
import ExpectFile.Unicode.Normal

/-!
# Parsing expressions

One function for each level of binding, from atoms up to lists with stars. They do not call each
other in a circle: what stands inside brackets, or behind an operator that recurses, is parsed by
a function `nested` that is handed in, and `exprAt` ties the knot. Whoever calls `nested` has taken
a token before, so the number of characters of the text bounds the depth.
-/

namespace ExpectFile.Grammar

open TokenParser

/-- The kinds of expression that occur inside others. -/
inductive Category where
  /-- A value: conditional, function, or anything that binds more tightly. -/
  | expression
  /-- A value that may be given a name on the way. -/
  | named
  /-- A list of values, stars allowed, that is a tuple if there is a comma. -/
  | stars
  | yield
  | disjunction
  | inversion
  | bitOr
  | factor
deriving DecidableEq

/-- Parses the expressions inside an expression. -/
abbrev Nested := Category → TokenParser Expr

/-- The identifier that a name spells. -/
def identifier (raw : List Char) : String := String.ofList (Unicode.normalForm raw)

/-- Takes a name. -/
def nameToken : TokenParser String := do
  return identifier (← rawName)

/-- Whether an expression may begin with the token. -/
def startsExpression : Token.Kind → Bool
  | .name _ | .number _ | .literal _ => true
  | .operator symbol => ["(", "[", "\x7b", "-", "+", "~", "..."].contains symbol
  | .keyword word => ["not", "lambda", "await", "None", "True", "False"].contains word
  | _ => false

/-- Whether an item of a list may begin with the token. -/
def startsItem (kind : Token.Kind) : Bool := startsExpression kind || kind == .operator "*"

/-- Whether an argument of a call, or an entry of a table, may begin with the token. -/
def startsArgument (kind : Token.Kind) : Bool := startsItem kind || kind == .operator "**"

/-- One item is itself, unless a comma follows it. -/
def asTuple : List Expr × Bool → Expr
  | ([item], false) => item
  | (items, _) => .tuple items

/-! ## Operators from the left -/

/-- Operands of one level, grouped from the left. -/
def leftChain (level : Level) (symbols : List String) (operand : TokenParser Expr) :
    (fuel : Nat) → Expr → TokenParser Expr
  | 0, _ => failure
  | fuel + 1, left => do
    match ← peek with
    | .operator symbol =>
      if symbols.contains symbol then do
        advance
        let right ← operand
        leftChain level symbols operand fuel (.binary level symbol left right)
      else return left
    | _ => return left

/-- A level of operators that group from the left. -/
def leftLevel (level : Level) (symbols : List String) (operand : TokenParser Expr) :
    TokenParser Expr := do
  let first ← operand
  match ← peek with
  | .operator symbol =>
    if symbols.contains symbol then leftChain level symbols operand (← remaining) first
    else return first
  | _ => return first

/-- The operands after the first one, each behind the same keyword. -/
def keywordChain (word : String) (operand : TokenParser Expr) :
    (fuel : Nat) → TokenParser (List Expr)
  | 0 => failure
  | fuel + 1 => do
    if ← foundKeyword word then
      let next ← operand
      let others ← keywordChain word operand fuel
      return next :: others
    else return []

/-- A level whose operands a keyword joins. -/
def keywordLevel (level : Level) (word : String) (operand : TokenParser Expr) :
    TokenParser Expr := do
  let first ← operand
  if (← peek) = .keyword word then
    let others ← keywordChain word operand (← remaining)
    return .boolean level word (first :: others)
  else return first

/-! ## Pieces inside brackets -/

/-- An item of a list: a value that may be named, or several behind a star. -/
def starNamed (nested : Nested) : TokenParser Expr := do
  if ← foundOperator "*" then return .starred (← nested .bitOr) else nested .named

/-- What values are assigned to in a loop: items up to the word `in`. -/
def loopTargets (nested : Nested) : TokenParser Expr := do
  let item : TokenParser Expr := do
    if ← foundOperator "*" then return .starred (← nested .bitOr) else nested .bitOr
  let target := asTuple (← commaItems startsItem item (← remaining))
  if target.isTarget then return target else failure

/-- The conditions of a clause. -/
def clauseConditions (nested : Nested) : (fuel : Nat) → TokenParser (List Expr)
  | 0 => failure
  | fuel + 1 => do
    if ← foundKeyword "if" then
      let condition ← nested .disjunction
      return condition :: (← clauseConditions nested fuel)
    else return []

/-- Whether a clause of a comprehension begins here. -/
def atClause : TokenParser Bool := do
  let first ← peek
  let second ← peekSecond
  return first = .keyword "for" || (first = .keyword "async" && second = .keyword "for")

/-- The clauses of a comprehension, perhaps none. -/
def clauses (nested : Nested) : (fuel : Nat) → TokenParser (List Expr)
  | 0 => failure
  | fuel + 1 => do
    if ← atClause then
      let isAsync ← foundKeyword "async"
      keyword "for"
      let target ← loopTargets nested
      keyword "in"
      let source ← nested .disjunction
      let conditions ← clauseConditions nested (← remaining)
      let others ← clauses nested fuel
      return .clause isAsync target source conditions :: others
    else return []

/-- The clauses of a comprehension, at least one. -/
def someClauses (nested : Nested) : TokenParser (List Expr) := do
  match ← clauses nested (← remaining) with
  | [] => failure
  | found => return found

/-- What follows an opening parenthesis: nothing, a tuple, a comprehension, or a value whose
parentheses leave no trace. -/
def parenthesized (nested : Nested) : TokenParser Expr := do
  if ← foundOperator ")" then return .tuple []
  else if (← peek) = .keyword "yield" then
    let value ← nested .yield
    operator ")"
    return value
  else
    let first ← starNamed nested
    let isStarred := match first with
      | .starred _ => true
      | _ => false
    if ← foundOperator "," then
      let others ←
        if startsItem (← peek) then
          Prod.fst <$> commaItems startsItem (starNamed nested) (← remaining)
        else pure []
      operator ")"
      return .tuple (first :: others)
    else if isStarred then failure
    else if ← atClause then
      let found ← someClauses nested
      operator ")"
      return .comprehension .generator first found
    else
      operator ")"
      return first

/-- What follows an opening square bracket of a list. -/
def bracketed (nested : Nested) : TokenParser Expr := do
  if ← foundOperator "]" then return .list []
  else
    let (items, trailing) ← commaItems startsItem (starNamed nested) (← remaining)
    match items, trailing with
    | [.starred value], false =>
      operator "]"
      return .list [.starred value]
    | [element], false =>
      if ← atClause then
        let found ← someClauses nested
        operator "]"
        return .comprehension .list element found
      else
        operator "]"
        return .list [element]
    | items, _ =>
      operator "]"
      return .list items

/-- An entry of a table: a key and its value, or another table behind two stars. -/
def tableEntry (nested : Nested) : TokenParser Expr := do
  if ← foundOperator "**" then return .entry none (← nested .bitOr)
  else
    let key ← nested .expression
    operator ":"
    return .entry (some key) (← nested .expression)

/-- The rest of a table after its first entry. -/
def tableRest (nested : Nested) (first : Expr) : TokenParser Expr := do
  let others ←
    if ← foundOperator "," then
      if startsArgument (← peek) then
        Prod.fst <$> commaItems startsArgument (tableEntry nested) (← remaining)
      else pure []
    else pure []
  operator "\x7d"
  return .table (first :: others)

/-- The rest of a set after its first item. -/
def setRest (nested : Nested) (first : Expr) : TokenParser Expr := do
  let others ←
    if ← foundOperator "," then
      if startsItem (← peek) then
        Prod.fst <$> commaItems startsItem (starNamed nested) (← remaining)
      else pure []
    else pure []
  operator "\x7d"
  return .set (first :: others)

/-- What follows an opening brace: a table, a set, or a comprehension of either. -/
def braced (nested : Nested) : TokenParser Expr := do
  if ← foundOperator "\x7d" then return .table []
  else if (← peek) = .operator "**" then
    let first ← tableEntry nested
    tableRest nested first
  else if (← peek) = .operator "*" then
    let first ← starNamed nested
    setRest nested first
  else
    let isNamed := (← peekSecond) = .operator ":="
    let first ← if isNamed then nested .named else nested .expression
    if !isNamed && (← peek) = .operator ":" then
      advance
      let entry := Expr.entry (some first) (← nested .expression)
      if ← atClause then
        let found ← someClauses nested
        operator "\x7d"
        return .comprehension .table entry found
      else tableRest nested entry
    else if ← atClause then
      let found ← someClauses nested
      operator "\x7d"
      return .comprehension .set first found
    else setRest nested first

/-! ## Atoms -/

/-- The literals that stand next to each other. -/
def adjacentLiterals : (fuel : Nat) → TokenParser (List RawLiteral)
  | 0 => failure
  | fuel + 1 => do
    match ← peek with
    | .literal content =>
      advance
      return content :: (← adjacentLiterals fuel)
    | _ => return []

/-- The value of an expression inside a literal: the text is parsed as if in parentheses. -/
def embedded (nested : Nested) (source : List Char) : Option Expr := do
  let tokens ← tokens? ('(' :: source ++ [')'])
  ((nested .stars).run ⟨tokens, ⟨1, 0⟩⟩).map (·.1)

/-- Names, constants, literals and brackets. -/
def atom (nested : Nested) : TokenParser Expr := do
  match ← peek with
  | .name raw =>
    advance
    return .name (identifier raw)
  | .number value =>
    advance
    return .constant (.number value)
  | .literal _ =>
    let literals ← adjacentLiterals (← remaining)
    match literalsExpr (embedded nested) literals with
    | some value => return value
    | none => failure
  | .keyword "None" =>
    advance
    return .constant .nothing
  | .keyword "True" =>
    advance
    return .constant (.truth true)
  | .keyword "False" =>
    advance
    return .constant (.truth false)
  | .operator "..." =>
    advance
    return .constant .ellipsis
  | .operator "(" =>
    advance
    parenthesized nested
  | .operator "[" =>
    advance
    bracketed nested
  | .operator "\x7b" =>
    advance
    braced nested
  | _ => failure

/-! ## Calls and subscripts -/

/-- How far the arguments of a call have come: after a named argument only named ones and stars
may follow, after two stars no single star. -/
inductive ArgumentStage where
  | positional
  | named
  | tables
deriving DecidableEq

/-- Whether a name may begin here. -/
def atName : TokenParser Bool := do
  match ← peek with
  | .name _ => return true
  | _ => return false

/-- Whether an argument with a name begins here. -/
def atNamedArgument : TokenParser Bool := do
  return (← atName) && (← peekSecond) = .operator "="

/-- The arguments of a call up to the closing parenthesis, positional and named ones apart. -/
def argumentsFrom (nested : Nested) :
    (fuel : Nat) → ArgumentStage → TokenParser (List Expr × List Expr)
  | 0, _ => failure
  | fuel + 1, stage => do
    if ← foundOperator ")" then return ([], [])
    else
      let (positional, named, stage) ←
        if ← foundOperator "**" then
          let value ← nested .expression
          pure ([], [Expr.keyword none value], ArgumentStage.tables)
        else if (← peek) = .operator "*" then
          if stage = .tables then failure
          advance
          let value ← nested .expression
          pure ([Expr.starred value], [], stage)
        else if ← atNamedArgument then
          let name ← nameToken
          advance
          let value ← nested .expression
          let stage := if stage = .positional then .named else stage
          pure ([], [Expr.keyword (some name) value], stage)
        else
          if stage ≠ .positional then failure
          let value ← nested .named
          pure ([value], [], stage)
      if ← foundOperator "," then
        let (others, named') ← argumentsFrom nested fuel stage
        return (positional ++ others, named ++ named')
      else
        operator ")"
        return (positional, named)

/-- The arguments of a call after its opening parenthesis. A comprehension may stand without
parentheses of its own if it is alone. -/
def callArguments (nested : Nested) : TokenParser (List Expr × List Expr) := do
  if startsExpression (← peek) && !(← atNamedArgument) then
    let first ← nested .named
    if ← atClause then
      let found ← someClauses nested
      operator ")"
      return ([.comprehension .generator first found], [])
    else if ← foundOperator "," then
      let (others, named) ← argumentsFrom nested (← remaining) .positional
      return (first :: others, named)
    else
      operator ")"
      return ([first], [])
  else argumentsFrom nested (← remaining) .positional

/-- One index of a subscript: a value, or a slice. -/
def sliceItem (nested : Nested) : TokenParser Expr := do
  let bound : TokenParser (Option Expr) := do
    if startsExpression (← peek) then return some (← nested .expression) else return none
  let sliceFrom := fun (lower : Option Expr) => do
    operator ":"
    let upper ← bound
    if ← foundOperator ":" then
      let step ← bound
      return Expr.slice lower upper step
    else return Expr.slice lower upper none
  if (← peek) = .operator ":" then sliceFrom none
  else if (← peekSecond) = .operator ":=" then nested .named
  else
    let value ← nested .expression
    if (← peek) = .operator ":" then sliceFrom (some value) else return value

/-- The indices of a subscript after its opening bracket. -/
def subscriptIndex (nested : Nested) : TokenParser Expr := do
  let item : TokenParser Expr := do
    if ← foundOperator "*" then return .starred (← nested .expression) else sliceItem nested
  let starts := fun kind => startsItem kind || kind == .operator ":"
  let items ← commaItems starts item (← remaining)
  operator "]"
  return match items with
    | ([.starred value], false) => .tuple [.starred value]
    | items => asTuple items

/-- The attributes, calls and subscripts behind an atom. -/
def trailers (nested : Nested) : (fuel : Nat) → Expr → TokenParser Expr
  | 0, _ => failure
  | fuel + 1, value => do
    if ← foundOperator "." then
      let name ← nameToken
      trailers nested fuel (.attribute value name)
    else if ← foundOperator "(" then
      let (positional, named) ← callArguments nested
      trailers nested fuel (.call value positional named)
    else if ← foundOperator "[" then
      let index ← subscriptIndex nested
      trailers nested fuel (.subscript value index)
    else return value

/-- An atom with everything behind it. -/
def primary (nested : Nested) : TokenParser Expr := do
  let value ← atom nested
  match ← peek with
  | .operator symbol =>
    if [".", "(", "["].contains symbol then trailers nested (← remaining) value else return value
  | _ => return value

/-! ## Operators -/

/-- A power, or a value that is waited for. The exponent is a factor. -/
def power (nested : Nested) : TokenParser Expr := do
  let base ←
    if ← foundKeyword "await" then
      let value ← primary nested
      pure (Expr.await value)
    else primary nested
  if ← foundOperator "**" then
    let exponent ← nested .factor
    return .binary .power "**" base exponent
  else return base

/-- A power behind signs. -/
def factor (nested : Nested) : TokenParser Expr := do
  match ← peek with
  | .operator symbol =>
    if ["+", "-", "~"].contains symbol then do
      advance
      let operand ← nested .factor
      return .unary .sign symbol operand
    else power nested
  | _ => power nested

/-- Arithmetic and bitwise operators, the loosest last. -/
def bitOr (nested : Nested) : TokenParser Expr :=
  let product := leftLevel .product ["*", "/", "//", "%", "@"] (factor nested)
  let sum := leftLevel .sum ["+", "-"] product
  let shift := leftLevel .shift ["<<", ">>"] sum
  let bitAnd := leftLevel .bitAnd ["&"] shift
  let bitXor := leftLevel .bitXor ["^"] bitAnd
  leftLevel .bitOr ["|"] bitXor

/-- The operator of a comparison, if one is next. -/
def comparisonOperator : TokenParser (Option String) := do
  match ← peek, ← peekSecond with
  | .operator symbol, _ =>
    if ["==", "!=", "<=", "<", ">=", ">"].contains symbol then do
      advance
      return some symbol
    else return none
  | .keyword "not", .keyword "in" =>
    advance
    advance
    return some "not in"
  | .keyword "in", _ =>
    advance
    return some "in"
  | .keyword "is", .keyword "not" =>
    advance
    advance
    return some "is not"
  | .keyword "is", _ =>
    advance
    return some "is"
  | _, _ => return none

/-- The operands of a chain of comparisons after the first one. -/
def comparisonChain (operand : TokenParser Expr) : (fuel : Nat) → TokenParser (List Expr)
  | 0 => failure
  | fuel + 1 => do
    match ← comparisonOperator with
    | some symbol =>
      let next ← operand
      let others ← comparisonChain operand fuel
      return .compared symbol next :: others
    | none => return []

/-- A chain of comparisons. -/
def comparison (nested : Nested) : TokenParser Expr := do
  let first ← bitOr nested
  match ← comparisonOperator with
  | some symbol =>
    let next ← bitOr nested
    let others ← comparisonChain (bitOr nested) (← remaining)
    return .comparison first (.compared symbol next :: others)
  | none => return first

/-- A comparison that may be negated. -/
def inversion (nested : Nested) : TokenParser Expr := do
  if ← foundKeyword "not" then
    let operand ← nested .inversion
    return .unary .not "not" operand
  else comparison nested

/-- Alternatives of conjunctions. -/
def disjunction (nested : Nested) : TokenParser Expr :=
  keywordLevel .or "or" (keywordLevel .and "and" (inversion nested))

/-! ## Functions -/

/-- How far a list of parameters has come. Once one has a default, the others up to the star have
to have one; after the star, defaults are free; after two stars nothing follows. -/
inductive ParameterStage where
  | required
  | optional
  | afterStar
  | closed
deriving DecidableEq

/-- The annotation of a parameter, where annotations are allowed. -/
def annotation (nested : Nested) (annotated starAllowed : Bool) : TokenParser Unit := do
  if !annotated then return ()
  else if ← foundOperator ":" then
    if starAllowed && (← peek) = .operator "*" then
      advance
      let _ ← nested .bitOr
    else
      let _ ← nested .expression
  else return ()

/-- What has been seen of a list of parameters: the stage, a parameter in front of which a slash
may come, the slash, and a bare star that is still without the parameter that it announces. -/
structure ParametersSeen where
  stage : ParameterStage
  plain : Bool
  slash : Bool
  bareStar : Bool

/-- One parameter, or a mark between parameters, and what has been seen after it. -/
def parameter (nested : Nested) (annotated : Bool) (seen : ParametersSeen) :
    TokenParser (Expr × ParametersSeen) := do
  if ← foundOperator "**" then
    if seen.bareStar then failure
    let name ← nameToken
    annotation nested annotated false
    return (.parameter .doubleStar name none, { seen with stage := .closed })
  else if ← foundOperator "*" then
    if seen.stage = .afterStar then failure
    if ← atName then
      let name ← nameToken
      annotation nested annotated true
      return (.parameter .star name none, { seen with stage := .afterStar })
    else return (.parameter .star "" none, { seen with stage := .afterStar, bareStar := true })
  else if ← foundOperator "/" then
    if !seen.plain || seen.slash || seen.stage = .afterStar then failure
    return (.parameter .slash "" none, { seen with slash := true })
  else
    let name ← nameToken
    annotation nested annotated false
    let seen := { seen with plain := true, bareStar := false }
    if ← foundOperator "=" then
      let fallback ← nested .expression
      let stage := if seen.stage = .required then .optional else seen.stage
      return (.parameter .plain name (some fallback), { seen with stage })
    else if seen.stage = .optional then failure
    else return (.parameter .plain name none, seen)

/-- The parameters up to the closing symbol, which is not taken. -/
def parametersFrom (nested : Nested) (annotated : Bool) (closing : String) :
    (fuel : Nat) → ParametersSeen → TokenParser (List Expr)
  | 0, _ => failure
  | fuel + 1, seen => do
    if (← peek) = .operator closing then
      if seen.bareStar then failure else return []
    else if seen.stage = .closed then failure
    else
      let (first, seen) ← parameter nested annotated seen
      if ← foundOperator "," then
        let others ← parametersFrom nested annotated closing fuel seen
        return first :: others
      else if seen.bareStar then failure
      else if (← peek) = .operator closing then return [first]
      else failure

/-- The parameters of a function up to the closing symbol. -/
def parameters (nested : Nested) (annotated : Bool) (closing : String) :
    TokenParser (List Expr) := do
  parametersFrom nested annotated closing ((← remaining) + 1) ⟨.required, false, false, false⟩

/-! ## Values -/

/-- A value: a function, a conditional, or what binds more tightly. -/
def expression (nested : Nested) : TokenParser Expr := do
  if ← foundKeyword "lambda" then
    let found ← parameters nested false ":"
    operator ":"
    let body ← nested .expression
    return .function found body
  else
    let body ← disjunction nested
    if ← foundKeyword "if" then
      let test ← disjunction nested
      keyword "else"
      let otherwise ← nested .expression
      return .conditional test body otherwise
    else return body

/-- A value that may be given a name on the way. -/
def namedExpression (nested : Nested) : TokenParser Expr := do
  if (← atName) && (← peekSecond) = .operator ":=" then
    let name ← nameToken
    advance
    let value ← expression nested
    return .assigned (.name name) value
  else
    let value ← expression nested
    if (← peek) = .operator ":=" then failure else return value

/-- A list of values, with stars, that is a tuple if there is a comma. -/
def starExpressions (nested : Nested) : TokenParser Expr := do
  let item : TokenParser Expr := do
    if ← foundOperator "*" then return .starred (← bitOr nested) else expression nested
  return asTuple (← commaItems startsItem item (← remaining))

/-- A value handed out by a generator. -/
def yieldExpression (nested : Nested) : TokenParser Expr := do
  keyword "yield"
  if ← foundKeyword "from" then return .yieldFrom (← expression nested)
  else if startsItem (← peek) then return .yield (some (← starExpressions nested))
  else return .yield none

/-- The parser of a category, given one for what is inside. -/
def category (nested : Nested) : Category → TokenParser Expr
  | .expression => expression nested
  | .named => namedExpression nested
  | .stars => starExpressions nested
  | .yield => yieldExpression nested
  | .disjunction => disjunction nested
  | .inversion => inversion nested
  | .bitOr => bitOr nested
  | .factor => factor nested

/-- The parser of a category for expressions that are nested at most `depth` levels deep. -/
def exprAt : (depth : Nat) → Nested
  | 0, _ => failure
  | depth + 1, kind => category (exprAt depth) kind

end ExpectFile.Grammar
