import ExpectFile.Grammar.ExprParser

/-!
# Parsing patterns

The patterns behind the word `case`. They are checked and not kept: no more is ever asked of a
branching statement than where it ends. As for expressions, what is nested is parsed by a function
that is handed in.
-/

namespace ExpectFile.Grammar

open TokenParser

/-- Whether a pattern of a list may begin with the token. -/
def startsPattern : Token.Kind → Bool
  | .name _ | .number _ | .literal _ => true
  | .operator symbol => ["(", "[", "\x7b", "-", "*"].contains symbol
  | .keyword word => ["None", "True", "False"].contains word
  | _ => false

/-- The name that matches everything and binds nothing. -/
def wildcard : List Char := ['_']

/-- Whether the next token makes more of a name than a name to bind. -/
def extendsName : TokenParser Bool := do
  match ← peek with
  | .operator symbol => return [".", "(", "="].contains symbol
  | _ => return false

/-- Takes a name to bind. -/
def captureName : TokenParser Unit := do
  let raw ← rawName
  if raw = wildcard || (← extendsName) then failure else return ()

/-- Takes a number, and says whether it is imaginary. -/
def patternNumber : TokenParser Bool := do
  match ← peek with
  | .number (.imaginary _) =>
    advance
    return true
  | .number _ =>
    advance
    return false
  | _ => failure

/-- A number as a pattern: perhaps negative, perhaps the sum or difference of a real and an
imaginary number. -/
def numberPattern : TokenParser Unit := do
  let _ ← foundOperator "-"
  let isImaginary ← patternNumber
  if (← peek) = .operator "+" || (← peek) = .operator "-" then
    advance
    if isImaginary then failure
    if ← patternNumber then return () else failure
  else return ()

/-- Whether a constant is next. -/
def atConstant : TokenParser Bool := do
  match ← peek with
  | .number _ | .literal _ => return true
  | .operator symbol => return symbol == "-"
  | .keyword word => return ["None", "True", "False"].contains word
  | _ => return false

/-- A constant as a pattern. -/
def constantPattern (nested : Nested) : TokenParser Unit := do
  match ← peek with
  | .number _ => numberPattern
  | .operator _ => numberPattern
  | _ =>
    let _ ← atom nested

/-- Takes the names behind the points of a dotted name, and counts them. -/
def attributeNames : (fuel : Nat) → TokenParser Nat
  | 0 => failure
  | fuel + 1 => do
    if ← foundOperator "." then
      let _ ← rawName
      return (← attributeNames fuel) + 1
    else return 0

/-- A pattern that may have a star in front, and whether it has. -/
def starPattern (pattern : TokenParser Unit) : TokenParser Bool := do
  if ← foundOperator "*" then
    if (← peek) = .name wildcard then
      advance
      return true
    else
      captureName
      return true
  else
    pattern
    return false

/-- Patterns separated by commas. One without a comma is not a sequence, so it has no star. -/
def openSequence (pattern : TokenParser Unit) : TokenParser Unit := do
  let (stars, trailing) ← commaItems startsPattern (starPattern pattern) (← remaining)
  if stars = [true] && !trailing then failure else return ()

/-- A sequence after its opening bracket. -/
def closedSequence (pattern : TokenParser Unit) (closing : String) : TokenParser Unit := do
  if ← foundOperator closing then return ()
  else
    if closing = "]" then
      let _ ← commaItems startsPattern (starPattern pattern) (← remaining)
    else openSequence pattern
    operator closing

/-- The entries of a mapping up to its closing brace. What takes the rest comes last. -/
def mappingEntries (nested : Nested) (pattern : TokenParser Unit) : (fuel : Nat) → TokenParser Unit
  | 0 => failure
  | fuel + 1 => do
    if ← foundOperator "\x7d" then return ()
    else if ← foundOperator "**" then
      captureName
      let _ ← foundOperator ","
      operator "\x7d"
    else
      if ← atConstant then constantPattern nested
      else
        let _ ← rawName
        if (← attributeNames (← remaining)) = 0 then failure
      operator ":"
      pattern
      if ← foundOperator "," then mappingEntries nested pattern fuel
      else operator "\x7d"

/-- The arguments of a class pattern up to the closing parenthesis, those with names last. -/
def classArguments (pattern : TokenParser Unit) : (fuel : Nat) → (named : Bool) → TokenParser Unit
  | 0, _ => failure
  | fuel + 1, named => do
    if ← foundOperator ")" then return ()
    else
      let isNamed ← atNamedArgument
      if isNamed then
        advance
        advance
        pattern
      else if named then failure
      else pattern
      if ← foundOperator "," then classArguments pattern fuel (named || isNamed)
      else operator ")"

/-- A pattern that begins with a name: one to bind, the wildcard, a dotted constant, or a class
with arguments. -/
def namePattern (pattern : TokenParser Unit) : TokenParser Unit := do
  let raw ← rawName
  if raw = wildcard then return ()
  else
    let _ ← attributeNames (← remaining)
    if ← foundOperator "(" then classArguments pattern (← remaining) false
    else if ← extendsName then failure
    else return ()

/-- A pattern without alternatives. -/
def closedPattern (nested : Nested) (pattern : TokenParser Unit) : TokenParser Unit := do
  if ← atConstant then constantPattern nested
  else if ← foundOperator "(" then closedSequence pattern ")"
  else if ← foundOperator "[" then closedSequence pattern "]"
  else if ← foundOperator "\x7b" then mappingEntries nested pattern (← remaining)
  else namePattern pattern

/-- Alternatives after the first one. -/
def moreAlternatives (alternative : TokenParser Unit) : (fuel : Nat) → TokenParser Unit
  | 0 => failure
  | fuel + 1 => do
    if ← foundOperator "|" then
      alternative
      moreAlternatives alternative fuel
    else return ()

/-- Alternatives, and perhaps a name for the whole. -/
def alternatives (nested : Nested) (pattern : TokenParser Unit) : TokenParser Unit := do
  closedPattern nested pattern
  moreAlternatives (closedPattern nested pattern) ((← remaining) + 1)
  if ← foundKeyword "as" then captureName else return ()

/-- The patterns that are nested at most `depth` levels deep. -/
def patternAt (nested : Nested) : (depth : Nat) → TokenParser Unit
  | 0 => failure
  | depth + 1 => alternatives nested (patternAt nested depth)

end ExpectFile.Grammar
