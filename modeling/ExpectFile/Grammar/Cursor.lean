import ExpectFile.Grammar.Expr

/-!
# Parsers over tokens

A parser takes tokens off the front of a list, or fails. It also keeps the place where the last
token that belongs to the text of a statement stopped, so that a statement knows its end.
-/

namespace ExpectFile.Grammar

/-- The tokens that are left, and the end of the last visible one that was taken. -/
structure Cursor where
  rest : List Token
  stop : Position

/-- A parser. Where one fails, another can go on from the same tokens. -/
abbrev TokenParser (α : Type) := StateT Cursor Option α

namespace TokenParser

/-- The next token. -/
def peek : TokenParser Token.Kind := do
  match (← get).rest with
  | token :: _ => return token.kind
  | [] => return .finish

/-- The token after the next one. -/
def peekSecond : TokenParser Token.Kind := do
  match (← get).rest with
  | _ :: token :: _ => return token.kind
  | _ => return .finish

/-- Where the next token starts. -/
def start : TokenParser Position := do
  match (← get).rest with
  | token :: _ => return token.start
  | [] => failure

/-- Takes the next token. -/
def advance : TokenParser Unit := do
  let cursor ← get
  match cursor.rest with
  | token :: rest => set (Cursor.mk rest (if token.isVisible then token.stop else cursor.stop))
  | [] => failure

/-- Takes the next token if it is of a kind, and says whether it was. -/
def found (kind : Token.Kind) : TokenParser Bool := do
  if (← peek) = kind then
    advance
    return true
  else return false

/-- Takes a token of a kind. -/
def expect (kind : Token.Kind) : TokenParser Unit := do
  if ← found kind then return () else failure

/-- Takes an operator. -/
def operator (symbol : String) : TokenParser Unit := expect (.operator symbol)

/-- Takes a keyword. -/
def keyword (word : String) : TokenParser Unit := expect (.keyword word)

/-- Takes an operator if it is next, and says whether it was. -/
def foundOperator (symbol : String) : TokenParser Bool := found (.operator symbol)

/-- Takes a keyword if it is next, and says whether it was. -/
def foundKeyword (word : String) : TokenParser Bool := found (.keyword word)

/-- Takes a name, as written. -/
def rawName : TokenParser (List Char) := do
  match ← peek with
  | .name raw =>
    advance
    return raw
  | _ => failure

/-- The number of tokens left, which no loop outlasts. -/
def remaining : TokenParser Nat := do
  return (← get).rest.length

/-- Items separated by commas, and whether a comma ends them. After a comma another item has to
follow if the next token can start one. -/
def commaItems {α : Type} (starts : Token.Kind → Bool) (item : TokenParser α) :
    (fuel : Nat) → TokenParser (List α × Bool)
  | 0 => failure
  | fuel + 1 => do
    let first ← item
    if ← foundOperator "," then
      if starts (← peek) then
        let (others, trailing) ← commaItems starts item fuel
        return (first :: others, trailing)
      else return ([first], true)
    else return ([first], false)

/-- Items separated by commas, with none at the end. -/
def commaList {α : Type} (item : TokenParser α) : (fuel : Nat) → TokenParser (List α)
  | 0 => failure
  | fuel + 1 => do
    let first ← item
    if ← foundOperator "," then
      let others ← commaList item fuel
      return first :: others
    else return [first]

/-- Runs a parser without taking tokens, and says whether it went through. -/
def passes {α : Type} (parser : TokenParser α) : TokenParser Bool := do
  let cursor ← get
  return (parser.run cursor).isSome

end TokenParser

end ExpectFile.Grammar
