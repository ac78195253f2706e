import ExpectFile.Grammar.Number
import ExpectFile.Text.Quoted
import ExpectFile.Unicode.Identifier

/-!
# Cutting a text into tokens

The lexer goes through the text line by line. At the start of a line it measures the indentation
and compares it with the indentations that are open; inside a line it takes the longest token. In
brackets the ends of lines and the indentation mean nothing. A text that has no tokens gives no
list at all: there is no partial result.

Every line break is a line feed by the time the lexer runs (`unifyBreaks`).
-/

namespace ExpectFile.Grammar

open Text

/-! ## Line breaks -/

/-- Replaces every line break by a line feed. -/
def lineFeeds : List Char → List Char
  | [] => []
  | '\r' :: '\n' :: rest => '\n' :: lineFeeds rest
  | '\r' :: rest => '\n' :: lineFeeds rest
  | c :: rest => c :: lineFeeds rest

/-- The text with line feeds alone, and one at its end. A text that ends in `\r\n` gets one more:
the pair counts as a break before it counts as the end of the last line. -/
def unifyBreaks (text : List Char) : List Char :=
  let unified := lineFeeds text
  let closed := unified.getLast? == some '\n' && !(['\r', '\n'].isSuffixOf text)
  if closed then unified else unified ++ ['\n']

/-! ## Parts of a line -/

/-- A depth of indentation. Tabs reach to the next multiple of eight in `column`, and count as one
in `alternate`; two lines compare only if both numbers agree on the order. -/
structure Indentation where
  column : Nat
  alternate : Nat
deriving DecidableEq

/-- The blanks at the start of a line. A form feed starts the count again. A backslash at the end
of the line carries the count over: the first such line decides the depth. The result is the
depth, the text skipped, and what follows. -/
def indentation (depth : Indentation) (carried : Option Nat) :
    List Char → Option (Indentation × List Char × List Char)
  | [] => some (settled depth carried, [], [])
  | c :: rest =>
    if c = ' ' then skip c (indentation ⟨depth.column + 1, depth.alternate + 1⟩ carried rest)
    else if c = '\t' then
      skip c (indentation ⟨(depth.column / 8 + 1) * 8, depth.alternate + 1⟩ carried rest)
    else if c = '\x0c' then skip c (indentation ⟨0, 0⟩ carried rest)
    else if c = '\\' then
      match rest with
      | '\n' :: after =>
        if after.isEmpty then none
        else
          let carried := match carried with
            | some n => some n
            | none => if depth.column = 0 then none else some depth.column
          skip c (skip '\n' (indentation depth carried after))
      | _ => none
    else some (settled depth carried, [], c :: rest)
where
  /-- The depth, unless a line before this one has decided it. -/
  settled (depth : Indentation) : Option Nat → Indentation
    | some n => ⟨n, n⟩
    | none => depth
  /-- Adds a character to the text skipped. -/
  skip (c : Char) :
      Option (Indentation × List Char × List Char) → Option (Indentation × List Char × List Char)
    | some (depth, skipped, rest) => some (depth, c :: skipped, rest)
    | none => none

/-- The letters that may stand in front of a quotation mark, with the text from the mark on. -/
def literalLetters : List Char → Option (List Char × List Char)
  | a :: q :: rest =>
    if isMark q ∧ isLetter a then some ([a], q :: rest)
    else match rest with
      | r :: after =>
        if isMark r ∧ isPair a q then some ([a, q], r :: after)
        else if isMark a then some ([], a :: q :: rest) else none
      | [] => if isMark a then some ([], a :: q :: rest) else none
  | [a] => if isMark a then some ([], [a]) else none
  | [] => none
where
  /-- A quotation mark. -/
  isMark (c : Char) : Bool := c == apostrophe || c == doubleQuote
  /-- A letter that may stand alone. -/
  isLetter (c : Char) : Bool := ['b', 'f', 'r', 'u'].contains c.toLower
  /-- Two letters that may stand together, in either order. -/
  isPair (a b : Char) : Bool :=
    [('b', 'r'), ('r', 'b'), ('f', 'r'), ('r', 'f')].contains (a.toLower, b.toLower)

/-- The rest of a literal on one line: its body, and what follows its closing mark. -/
def shortBody (mark : Char) : List Char → Option (List Char × List Char)
  | [] => none
  | '\\' :: c :: rest => (shortBody mark rest).map fun run => ('\\' :: c :: run.1, run.2)
  | c :: rest =>
    if c = mark then some ([], rest)
    else if c = '\n' then none
    else (shortBody mark rest).map fun run => (c :: run.1, run.2)

/-- The rest of a literal that closes with three marks. -/
def longBody (mark : Char) : List Char → Option (List Char × List Char)
  | [] => none
  | '\\' :: c :: rest => (longBody mark rest).map fun run => ('\\' :: c :: run.1, run.2)
  | c :: rest =>
    if c = mark ∧ [mark, mark].isPrefixOf rest then some ([], rest.drop 2)
    else (longBody mark rest).map fun run => (c :: run.1, run.2)

/-- A literal from its quotation mark on: the mark as written, the body, and what follows. -/
def quotedBody : List Char → Option (List Char × List Char × List Char)
  | [] => none
  | mark :: rest =>
    if [mark, mark].isPrefixOf rest then
      (longBody mark (rest.drop 2)).map fun run => ([mark, mark, mark], run.1, run.2)
    else (shortBody mark rest).map fun run => ([mark], run.1, run.2)

/-- The operator at the front of a text, the longest that there is. -/
def operator? (text : List Char) : Option String :=
  (longOperators ++ pairOperators ++ singleOperators).find? fun symbol =>
    symbol.toList.isPrefixOf text

/-! ## Tokens -/

/-- A lexeme: what it is, its characters, and what follows. -/
abbrev Lexeme := Token.Kind × List Char × List Char

/-- A name or a keyword, given its characters. -/
def word (text rest : List Char) : Option Lexeme :=
  if keywords.contains (String.ofList text) then
    some (.keyword (String.ofList text), text, rest)
  else if text.all (·.toNat < 0x80) || Unicode.isIdentifier text then
    some (.name text, text, rest)
  else none

/-- The lexeme at the front of a text that begins with neither blank, comment nor line break. -/
def lexeme? (text : List Char) : Option Lexeme :=
  match literalLetters text with
  | some (letters, quoted) => do
    let (mark, body, rest) ← quotedBody quoted
    some (.literal ⟨letters, body⟩, letters ++ mark ++ body ++ mark, rest)
  | none =>
    match text with
    | [] => none
    | c :: rest =>
      if c.isDigit || (c == '.' && (rest.head?.map Char.isDigit).getD false) then do
        let (value, after) ← number? text
        some (.number value, text.take (text.length - after.length), after)
      else if isWordChar c then word (text.takeWhile isWordChar) (text.dropWhile isWordChar)
      else do
        let symbol ← operator? text
        some (.operator symbol, symbol.toList, text.drop symbol.length)

/-- The bracket that closes an opening one. -/
def closingBracket? (symbol : String) : Option String :=
  match symbol with
  | "(" => some ")"
  | "[" => some "]"
  | "\x7b" => some "\x7d"
  | _ => none

/-- The most brackets that may be open at a time. -/
def mostBrackets : Nat := 200

/-- Fewer indentations than this may be open at a time. -/
def indentationLimit : Nat := 100

/-- The closing brackets that are due after one more token, innermost first. A semicolon ends a
statement, so none may be due at one. -/
def bracketsAfter (due : List String) : Token.Kind → Option (List String)
  | .operator symbol =>
    match closingBracket? symbol with
    | some closing => if due.length < mostBrackets then some (closing :: due) else none
    | none =>
      if [")", "]", "\x7d"].contains symbol then
        match due with
        | expected :: others => if symbol = expected then some others else none
        | [] => none
      else if symbol = ";" ∧ due ≠ [] then none
      else some due
  | _ => some due

/-- Closes the open indentations that are deeper than a line, and checks that the line stands at
one that is open. The result is their number and the indentations that stay open. -/
def closeIndentations (depth : Indentation) : List Indentation → Option (Nat × List Indentation)
  | [] => if depth = ⟨0, 0⟩ then some (0, []) else none
  | innermost :: others =>
    if depth.column < innermost.column then
      (closeIndentations depth others).map fun result => (result.1 + 1, result.2)
    else if depth = innermost then some (0, innermost :: others) else none

/-- The marks that a line at a depth begins with, and the indentations that are open after them.
The outermost depth, zero, is not kept in the list. -/
def indentationMarks (depth : Indentation) (opened : List Indentation) :
    Option (List Token.Kind × List Indentation) :=
  let innermost := opened.headD ⟨0, 0⟩
  if innermost.column < depth.column then
    if opened.length + 1 < indentationLimit ∧ innermost.alternate < depth.alternate then
      some ([.indent], depth :: opened)
    else none
  else
    (closeIndentations depth opened).map fun result =>
      (List.replicate result.1 .dedent, result.2)

/-- What the lexer knows at a place in the text. -/
structure LexerState where
  position : Position
  opened : List Indentation
  due : List String

/-- Tokens without extent, at a place. -/
def marksAt (position : Position) (kinds : List Token.Kind) : List Token :=
  kinds.map fun kind => ⟨kind, position, position⟩

/-- The characters before the end of the line. -/
def isNotLineFeed (c : Char) : Bool := c != '\n'

/-- A blank inside a line. -/
def isGap (c : Char) : Bool := c == ' ' || c == '\t' || c == '\x0c'

/-- The tokens from a place on. `fresh` says whether a line starts here. Every step but the one
from the start of a line into it takes a character, so twice the length of the text is fuel
enough. -/
def tokensFrom : (fuel : Nat) → (fresh : Bool) → LexerState → List Char → Option (List Token)
  | 0, _, _, _ => none
  | fuel + 1, true, state, text => do
    let (depth, skipped, rest) ← indentation ⟨0, 0⟩ none text
    let position := state.position.afterText skipped
    match rest with
    | [] =>
      if state.due.isEmpty then do
        let (marks, _) ← indentationMarks depth state.opened
        some (marksAt position (marks ++ [.finish]))
      else none
    | c :: after =>
      if c = '#' ∨ c = '\n' then
        let comment := rest.takeWhile isNotLineFeed
        match rest.dropWhile isNotLineFeed with
        | [] => none
        | newline :: after =>
          let position := position.afterText (comment ++ [newline])
          tokensFrom fuel true { state with position } after
      else if state.due.isEmpty then do
        let (marks, opened) ← indentationMarks depth state.opened
        let tokens ← tokensFrom fuel false { state with position, opened } (c :: after)
        some (marksAt position marks ++ tokens)
      else tokensFrom fuel false { state with position } (c :: after)
  | fuel + 1, false, state, text =>
    let start := state.position.afterText (text.takeWhile isGap)
    match text.dropWhile isGap with
    | [] => none
    | '\n' :: rest => do
      let tokens ← tokensFrom fuel true { state with position := start.after '\n' } rest
      some (if state.due.isEmpty then ⟨.newline, start, start⟩ :: tokens else tokens)
    | '#' :: rest =>
      let comment := '#' :: rest.takeWhile isNotLineFeed
      tokensFrom fuel false { state with position := start.afterText comment }
        (rest.dropWhile isNotLineFeed)
    | '\\' :: '\n' :: rest =>
      if rest.isEmpty then none
      else tokensFrom fuel false { state with position := (start.after '\\').after '\n' } rest
    | c :: rest => do
      let (kind, characters, after) ← lexeme? (c :: rest)
      let due ← bracketsAfter state.due kind
      let stop := start.afterText characters
      let tokens ← tokensFrom fuel false { state with position := stop, due } after
      some (⟨kind, start, stop⟩ :: tokens)

/-- The tokens of a text. -/
def tokens? (text : List Char) : Option (List Token) :=
  let unified := unifyBreaks text
  tokensFrom (2 * unified.length + 2) true ⟨⟨1, 0⟩, [], []⟩ unified

end ExpectFile.Grammar
