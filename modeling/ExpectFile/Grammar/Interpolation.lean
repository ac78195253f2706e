import ExpectFile.Grammar.Literal

/-!
# Literals with expressions in them

The body of an interpolated literal is text and replacements in braces. A doubled brace stands for
a brace. A replacement is an expression, then perhaps an equals sign, which repeats the expression
as text, a conversion after an exclamation mark, and a format after a colon. The format is such a
body itself, in which braces are not doubled; nothing is nested deeper than that.

The end of an expression is found by its characters alone: quotation marks and brackets are
followed, backslashes and number signs are not allowed. Only then is it parsed, by a function that
is handed in.
-/

namespace ExpectFile.Grammar

open Text

/-- Opening brace. -/
def openBrace : Char := '\x7b'

/-- Closing brace. -/
def closeBrace : Char := '\x7d'

/-- A run of text in a body. `doubled` says that it ends with a doubled brace, which belongs to the
text, so that more text may follow. -/
structure TextRun where
  text : List Char
  doubled : Bool
  rest : List Char

/-- A run with more characters in front. -/
def TextRun.push (characters : List Char) (run : TextRun) : TextRun :=
  { run with text := characters ++ run.text }

/-- What a brace in a run of text means. Inside a format every brace ends the run. -/
def braceRun (inFormat : Bool) (brace : Char) (rest : List Char) : Option TextRun :=
  if inFormat then some ⟨[], false, brace :: rest⟩
  else if rest.head? = some brace then some ⟨[brace], true, rest.drop 1⟩
  else if brace = closeBrace then none
  else some ⟨[], false, brace :: rest⟩

/-- The run of text at the front of a body, still encoded. The braces around the name of a
character are part of the text. -/
def textRun (raw inFormat : Bool) : (fuel : Nat) → List Char → Option TextRun
  | _, [] => some ⟨[], false, []⟩
  | 0, _ => none
  | fuel + 1, c :: rest =>
    if c = openBrace ∨ c = closeBrace then braceRun inFormat c rest
    else if raw ∨ c ≠ '\\' then (textRun raw inFormat fuel rest).map (·.push [c])
    else match rest with
      | [] => some ⟨[c], false, []⟩
      | d :: after =>
        if d = openBrace ∨ d = closeBrace then (braceRun inFormat d after).map (·.push [c])
        else if d = 'N' ∧ after.head? = some openBrace then
          let name := after.takeWhile (· != closeBrace)
          let behind := after.dropWhile (· != closeBrace)
          (textRun raw inFormat fuel (behind.drop 1)).map
            (·.push (c :: d :: name ++ behind.take 1))
        else (textRun raw inFormat fuel after).map (·.push [c, d])

/-- The most brackets that may be open at a time in an expression. -/
def mostOpenBrackets : Nat := 200

/-- Whether two brackets belong together. -/
def bracketsMatch (opening closing : Char) : Bool :=
  [('(', ')'), ('[', ']'), (openBrace, closeBrace)].contains (opening, closing)

/-- The expression at the front of a body, and what follows it: an equals sign, an exclamation
mark, a colon or a closing brace. `quote` holds the quotation mark that is open and whether it is
threefold, `opened` the brackets that are open. -/
def expressionRun (quote : Option (Char × Bool)) (opened : List Char) :
    (fuel : Nat) → List Char → Option (List Char × List Char)
  | _, [] => none
  | 0, _ => none
  | fuel + 1, c :: rest =>
    let continueWith := fun (quote : Option (Char × Bool)) (opened : List Char)
        (taken : List Char) (rest : List Char) =>
      (expressionRun quote opened fuel rest).map fun run => (taken ++ run.1, run.2)
    if c = '\\' then none
    else match quote with
      | some (mark, true) =>
        if c = mark ∧ [mark, mark].isPrefixOf rest then
          continueWith none opened [c, c, c] (rest.drop 2)
        else continueWith quote opened [c] rest
      | some (mark, false) => continueWith (if c = mark then none else quote) opened [c] rest
      | none =>
        if c = apostrophe ∨ c = doubleQuote then
          if [c, c].isPrefixOf rest then
            continueWith (some (c, true)) opened [c, c, c] (rest.drop 2)
          else continueWith (some (c, false)) opened [c] rest
        else if c = '[' ∨ c = openBrace ∨ c = '(' then
          if opened.length < mostOpenBrackets then continueWith none (c :: opened) [c] rest
          else none
        else if c = '#' then none
        else if opened.isEmpty ∧ rest.head? = some '='
            ∧ (c = '!' ∨ c = '=' ∨ c = '<' ∨ c = '>') then
          continueWith none opened [c, '='] (rest.drop 1)
        else if opened.isEmpty ∧ (c = '!' ∨ c = ':' ∨ c = closeBrace ∨ c = '=') then
          some ([], c :: rest)
        else if c = ']' ∨ c = closeBrace ∨ c = ')' then
          match opened with
          | opening :: others =>
            if bracketsMatch opening c then continueWith none others [c] rest else none
          | [] => none
        else continueWith none opened [c] rest

/-- The blanks that do not make an expression. -/
def isExpressionBlank (c : Char) : Bool := c == ' ' || c == '\t' || c == '\n' || c == '\x0c'

/-- The blanks that are repeated after an equals sign. -/
def isRepeatedBlank (c : Char) : Bool := c == ' ' || (0x09 ≤ c.toNat && c.toNat ≤ 0x0d)

/-- A part of a body: decoded text, or a replacement. -/
inductive BodyPart where
  | text (content : List Char)
  | value (replacement : Expr)

/-- The conversion after an exclamation mark, if there is one. -/
def conversion? : List Char → Option (Option Char × List Char)
  | '!' :: c :: rest => if ['s', 'r', 'a'].contains c then some (some c, rest) else none
  | ['!'] => none
  | rest => some (none, rest)

/-- Puts the parts of a body together: neighbouring texts are one, and an empty text is none. -/
def gather (marked : Bool) : List BodyPart → (pending : List Char) → List Expr
  | [], [] => []
  | [], pending => [.constant (.text (String.ofList pending) marked)]
  | .text content :: rest, pending => gather marked rest (pending ++ content)
  | .value replacement :: rest, [] => replacement :: gather marked rest []
  | .value replacement :: rest, pending =>
    .constant (.text (String.ofList pending) marked) :: replacement :: gather marked rest []

/-- The parts of a body, up to its end or, in a format, up to a closing brace. `parse` reads an
expression, `level` says how deep the body is nested. -/
def bodyParts (parse : List Char → Option Expr) (raw : Bool) :
    (fuel : Nat) → (level : Nat) → List Char → Option (List BodyPart × List Char)
  | 0, _, _ => none
  | fuel + 1, level, text => do
    let run ← textRun raw (level != 0) (text.length + 1) text
    let content ← decodeText raw run.text
    let before := BodyPart.text content
    let continueWith := fun (parts : List BodyPart) (rest : List Char) =>
      (bodyParts parse raw fuel level rest).map fun result => (parts ++ result.1, result.2)
    if run.doubled then continueWith [before] run.rest
    else match run.rest with
      | [] => some ([before], [])
      | brace :: rest =>
        if brace = closeBrace then some ([before], run.rest)
        else if 2 ≤ level then none
        else do
          let (source, rest) ← expressionRun none [] (rest.length + 1) rest
          if source.all isExpressionBlank then none
          else
            let value ← parse source
            let (shown, rest) :=
              match rest with
              | '=' :: after =>
                let blanks := after.takeWhile isRepeatedBlank
                (some (source ++ '=' :: blanks), after.dropWhile isRepeatedBlank)
              | _ => (none, rest)
            let (conversion, rest) ← conversion? rest
            let (format, rest) ←
              match rest with
              | ':' :: after =>
                if after.isEmpty then none
                else (bodyParts parse raw fuel (level + 1) after).map fun result =>
                  (some (Expr.interpolated (gather false result.1 [])), result.2)
              | _ => some (none, rest)
            match rest with
            | closing :: after =>
              if closing ≠ closeBrace then none
              else
                let conversion :=
                  if shown.isSome ∧ format.isNone ∧ conversion.isNone then some 'r'
                  else conversion
                let repeated := BodyPart.text (shown.getD [])
                continueWith [before, repeated, .value (.replacement value conversion format)] after
            | [] => none

/-- The parts of the body of an interpolated literal. -/
def interpolatedParts (parse : List Char → Option Expr) (raw : Bool) (body : List Char) :
    Option (List BodyPart) :=
  match bodyParts parse raw (body.length + 1) 0 body with
  | some (parts, []) => some parts
  | _ => none

/-- The parts of a literal that is not one of bytes. -/
def literalParts (parse : List Char → Option Expr) (literal : RawLiteral) :
    Option (List BodyPart) :=
  if literal.isInterpolated then interpolatedParts parse literal.isRaw literal.body
  else (decodeText literal.isRaw literal.body).map fun content => [.text content]

/-- The expression that adjacent literals make together. Bytes go with bytes only; if one literal
is interpolated, so is the whole. -/
def literalsExpr (parse : List Char → Option Expr) (literals : List RawLiteral) : Option Expr :=
  if literals.any (·.isBytes) then
    if literals.all (·.isBytes) then
      (literals.mapM fun literal => decodeBytes literal.isRaw literal.body).map fun bytes =>
        .constant (.bytes bytes.flatten)
    else none
  else do
    let parts ← literals.mapM (literalParts parse)
    let marked := (literals.head?.bind fun literal => literal.letters.head?) == some 'u'
    if literals.any (·.isInterpolated) then some (.interpolated (gather marked parts.flatten []))
    else
      let content := parts.flatten.flatMap fun part =>
        match part with
        | .text content => content
        | .value _ => []
      some (.constant (.text (String.ofList content) marked))

end ExpectFile.Grammar
