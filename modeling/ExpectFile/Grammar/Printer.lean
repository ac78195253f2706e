import ExpectFile.Fault
import ExpectFile.Grammar.Expr

/-!
# Printing expressions

An expression as program text in a fixed form: single spaces around operators, after commas and
after colons, and parentheses where the level of an operand asks for them. Texts are quoted as
messages quote them. A literal with expressions in it needs more care, as no backslash may stand
inside its braces: what is printed there picks its quotation marks so that none is needed, and
where that is impossible there is no text at all.
-/

namespace ExpectFile.Grammar

open Text

/-! ## Quotation marks -/

/-- The quotation marks of a literal, the preferred ones first. -/
def quotationMarks : List (List Char) :=
  [[apostrophe], [doubleQuote], [doubleQuote, doubleQuote, doubleQuote],
   [apostrophe, apostrophe, apostrophe]]

/-- Whether `part` occurs in a text. -/
def occursIn (part : List Char) : List Char → Bool
  | [] => part.isEmpty
  | c :: rest => part.isPrefixOf (c :: rest) || occursIn part rest

/-- A character of a literal whose quotation marks are still open. A line feed and a tab may
stand for themselves. -/
def escapedFreely (escapeBreaks : Bool) (c : Char) : List Char :=
  if !escapeBreaks && (c == '\n' || c == '\t') then [c]
  else if c = '\\' then ['\\', '\\']
  else if Unicode.isPrintable c then [c]
  else escaped apostrophe c

/-- The body of a literal, and the quotation marks of `marks` that may be put around it. If none
will do, the text is quoted anew with a mark of its own. -/
def fittedBody (marks : List (List Char)) (escapeBreaks : Bool) (text : List Char) :
    List Char × List (List Char) :=
  let body := text.flatMap (escapedFreely escapeBreaks)
  let marks' := if body.contains '\n' then marks.filter (·.length == 3) else marks
  match marks'.filter fun mark => !occursIn mark body with
  | [] =>
    let mark := quoteMark text
    (text.flatMap (escaped mark), [(marks.find? (·.contains mark)).getD [mark]])
  | fitting =>
    match body.getLast? with
    | none => (body, fitting)
    | some last =>
      -- a mark that does not begin with the last character is better
      let clashes := fun (mark : List Char) => mark.head? == some last
      let sorted := fitting.filter (fun mark => !clashes mark) ++ fitting.filter clashes
      if (sorted.head?.map clashes).getD false then
        (body.dropLast ++ ['\\', last], sorted)
      else (body, sorted)

/-- A literal that is written without backslashes if that is possible. -/
def quotedFreely (text : List Char) : List Char :=
  let (body, marks) := fittedBody quotationMarks false text
  let mark := marks.headD [apostrophe]
  mark ++ body ++ mark

/-- A literal whose parts are given as text, and whether each is a constant. The quotation marks
have to suit all parts; if none do, the parts are written with escapes. -/
def quotedParts (parts : List (List Char × Bool)) : List Char :=
  let rec fit (marks : List (List Char)) (body : List Char) :
      List (List Char × Bool) → Option (List Char × List (List Char))
    | [] => some (body, marks)
    | (text, isConstant) :: rest =>
      let (fitted, marks') := fittedBody marks isConstant text
      if marks'.any marks.contains then fit marks' (body ++ fitted) rest else none
  match fit quotationMarks [] parts with
  | some (body, marks) =>
    let mark := marks.headD [apostrophe]
    mark ++ body ++ mark
  | none =>
    let mark := [apostrophe, apostrophe, apostrophe]
    mark ++ (parts.flatMap fun part => part.1.flatMap (escaped apostrophe)) ++ mark

/-! ## Expressions -/

/-- A number larger than every finite one. -/
def infiniteText : String := "1e309"

/-- The most digits that a whole number is written out with. -/
def mostPrintedDigits : Nat := 4300

/-- A numeral as text. -/
def numeralText : Numeral → Except Fault (List Char)
  | .whole value =>
    if value < Decimal.tenTo mostPrintedDigits then .ok (decimal value) else .error .tooManyDigits
  | .real value => .ok (value.text .plain infiniteText)
  | .imaginary value => .ok (value.text .bare infiniteText ++ ['j'])

/-- A constant as text. `free` asks for a text without backslashes. -/
def constantText (free : Bool) : Constant → Except Fault (List Char)
  | .nothing => .ok "None".toList
  | .truth true => .ok "True".toList
  | .truth false => .ok "False".toList
  | .ellipsis => .ok "...".toList
  | .number value => numeralText value
  | .text value marked =>
    let text := if free then quotedFreely value.toList else quoted value.toList
    .ok (if marked then 'u' :: text else text)
  | .bytes value => .ok (quotedBytes value)

/-- A text inside an interpolated literal: braces are doubled. -/
def doubledBraces (text : List Char) : List Char :=
  text.flatMap fun c => if c = '\x7b' ∨ c = '\x7d' then [c, c] else [c]

/-- Puts parentheses around an expression of level `own` where level `wanted` is asked for. -/
def parenthesizedIf (own wanted : Level) (text : List Char) : List Char :=
  if own.rank < wanted.rank then '(' :: text ++ [')'] else text

/-- Whether a point behind the expression would be read as part of a number. -/
def Expr.isWhole : Expr → Bool
  | .constant (.number (.whole _)) => true
  | .constant (.truth _) => true
  | _ => false

/-- The brackets of a comprehension. -/
def Collection.brackets : Collection → Char × Char
  | .generator => ('(', ')')
  | .list => ('[', ']')
  | .set => ('\x7b', '\x7d')
  | .table => ('\x7b', '\x7d')

/-- The items of a tuple: a single one has a comma behind it. -/
def tupleText : List (List Char) → List Char
  | [item] => item ++ [',']
  | items => joined [',', ' '] items

/-- The levels of the operands of an operator. Powers group from the right. -/
def operandLevels (level : Level) : Level × Level :=
  if level = .power then (level.next, level) else (level, level.next)

/-- A text in braces that does not begin with a brace itself. -/
def bracedText (value suffix : List Char) : List Char :=
  let gap := if value.head? = some '\x7b' then [' '] else []
  '\x7b' :: gap ++ value ++ suffix ++ ['\x7d']

mutual

/-- An expression where `level` is asked for. `free` asks for a text without backslashes; so does
every replacement for what stands in its braces. -/
def printAt (free : Bool) (level : Level) : Expr → Except Fault (List Char)
  | .name identifier => .ok identifier.toList
  | .constant value => constantText free value
  | .interpolated parts => do
    let texts ← partTexts parts
    return 'f' :: (if free then quotedFreely (texts.flatMap (·.1)) else quotedParts texts)
  | .replacement value conversion format => do
    let text ← printAt true .or value
    if text.contains '\\' then .error .backslashInInterpolation
    else
      let suffix := match conversion with
        | some c => ['!', c]
        | none => []
      let layout ← formatText format
      return bracedText text (suffix ++ layout)
  | .attribute value identifier => do
    let base ← printAt free .atom value
    return base ++ (if value.isWhole then [' ', '.'] else ['.']) ++ identifier.toList
  | .subscript value index => do
    let base ← printAt free .atom value
    let inner ←
      match index with
      | .tuple items =>
        if items.isEmpty then pure ['(', ')'] else tupleText <$> printAll free .test items
      | other => printAt free .test other
    return base ++ '[' :: inner ++ [']']
  | .slice lower upper step => do
    let before ← printOptional free [] lower
    let after ← printOptional free [] upper
    let last ← printOptional free [':'] step
    return before ++ ':' :: after ++ last
  | .call callee positional named => do
    let base ← printAt free .atom callee
    let first ← printAll free .test positional
    let second ← printAll free .test named
    return base ++ '(' :: joined [',', ' '] (first ++ second) ++ [')']
  | .keyword name value => do
    let text ← printAt free .test value
    return match name with
      | some word => word.toList ++ '=' :: text
      | none => '*' :: '*' :: text
  | .starred value => do
    let text ← printAt free .bitOr value
    return '*' :: text
  | .tuple items => do
    let texts ← printAll free .test items
    let text := tupleText texts
    return if items.isEmpty then ['(', ')'] else parenthesizedIf .tuple level text
  | .list items => do
    let texts ← printAll free .test items
    return '[' :: joined [',', ' '] texts ++ [']']
  | .set items => do
    let texts ← printAll free .test items
    return '\x7b' :: joined [',', ' '] texts ++ ['\x7d']
  | .table entries => do
    let texts ← printAll free .test entries
    return '\x7b' :: joined [',', ' '] texts ++ ['\x7d']
  | .entry none value => do
    let text ← printAt free .bitOr value
    return '*' :: '*' :: text
  | .entry (some key) value => do
    let first ← printAt free .test key
    let second ← printAt free .test value
    return first ++ ':' :: ' ' :: second
  | .comprehension collection element clauses => do
    let (opening, closing) := collection.brackets
    let first ← printAt free .test element
    let others ← printAll free .test clauses
    return opening :: first ++ others.flatten ++ [closing]
  | .clause isAsync target source conditions => do
    let targets ← printAt free .tuple target
    let values ← printAt free .or source
    let tests ← printAll free .or conditions
    return (if isAsync then " async for " else " for ").toList ++ targets ++ " in ".toList
      ++ values ++ tests.flatMap (" if ".toList ++ ·)
  | .unary own symbol operand => do
    let text ← printAt free own operand
    let gap := if own = .not then [' '] else []
    return parenthesizedIf own level (symbol.toList ++ gap ++ text)
  | .binary own symbol left right => do
    let (leftLevel, rightLevel) := operandLevels own
    let first ← printAt free leftLevel left
    let second ← printAt free rightLevel right
    return parenthesizedIf own level (first ++ ' ' :: symbol.toList ++ ' ' :: second)
  | .boolean own symbol operands => do
    let texts ← printRising free own.next operands
    return parenthesizedIf own level (joined (' ' :: symbol.toList ++ [' ']) texts)
  | .comparison first others => do
    let text ← printAt free .bitOr first
    let rest ← printAll free .bitOr others
    return parenthesizedIf .comparison level (text ++ rest.flatten)
  | .compared symbol operand => do
    let text ← printAt free .bitOr operand
    return ' ' :: symbol.toList ++ ' ' :: text
  | .conditional test body otherwise => do
    let first ← printAt free .or body
    let condition ← printAt free .or test
    let second ← printAt free .test otherwise
    return parenthesizedIf .test level
      (first ++ " if ".toList ++ condition ++ " else ".toList ++ second)
  | .function parameters body => do
    let texts ← printAll free .test parameters
    let text ← printAt free .test body
    let names := if texts.isEmpty then [] else ' ' :: joined [',', ' '] texts
    return parenthesizedIf .test level ("lambda".toList ++ names ++ ':' :: ' ' :: text)
  | .parameter mark identifier fallback => do
    let value ← printOptional free ['='] fallback
    return match mark with
      | .plain => identifier.toList ++ value
      | .slash => ['/']
      | .star => '*' :: identifier.toList
      | .doubleStar => '*' :: '*' :: identifier.toList
  | .assigned target value => do
    let first ← printAt free .atom target
    let second ← printAt free .atom value
    return parenthesizedIf .named level (first ++ " := ".toList ++ second)
  | .await value => do
    let text ← printAt free .atom value
    return parenthesizedIf .await level ("await ".toList ++ text)
  | .yield none => .ok (parenthesizedIf .yield level "yield".toList)
  | .yield (some value) => do
    let text ← printAt free .atom value
    return parenthesizedIf .yield level ("yield ".toList ++ text)
  | .yieldFrom value => do
    let text ← printAt free .atom value
    return parenthesizedIf .yield level ("yield from ".toList ++ text)

/-- Expressions where one level is asked for. -/
def printAll (free : Bool) (level : Level) : List Expr → Except Fault (List (List Char))
  | [] => .ok []
  | item :: rest => do
    let text ← printAt free level item
    let others ← printAll free level rest
    return text :: others

/-- Expressions of which each has to bind more tightly than the one before. -/
def printRising (free : Bool) (level : Level) : List Expr → Except Fault (List (List Char))
  | [] => .ok []
  | item :: rest => do
    let text ← printAt free level item
    let others ← printRising free level.next rest
    return text :: others

/-- An expression that may be missing, behind a mark. -/
def printOptional (free : Bool) (mark : List Char) : Option Expr → Except Fault (List Char)
  | none => .ok []
  | some value => do
    let text ← printAt free .test value
    return mark ++ text

/-- The format of a replacement, behind a colon. -/
def formatText : Option Expr → Except Fault (List Char)
  | none => .ok []
  | some (.interpolated parts) => do
    let texts ← partTexts parts
    return ':' :: texts.flatMap (·.1)
  | some _ => .ok []

/-- The parts of an interpolated literal, and whether each is a constant. -/
def partTexts : List Expr → Except Fault (List (List Char × Bool))
  | [] => .ok []
  | .constant (.text value _) :: rest => do
    let others ← partTexts rest
    return (doubledBraces value.toList, true) :: others
  | part :: rest => do
    let text ← printAt true .or part
    let others ← partTexts rest
    return (text, false) :: others

end

/-- An expression statement as text. -/
def Expr.text (e : Expr) : Except Fault String :=
  (printAt false .yield e).map String.ofList

end ExpectFile.Grammar
