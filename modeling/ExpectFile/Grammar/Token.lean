import ExpectFile.Decimal.Binary64

/-!
# Tokens

The words of a program: names, keywords, numbers, literals, operators, and the marks for the ends
of lines and for changes of indentation. A token knows where it starts and stops.
-/

namespace ExpectFile.Grammar

/-- A place in a text: a line, counted from one, and the bytes of that line in front of it. -/
structure Position where
  line : Nat
  column : Nat
deriving DecidableEq

/-- The place after one more character. -/
def Position.after (p : Position) (c : Char) : Position :=
  if c = '\n' then ⟨p.line + 1, 0⟩ else ⟨p.line, p.column + c.utf8Size⟩

/-- The place after a text. -/
def Position.afterText (p : Position) (text : List Char) : Position :=
  text.foldl Position.after p

/-- The number that a numeric token denotes. -/
inductive Numeral where
  | whole (value : Nat)
  | real (value : Decimal.Magnitude)
  | imaginary (value : Decimal.Magnitude)
deriving DecidableEq

/-- A literal between quotation marks, as written: the letters in front of it and what stands
between the marks. Nothing is decoded yet. -/
structure RawLiteral where
  letters : List Char
  body : List Char
deriving DecidableEq

namespace RawLiteral

/-- Whether one of the letters is `letter`, in either case. -/
def hasLetter (literal : RawLiteral) (letter : Char) : Bool :=
  literal.letters.any fun c => c.toLower == letter

/-- Backslashes of a raw literal stand for themselves. -/
def isRaw (literal : RawLiteral) : Bool := literal.hasLetter 'r'

/-- A literal of bytes. -/
def isBytes (literal : RawLiteral) : Bool := literal.hasLetter 'b'

/-- A literal with expressions in it. -/
def isInterpolated (literal : RawLiteral) : Bool := literal.hasLetter 'f'

end RawLiteral

/-- What a token is. -/
inductive Token.Kind where
  /-- A name as written, before normalization. -/
  | name (raw : List Char)
  | keyword (word : String)
  | number (value : Numeral)
  | literal (content : RawLiteral)
  | operator (symbol : String)
  /-- The end of a logical line. -/
  | newline
  | indent
  | dedent
  /-- The end of the text. -/
  | finish
deriving DecidableEq

/-- A token in its place. -/
structure Token where
  kind : Token.Kind
  start : Position
  stop : Position
deriving DecidableEq

/-- Whether the token is part of the text of a statement, and not a mark of layout. -/
def Token.isVisible (token : Token) : Bool :=
  match token.kind with
  | .newline | .indent | .dedent | .finish => false
  | _ => true

/-- The words that are no names. -/
def keywords : List String :=
  ["False", "None", "True", "and", "as", "assert", "async", "await", "break", "class", "continue",
   "def", "del", "elif", "else", "except", "finally", "for", "from", "global", "if", "import", "in",
   "is", "lambda", "nonlocal", "not", "or", "pass", "raise", "return", "try", "while", "with",
   "yield"]

/-- The operators of three characters, which are looked for first. -/
def longOperators : List String := ["**=", "...", "//=", "<<=", ">>="]

/-- The operators of two characters. -/
def pairOperators : List String :=
  ["!=", "%=", "&=", "**", "*=", "+=", "-=", "->", "//", "/=", ":=", "<<", "<=", "<>", "==", ">=",
   ">>", "@=", "^=", "|="]

/-- The operators of one character. -/
def singleOperators : List String :=
  ["(", ")", "[", "]", "\x7b", "\x7d", ":", ",", ";", "+", "-", "*", "/", "|", "&", "<", ">", "=",
   ".", "%", "~", "^", "@"]

end ExpectFile.Grammar
