import ExpectFile.Grammar.Token

/-!
# Expressions

The expressions of a program. Redundant parentheses leave no trace. The pieces that expressions
are put together from, such as the entries of a table or the parameters of a function, are
constructors of the same type, so that one recursion goes through all of it.
-/

namespace ExpectFile.Grammar

/-- What binds more tightly comes later: an operand is put in parentheses if its own level is below
the one that its place asks for. -/
inductive Level where
  | named | tuple | yield | test | or | and | not | comparison | bitOr | bitXor | bitAnd | shift
  | sum | product | sign | power | await | atom
deriving DecidableEq

namespace Level

/-- The levels by number. -/
def rank : Level → Nat
  | named => 0 | tuple => 1 | yield => 2 | test => 3 | or => 4 | and => 5 | not => 6
  | comparison => 7 | bitOr => 8 | bitXor => 9 | bitAnd => 10 | shift => 11 | sum => 12
  | product => 13 | sign => 14 | power => 15 | await => 16 | atom => 17

/-- The level above. Nothing binds more tightly than an atom. -/
def next : Level → Level
  | named => tuple | tuple => yield | yield => test | test => or | or => and | and => not
  | not => comparison | comparison => bitOr | bitOr => bitXor | bitXor => bitAnd
  | bitAnd => shift | shift => sum | sum => product | product => sign | sign => power
  | power => await | await => atom | atom => atom

end Level

/-- A constant. A text remembers whether a `u` was written in front of it. -/
inductive Constant where
  | nothing
  | truth (value : Bool)
  | ellipsis
  | number (value : Numeral)
  | text (value : String) (marked : Bool)
  | bytes (value : List UInt8)
deriving DecidableEq

/-- What a comprehension builds. -/
inductive Collection where
  | generator
  | list
  | set
  | table
deriving DecidableEq

/-- What a parameter stands for. A bare star and a slash have no name. -/
inductive ParameterMark where
  | plain
  | slash
  | star
  | doubleStar
deriving DecidableEq

/-- An expression, or a piece of one. -/
inductive Expr where
  | name (identifier : String)
  | constant (value : Constant)
  /-- A literal with expressions in it; its parts are text constants and replacements. -/
  | interpolated (parts : List Expr)
  /-- A replacement: an expression, how it is converted, and its format, which is a literal. -/
  | replacement (value : Expr) (conversion : Option Char) (format : Option Expr)
  | attribute (value : Expr) (identifier : String)
  | subscript (value index : Expr)
  | slice (lower upper step : Option Expr)
  | call (callee : Expr) (arguments keywords : List Expr)
  /-- A keyword argument; without a name, a table of them. -/
  | keyword (identifier : Option String) (value : Expr)
  | starred (value : Expr)
  | tuple (items : List Expr)
  | list (items : List Expr)
  | set (items : List Expr)
  | table (entries : List Expr)
  /-- An entry of a table; without a key, another table. -/
  | entry (key : Option Expr) (value : Expr)
  | comprehension (collection : Collection) (element : Expr) (clauses : List Expr)
  | clause (isAsync : Bool) (target source : Expr) (conditions : List Expr)
  | unary (level : Level) (symbol : String) (operand : Expr)
  | binary (level : Level) (symbol : String) (left right : Expr)
  | boolean (level : Level) (symbol : String) (operands : List Expr)
  | comparison (first : Expr) (others : List Expr)
  /-- An operator of a chain of comparisons and the operand after it. -/
  | compared (symbol : String) (operand : Expr)
  | conditional (test body otherwise : Expr)
  | function (parameters : List Expr) (body : Expr)
  | parameter (mark : ParameterMark) (identifier : String) (fallback : Option Expr)
  | assigned (target value : Expr)
  | await (value : Expr)
  | yield (value : Option Expr)
  | yieldFrom (value : Expr)

namespace Expr

/-- The name that a plain or dotted name spells. -/
def dottedName? : Expr → Option String
  | .name identifier => some identifier
  | .attribute value identifier => (dottedName? value).map fun base => base ++ "." ++ identifier
  | _ => none

mutual

/-- Whether a value can be assigned to the expression, a star in front allowed. -/
def isTarget : Expr → Bool
  | .starred value => isPlainTarget value
  | .name _ => true
  | .attribute _ _ => true
  | .subscript _ _ => true
  | .tuple items => areTargets items
  | .list items => areTargets items
  | _ => false

/-- Whether a value can be assigned to the expression as it stands. -/
def isPlainTarget : Expr → Bool
  | .name _ => true
  | .attribute _ _ => true
  | .subscript _ _ => true
  | .tuple items => areTargets items
  | .list items => areTargets items
  | _ => false

/-- Whether values can be assigned to all of the expressions. -/
def areTargets : List Expr → Bool
  | [] => true
  | item :: rest => isTarget item && areTargets rest

end

/-- Whether one value, and not a list of them, can be assigned to the expression. -/
def isSingleTarget : Expr → Bool
  | .name _ => true
  | .attribute _ _ => true
  | .subscript _ _ => true
  | _ => false

mutual

/-- Whether the expression names something that can be deleted. -/
def isDeletable : Expr → Bool
  | .name _ => true
  | .attribute _ _ => true
  | .subscript _ _ => true
  | .tuple items => areDeletable items
  | .list items => areDeletable items
  | _ => false

/-- Whether all of the expressions name something that can be deleted. -/
def areDeletable : List Expr → Bool
  | [] => true
  | item :: rest => isDeletable item && areDeletable rest

end

end Expr

end ExpectFile.Grammar
