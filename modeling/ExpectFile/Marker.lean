import ExpectFile.Grammar.Printer
import ExpectFile.Phrase
import ExpectFile.Vocabulary

/-!
# Markers

A marker is a statement that is nothing but a call of a plain or dotted name of the vocabulary. Its
argument is one string literal, or there is none. Everything else is ordinary code. A call that
names a marker but has other arguments is a fault, and so is a name that stands for an assertion
and a directive.

`Statement.marker?` decides; the splitter and the partition both go by it.
-/

namespace ExpectFile

open Grammar

/-- An assertion: what the code before it is expected to print. Without an argument, it is a place
to be filled in. -/
structure Assertion where
  name : String
  strictness : Strictness
  payload : Option String
  extent : Extent
deriving DecidableEq

/-- A statement with a meaning of its own. -/
inductive Marker where
  | assertion (content : Assertion)
  /-- A piece of prose. -/
  | directive (name text : String) (extent : Extent)
  /-- The label for the chunks that follow. -/
  | part (name label : String) (extent : Extent)
deriving DecidableEq

/-- The extent of the statement that is the marker. -/
def Marker.extent : Marker → Extent
  | .assertion content => content.extent
  | .directive _ _ extent => extent
  | .part _ _ extent => extent

namespace Statement

/-- The text of a statement: what its extent holds, or, where there is no text to cut it from, its
expression as the printer writes it. -/
def excerpt (statement : Statement) (contents : Option String) : Except Fault String :=
  match contents, statement.expression with
  | some text, _ => statement.extent.slice text
  | none, some expression => expression.text
  | none, none => .ok ""

/-- The call that a statement is, with the name that is called. -/
def namedCall? (statement : Statement) : Option (String × List Expr × List Expr) :=
  match statement.expression with
  | some (.call callee positional named) =>
    callee.dottedName?.map fun name => (name, positional, named)
  | _ => none

/-- The fault of a marker with the wrong arguments. -/
def malformed (statement : Statement) (contents : Option String) (name : String)
    (what : Malformation) : Fault :=
  match statement.excerpt contents with
  | .ok excerpt => .malformedMarker name what excerpt
  | .error fault => fault

/-- The text that the arguments of a marker give, if they are what a marker takes. -/
def payload (positional named : List Expr) : Except Malformation (Option String) :=
  if !named.isEmpty then .error .keywordArgument
  else match positional with
    | [] => .ok none
    | [.constant (.text value _)] => .ok (some value)
    | [_] => .error .notALiteral
    | _ => .error .severalArguments

/-- The marker that a statement is; none if it is ordinary code. The contents serve to quote the
statement in a fault. -/
def marker? (statement : Statement) (v : Vocabulary) (contents : Option String) :
    Except Fault (Option Marker) :=
  match statement.namedCall? with
  | none => .ok none
  | some (name, positional, named) =>
    let isDirective := v.directives.contains name
    if !v.contains name then .ok none
    else if (v.strictness? name).isSome && isDirective then
      match statement.excerpt contents with
      | .ok excerpt => .error (.conflictingMarkers excerpt)
      | .error fault => .error fault
    else match payload positional named with
      | .error what => .error (statement.malformed contents name what)
      | .ok text =>
        match v.strictness? name with
        | some strictness =>
          .ok (some (.assertion ⟨name, strictness, text, statement.extent⟩))
        | none =>
          if isDirective then .ok (some (.directive name (text.getD "") statement.extent))
          else match text with
            | some label => .ok (some (.part name label statement.extent))
            | none => .error (statement.malformed contents name .missingLabel)

end Statement

end ExpectFile
