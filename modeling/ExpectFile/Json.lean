import ExpectFile.Decimal.Shortest
import ExpectFile.Text.Quoted

/-!
# JSON values

The values that the exported documents are made of, and a short form of them for messages. Whole
numbers and numbers with a fraction or an exponent are kept apart; an object keeps its fields in
the order in which they were written.
-/

namespace ExpectFile

/-- A JSON value. -/
inductive Json where
  | null
  | bool (value : Bool)
  | integer (value : Int)
  | decimal (negative : Bool) (magnitude : Decimal.Magnitude)
  | string (text : String)
  | array (items : List Json)
  | object (fields : List (String × Json))

namespace Json

/-- The field of an object; nothing for a missing field and for any other value. -/
def get? (name : String) : Json → Option Json
  | .object fields => (fields.find? fun field => field.1 == name).map (·.2)
  | _ => none

/-- The text of a string. -/
def text? : Json → Option String
  | .string text => some text
  | _ => none

/-- Whether a value counts as absent where a default stands by: null, false, zero, and whatever is
empty. -/
def isVoid : Json → Bool
  | .null => true
  | .bool value => !value
  | .integer value => value == 0
  | .decimal _ magnitude => match magnitude with
    | .finite significand _ => significand == 0
    | .infinite => false
  | .string text => text.isEmpty
  | .array items => items.isEmpty
  | .object fields => fields.isEmpty

/-! ## The short form -/

mutual

/-- A value as a message shows it: `None`, `True`, numbers as they are written, quoted texts, and
lists and tables of these. -/
def shown : Json → List Char
  | .null => "None".toList
  | .bool true => "True".toList
  | .bool false => "False".toList
  | .integer value => Text.integer value
  | .decimal negative magnitude =>
    (if negative then ['-'] else []) ++ magnitude.text .plain "inf"
  | .string text => Text.quoted text.toList
  | .array items => '[' :: shownItems items ++ [']']
  | .object fields => '\x7b' :: shownFields fields ++ ['\x7d']

/-- The values of a list, separated by commas. -/
def shownItems : List Json → List Char
  | [] => []
  | [item] => shown item
  | item :: rest => shown item ++ [',', ' '] ++ shownItems rest

/-- The fields of a table, separated by commas. -/
def shownFields : List (String × Json) → List Char
  | [] => []
  | [(name, value)] => Text.quoted name.toList ++ [':', ' '] ++ shown value
  | (name, value) :: rest =>
    Text.quoted name.toList ++ [':', ' '] ++ shown value ++ [',', ' '] ++ shownFields rest

end

end Json

end ExpectFile
