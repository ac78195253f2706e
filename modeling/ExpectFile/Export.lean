import ExpectFile.Block
import ExpectFile.Json.Writer

/-!
# Export

The blocks of a file as a JSON document for other tools: the name of the file, and for each block
its kind, its text and its extent. `schema` says what such a document looks like. Names and texts
may come from outside, so they are arbitrary values here; whatever is not a text is a fault.
-/

namespace ExpectFile.Export

/-- What is exported of a block. -/
structure Entry where
  kind : BlockKind
  text : Json
  extent : Extent

/-- The entry of a block. -/
def Entry.ofBlock (block : Block) : Entry := ⟨block.kind, .string block.text, block.extent⟩

/-- An entry as an object. -/
def Entry.json (entry : Entry) : Json :=
  .object [("kind", .string entry.kind.word), ("text", entry.text),
    ("start", .integer entry.extent.start), ("end", .integer entry.extent.stop)]

/-- The document before it is checked. -/
def draft (source : Json) (entries : List Entry) : Json :=
  .object [("source", source), ("blocks", .array (entries.map Entry.json))]

/-- Whether a value is a text. -/
def isText : Json → Bool
  | .string _ => true
  | _ => false

/-- What is wrong with a document: the value that should be a text. The name of the file comes
first, and of the entries the last one. -/
def defect? (source : Json) (entries : List Entry) : Option Json :=
  if isText source then (entries.map (·.text)).reverse.find? fun text => !isText text
  else some source

/-- The document of a file. -/
def document (source : Json) (entries : List Entry) : Except Fault Json :=
  match defect? source entries with
  | some value => .error (.notText value)
  | none => .ok (draft source entries)

/-- The text of the document of a file. -/
def text (source : Json) (entries : List Entry) : Except Fault String :=
  (document source entries).map (Json.write .document)

/-! ## The schema -/

/-- A schema that asks for values of a type, and for more. -/
def ofType (name : String) (more : List (String × Json)) : Json :=
  .object (("type", .string name) :: more)

/-- A schema that asks for objects with these fields and no others. -/
def objectOf (fields : List (String × Json)) : List (String × Json) :=
  [("type", .string "object"),
    ("required", .array (fields.map fun field => .string field.1)),
    ("additionalProperties", .bool false),
    ("properties", .object fields)]

/-- The schema of an entry. -/
def entrySchema : Json :=
  .object (objectOf
    [("kind", ofType "string"
        [("enum", .array ([.directive, .assertion, .code].map fun kind : BlockKind =>
          .string kind.word))]),
      ("text", ofType "string" []),
      ("start", ofType "integer" [("minimum", .integer 0)]),
      ("end", ofType "integer" [("minimum", .integer 0)])])

/-- The schema of a document. -/
def schema : Json :=
  .object ([("$schema", .string "http://json-schema.org/draft-07/schema#"),
    ("title", .string "Reconstructed expect-file blocks")]
    ++ objectOf [("source", ofType "string" []),
      ("blocks", ofType "array" [("items", entrySchema)])])

end ExpectFile.Export
