import ExpectFile.Export

/-!
# Documents and their schema

The fault that an export ends in is found by looking at the texts alone. The schema asks for more:
for the fields of the document and of each entry, for a kind out of three, and for bounds that are
whole numbers and not negative. All the rest is there by the way a document is built, so the texts
are indeed all that can be wrong.

* **`Json.Conforms`** — what it means for a value to be as a schema asks.
* **`conforms_entry_iff`** — an entry is as its schema asks iff its text is one.
* **`conforms_draft_iff`** — a document is iff its name and the texts of its entries are.
-/

namespace ExpectFile

/-! ## Schemas -/

/-- Whether a magnitude is a whole number. -/
def Decimal.Magnitude.IsWhole : Decimal.Magnitude → Prop
  | .finite significand exponent => 0 ≤ exponent ∨ twoTo (-exponent).toNat ∣ significand
  | .infinite => False

namespace Json

/-- Whether a value is of the type that schemas call by a name. A number is an integer if it is a
whole number, however it is written. -/
def HasType (name : String) : Json → Prop
  | .null => name = "null"
  | .bool _ => name = "boolean"
  | .integer _ => name = "integer" ∨ name = "number"
  | .decimal _ magnitude => name = "number" ∨ name = "integer" ∧ magnitude.IsWhole
  | .string _ => name = "string"
  | .array _ => name = "array"
  | .object _ => name = "object"

/-- Whether a number is at least a bound. Of other values a bound asks nothing. -/
def AtLeast (bound : Int) : Json → Prop
  | .integer n => bound ≤ n
  | .decimal negative (.finite significand exponent) =>
    bound * Decimal.twoTo (-exponent).toNat
      ≤ (if negative then -(significand : Int) else significand) * Decimal.twoTo exponent.toNat
  | .decimal negative .infinite => negative = false
  | _ => True

/-- The names of the fields of an object. -/
def names : Json → List String
  | .object fields => fields.map (·.1)
  | _ => []

/-- What a keyword asks of a value, if there is no schema in its argument. The fields that the
schema knows are `known`. A keyword that only describes asks nothing. -/
def Asks (known : List String) (keyword : String) (argument value : Json) : Prop :=
  match argument with
  | .string name => keyword = "type" → HasType name value
  | .integer bound => keyword = "minimum" → AtLeast bound value
  | .array options =>
    (keyword = "enum" → value ∈ options)
      ∧ (keyword = "required" → HasType "object" value →
        ∀ name, .string name ∈ options → name ∈ value.names)
  | .bool allowed =>
    keyword = "additionalProperties" → allowed = false → ∀ name ∈ value.names, name ∈ known
  | _ => True

/-- The items of an array. -/
def items : Json → List Json
  | .array items => items
  | _ => []

mutual

/-- Whether a value is as a schema asks: it has what each of the keywords asks for, in it and in
the values inside. -/
def Conforms : (schema value : Json) → Prop
  | .object keywords, value => Meets ((Json.object keywords).get? "properties") keywords value
  | .bool allowed, _ => allowed = true
  | _, _ => False

/-- Whether a value has what keywords ask for. -/
def Meets (properties : Option Json) : (keywords : List (String × Json)) → (value : Json) → Prop
  | [], _ => True
  | (keyword, argument) :: rest, value =>
    Asks ((properties.map names).getD []) keyword argument value
      ∧ (keyword = "items" → ∀ item ∈ value.items, Conforms argument item)
      ∧ (match argument with
        | .object fields => keyword = "properties" → FieldsConform fields value
        | _ => True)
      ∧ Meets properties rest value

/-- Whether the fields of a value that there are schemas for are as these ask. -/
def FieldsConform : (schemas : List (String × Json)) → (value : Json) → Prop
  | [], _ => True
  | (name, schema) :: rest, value =>
    (∀ field, value.get? name = some field → Conforms schema field) ∧ FieldsConform rest value

end

end Json

namespace Export

open Json

/-! ## The schemas of a document -/

/-- A schema that asks for values of a type, and for more without fields. -/
theorem conforms_ofType_iff {name : String} {more : List (String × Json)} {value : Json}
    (h : (Json.object more).get? "properties" = none) :
    Conforms (ofType name more) value ↔ HasType name value ∧ Meets none more value := by
  have hproperties : (Json.object (("type", .string name) :: more)).get? "properties" = none := h
  rw [ofType, Conforms, hproperties]
  simp [Meets, Asks]

/-- A keyword with a text asks nothing, unless it is one that constrains. -/
theorem meets_described {properties : Option Json} {keyword text : String}
    {rest : List (String × Json)} {value : Json} (htype : keyword ≠ "type")
    (hitems : keyword ≠ "items") :
    Meets properties ((keyword, .string text) :: rest) value ↔ Meets properties rest value := by
  simp [Meets, Asks, htype, hitems]

/-- A schema for objects asks for just its fields, and each has to be as its own schema asks. -/
theorem meets_objectOf_iff (fields : List (String × Json)) (value : Json) :
    Meets (some (.object fields)) (objectOf fields) value
      ↔ HasType "object" value ∧ (∀ name, name ∈ value.names ↔ name ∈ (Json.object fields).names)
        ∧ FieldsConform fields value := by
  have hrequired : (∀ name, Json.string name ∈ fields.map (fun field => Json.string field.1)
        → name ∈ value.names)
      ↔ ∀ name ∈ (Json.object fields).names, name ∈ value.names := by
    simp [Json.names]
  simp only [objectOf, Meets, Asks, forall_const, Option.map_some, Option.getD_some, hrequired,
    true_and, and_true, String.reduceEq, false_implies]
  constructor
  · rintro ⟨hobject, hall, honly, hfields⟩
    exact ⟨hobject, fun name => ⟨honly name, hall hobject name⟩, hfields⟩
  · rintro ⟨hobject, hnames, hfields⟩
    exact ⟨hobject, fun _ name => (hnames name).mpr, fun name => (hnames name).mp, hfields⟩

/-- A field that is there is the only one that its schema has to do with. -/
theorem forall_get?_iff (value : Json) (name : String) {found schema : Json}
    (h : value.get? name = some found) :
    (∀ field, value.get? name = some field → Conforms schema field) ↔ Conforms schema found := by
  constructor
  · exact fun hall => hall found h
  · intro hfound field hfield
    obtain rfl : found = field := Option.some.inj (h.symm.trans hfield)
    exact hfound

theorem conforms_string_iff {value : Json} :
    Conforms (ofType "string" []) value ↔ isText value = true := by
  rw [conforms_ofType_iff rfl]
  cases value <;> simp [HasType, Meets, isText]

/-- What is written for a kind is a word that the schema lists. -/
theorem conforms_kind (kind : BlockKind) :
    Conforms (ofType "string" [("enum", .array ([.directive, .assertion, .code].map
      fun kind : BlockKind => .string kind.word))]) (.string kind.word) := by
  refine (conforms_ofType_iff rfl).mpr ⟨rfl, ?_⟩
  cases kind <;> simp [Meets, Asks]

/-- A bound of an extent is a whole number and not negative. -/
theorem conforms_bound (bound : Nat) :
    Conforms (ofType "integer" [("minimum", .integer 0)]) (.integer bound) := by
  refine (conforms_ofType_iff rfl).mpr ⟨Or.inl rfl, ?_⟩
  simp [Meets, Asks, AtLeast]

/-- **An entry is as its schema asks iff its text is one.** -/
theorem conforms_entry_iff (entry : Entry) :
    Conforms entrySchema entry.json ↔ isText entry.text = true := by
  show Meets (some (.object _)) (objectOf _) entry.json ↔ _
  rw [meets_objectOf_iff]
  have hnames : ∀ name, name ∈ entry.json.names ↔ name ∈ ["kind", "text", "start", "end"] :=
    fun name => Iff.rfl
  simp only [FieldsConform]
  rw [forall_get?_iff entry.json "kind" rfl,
    forall_get?_iff entry.json "text" rfl,
    forall_get?_iff entry.json "start" rfl,
    forall_get?_iff entry.json "end" rfl, conforms_string_iff]
  constructor
  · rintro ⟨-, -, -, htext, -⟩
    exact htext
  · intro htext
    exact ⟨rfl, hnames, conforms_kind entry.kind, htext, conforms_bound _, conforms_bound _,
      trivial⟩

/-- The entries are as the schema asks iff each of them is. -/
theorem conforms_entries_iff (entries : List Entry) :
    Conforms (ofType "array" [("items", entrySchema)]) (.array (entries.map Entry.json))
      ↔ ∀ entry ∈ entries, isText entry.text = true := by
  rw [conforms_ofType_iff rfl]
  simp [HasType, Meets, Asks, entrySchema, Json.items, ← conforms_entry_iff]

/-- **A document is as the schema asks** iff its name is a text, and so is the text of each entry.
The keywords in front of the others describe the schema and ask nothing. -/
theorem conforms_draft_iff (source : Json) (entries : List Entry) :
    Conforms schema (draft source entries)
      ↔ isText source = true ∧ ∀ entry ∈ entries, isText entry.text = true := by
  have hnames : ∀ name, name ∈ (draft source entries).names ↔ name ∈ ["source", "blocks"] :=
    fun name => Iff.rfl
  -- what is left of the schema behind its description is a schema for objects
  have hdescribed : Conforms schema (draft source entries)
      ↔ Meets (some (.object [("source", ofType "string" []),
            ("blocks", ofType "array" [("items", entrySchema)])]))
          (objectOf [("source", ofType "string" []),
            ("blocks", ofType "array" [("items", entrySchema)])]) (draft source entries) := by
    rw [schema, Conforms, List.cons_append, List.cons_append, List.nil_append,
      meets_described (by decide) (by decide), meets_described (by decide) (by decide)]
    rfl
  rw [hdescribed, meets_objectOf_iff]
  simp only [FieldsConform]
  rw [forall_get?_iff (draft source entries) "source" rfl,
    forall_get?_iff (draft source entries) "blocks" rfl, conforms_string_iff,
    conforms_entries_iff]
  constructor
  · rintro ⟨-, -, hsource, hentries, -⟩
    exact ⟨hsource, hentries⟩
  · rintro ⟨hsource, hentries⟩
    exact ⟨rfl, hnames, hsource, hentries, trivial⟩

end Export

end ExpectFile
