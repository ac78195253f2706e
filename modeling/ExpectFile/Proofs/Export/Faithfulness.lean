import ExpectFile.Output
import ExpectFile.Proofs.Export.Schema
import ExpectFile.Proofs.Json.RoundTrip
import ExpectFile.Proofs.Outcome

/-!
# What an export tells

An export is written for other tools to read, so it has to tell what it was made from: the name of
the file, and of every block its kind, its text and its extent. Where names and texts are texts,
there always is an export, reading it gives all of this back, and no two inputs have the same one.
Where one of them is something else, the document is not as the schema asks, and there is no export.

* **`document_outcome`** — a document is there iff it is as the schema asks; else a value is
  reported.
* **`read?_text_of_texts`** — reading an export gives the document back.
* **`draft_inj`** — a document is made from one input.
* **`export_faithful`** — the three together.
-/

namespace ExpectFile

open Json Outcome

namespace Export

/-! ## When there is a document -/

theorem isText_iff {value : Json} : isText value = true ↔ ∃ text, value = .string text := by
  cases value <;> simp [isText]

theorem not_isText_iff {value : Json} : ¬isText value = true ↔ ∀ text, value ≠ .string text := by
  rw [isText_iff, not_exists]

/-- Nothing is wrong with a document iff it has texts where texts belong. -/
theorem defect?_eq_none_iff {source : Json} {entries : List Entry} :
    defect? source entries = none
      ↔ isText source = true ∧ ∀ entry ∈ entries, isText entry.text = true := by
  unfold defect?
  split
  · rename_i hsource
    simp [hsource]
  · rename_i hsource
    simp [hsource]

/-- **There is a document iff it is as the schema asks.** Otherwise a value that is no text is
reported, and nothing else is ever reported. -/
theorem document_outcome (source : Json) (entries : List Entry) :
    (Conforms schema (draft source entries) ∧ document source entries = .ok (draft source entries))
      ∨ (¬Conforms schema (draft source entries)
        ∧ ∃ value, document source entries = .error (.notText value)) := by
  rw [conforms_draft_iff, ← defect?_eq_none_iff]
  unfold document
  cases hdefect : defect? source entries with
  | none => exact Or.inl ⟨rfl, rfl⟩
  | some value => exact Or.inr ⟨nofun, value, rfl⟩

/-! ## Reading a document -/

/-- The entries of blocks have texts. -/
theorem isText_of_mem_map_ofBlock (blocks : List Block) :
    ∀ entry ∈ blocks.map Entry.ofBlock, isText entry.text = true := by
  intro entry hentry
  obtain ⟨block, -, rfl⟩ := List.mem_map.mp hentry
  rfl

/-- What is written of a document with texts tells all about it. -/
theorem plain_draft {source : Json} {entries : List Entry} (hsource : isText source = true)
    (hentries : ∀ entry ∈ entries, isText entry.text = true) : Plain (draft source entries) := by
  have hplain : ∀ value, isText value = true → Plain value := by
    intro value hvalue
    obtain ⟨text, rfl⟩ := isText_iff.mp hvalue
    exact .string text
  have hentry : ∀ entry : Entry, isText entry.text = true → Plain entry.json := by
    intro entry htext
    have hnames : ["kind", "text", "start", "end"].Nodup := by decide
    refine .object hnames fun field hfield => ?_
    simp only [List.mem_cons, List.not_mem_nil, or_false] at hfield
    rcases hfield with rfl | rfl | rfl | rfl
    · exact .string _
    · exact hplain entry.text htext
    · exact .integer _
    · exact .integer _
  have hitems : ∀ item ∈ entries.map Entry.json, Plain item := by
    intro item hitem
    obtain ⟨entry, hmem, rfl⟩ := List.mem_map.mp hitem
    exact hentry entry (hentries entry hmem)
  have hnames : ["source", "blocks"].Nodup := by decide
  refine .object hnames fun field hfield => ?_
  simp only [List.mem_cons, List.not_mem_nil, or_false] at hfield
  rcases hfield with rfl | rfl
  · exact hplain source hsource
  · exact .array hitems

/-- **Reading an export gives the document back.** -/
theorem read?_text_of_texts {source : Json} {entries : List Entry} (hsource : isText source = true)
    (hentries : ∀ entry ∈ entries, isText entry.text = true) :
    ∃ content, text source entries = .ok content
      ∧ Json.read? content = some (draft source entries) := by
  have hdocument : document source entries = .ok (draft source entries) := by
    unfold document
    rw [defect?_eq_none_iff.mpr ⟨hsource, hentries⟩]
  refine ⟨_, map_eq_ok.mpr ⟨_, hdocument, rfl⟩, ?_⟩
  exact read?_write (plain_draft hsource hentries) .document

/-! ## Telling inputs apart -/

theorem word_inj {first second : BlockKind} (h : first.word = second.word) : first = second := by
  cases first <;> cases second <;> first | rfl | exact absurd h (by decide)

/-- An entry is made from one block. -/
theorem json_ofBlock_inj {first second : Block}
    (h : (Entry.ofBlock first).json = (Entry.ofBlock second).json) : first = second := by
  obtain ⟨kind, text, extent⟩ := first
  obtain ⟨otherKind, otherText, otherExtent⟩ := second
  simp only [Entry.json, Entry.ofBlock, Json.object.injEq, List.cons.injEq, Prod.mk.injEq, true_and,
    Json.string.injEq, Json.integer.injEq, and_true, Int.natCast_inj] at h
  obtain ⟨hkind, rfl, hstart, hstop⟩ := h
  rw [word_inj hkind, Extent.ext_bounds hstart hstop]

/-- **A document is made from one input.** -/
theorem draft_inj {source other : String} {blocks others : List Block}
    (h : draft (.string source) (blocks.map Entry.ofBlock)
      = draft (.string other) (others.map Entry.ofBlock)) : source = other ∧ blocks = others := by
  simp only [draft, Json.object.injEq, List.cons.injEq, Prod.mk.injEq, true_and, Json.string.injEq,
    Json.array.injEq, and_true, List.map_map] at h
  refine ⟨h.1, List.map_injective_iff.mpr ?_ h.2⟩
  exact fun first second => json_ofBlock_inj

end Export

open Export

/-! ## Exports -/

/-- A name that is not empty is the name that is used. -/
theorem sourceOfChoice_string (settings : Settings) {source : String} (h : source ≠ "") :
    sourceOfChoice settings (.string source) = .string source := by
  have hvoid : ¬(Json.string source).isVoid = true := by
    simpa [Json.isVoid] using h
  unfold sourceOfChoice
  rw [if_neg hvoid]

/-- An export is written iff there is a text for it. -/
theorem Output.document_eq_ok_iff {source : Json} {entries : List Entry} {output : Output} :
    Output.document source entries = .ok output
      ↔ ∃ content, Export.text source entries = .ok content
        ∧ output = ⟨"-blocks.json", content, "application/json"⟩ := by
  unfold Output.document
  rw [bind_eq_ok]
  refine exists_congr fun content => and_congr_right fun _ => ?_
  exact ⟨fun h => (Except.ok.inj h).symm, fun h => congrArg Except.ok h.symm⟩

/-- **There is an export iff the document is as the schema asks.** Otherwise a value that is no text
is reported. -/
theorem Output.document_outcome (source : Json) (entries : List Entry) :
    (Conforms schema (draft source entries) ∧ ∃ output, Output.document source entries = .ok output)
      ∨ (¬Conforms schema (draft source entries)
        ∧ ∃ value, Output.document source entries = .error (.notText value)) := by
  rcases Export.document_outcome source entries with ⟨hconforms, hdocument⟩ | ⟨hnot, value, hfault⟩
  · have hcontent : Export.text source entries
        = .ok (Json.write .document (draft source entries)) := map_eq_ok.mpr ⟨_, hdocument, rfl⟩
    exact Or.inl ⟨hconforms, _, Output.document_eq_ok_iff.mpr ⟨_, hcontent, rfl⟩⟩
  · exact Or.inr ⟨hnot, value, bind_eq_error.mpr (Or.inl (map_eq_error.mpr hfault))⟩

/-- A document is not as the schema asks iff some text in it is none. -/
theorem not_conforms_draft_iff {source : Json} {entries : List Entry} :
    ¬Conforms schema (draft source entries)
      ↔ (∃ entry ∈ entries, ∀ text, entry.text ≠ .string text) ∨ ∀ text, source ≠ .string text := by
  rw [conforms_draft_iff, not_and_or, or_comm, not_isText_iff]
  simp only [not_forall, not_isText_iff, exists_prop]

/-- **An export tells what it was made from.** For every name that is not empty and every list of
blocks there is an export. Reading it gives an object with the name and the blocks, each with its
kind, its text and the bounds of its extent, and no other input has the same export. For names and
texts of any kind, there is none iff the text of some block is no text, or the name that is used
after the settings have stood in for a void one; what is reported then is a value that is no text.
There is one iff the document is as the schema asks. -/
theorem export_faithful (settings : Settings) :
    (∀ (source : String) (blocks : List Block), source ≠ "" →
      ∃ output, (Printer.document (sourceOfChoice settings (.string source))).print blocks
          = .ok output
        ∧ Json.read? output.content = some (.object
            [("source", .string source),
              ("blocks", .array (blocks.map fun block => .object
                [("kind", .string block.kind.word), ("text", .string block.text),
                  ("start", .integer block.extent.start), ("end", .integer block.extent.stop)]))])
        ∧ ∀ (other : String) (others : List Block) (same : Output), other ≠ "" →
            (Printer.document (sourceOfChoice settings (.string other))).print others = .ok same →
              same.content = output.content → other = source ∧ others = blocks)
      ∧ ∀ (source : Json) (entries : List Entry),
        ((∃ value, Output.document (sourceOfChoice settings source) entries
              = .error (.notText value))
            ↔ (∃ entry ∈ entries, ∀ text, entry.text ≠ .string text)
              ∨ ∀ text, sourceOfChoice settings source ≠ .string text)
          ∧ ((∃ output, Output.document (sourceOfChoice settings source) entries = .ok output)
            ↔ Conforms schema (draft (sourceOfChoice settings source) entries))
          ∧ ∀ fault, Output.document (sourceOfChoice settings source) entries = .error fault →
            ∃ value, fault = .notText value := by
  have hread : ∀ (source : String) (blocks : List Block), source ≠ "" →
      ∃ output, (Printer.document (sourceOfChoice settings (.string source))).print blocks
          = .ok output
        ∧ Json.read? output.content
          = some (draft (.string source) (blocks.map Entry.ofBlock)) := by
    intro source blocks hsource
    have hname : isText (.string source) = true := rfl
    obtain ⟨content, hcontent, hread⟩ :=
      read?_text_of_texts hname (isText_of_mem_map_ofBlock blocks)
    rw [sourceOfChoice_string settings hsource]
    exact ⟨_, Output.document_eq_ok_iff.mpr ⟨content, hcontent, rfl⟩, hread⟩
  refine ⟨fun source blocks hsource => ?_, fun source entries => ?_⟩
  · obtain ⟨output, houtput, hdraft⟩ := hread source blocks hsource
    refine ⟨output, houtput, ?_, fun other others same hother hsame hcontent => ?_⟩
    · rw [hdraft, draft, List.map_map]
      rfl
    · -- one text is read as one document, and a document is made from one input
      obtain ⟨again, hagain, hotherDraft⟩ := hread other others hother
      obtain rfl : same = again := Except.ok.inj (hsame.symm.trans hagain)
      rw [hcontent, hdraft] at hotherDraft
      obtain ⟨rfl, rfl⟩ := draft_inj (Option.some.inj hotherDraft)
      exact ⟨rfl, rfl⟩
  · rw [← not_conforms_draft_iff]
    rcases Output.document_outcome (sourceOfChoice settings source) entries with
      ⟨hconforms, output, houtput⟩ | ⟨hnot, value, hfault⟩
    · rw [houtput]
      refine ⟨⟨nofun, fun hnot => ?_⟩, ⟨fun _ => hconforms, fun _ => ⟨output, rfl⟩⟩, nofun⟩
      exact absurd hconforms hnot
    · rw [hfault]
      refine ⟨⟨fun _ => hnot, fun _ => ⟨value, rfl⟩⟩, ⟨nofun, fun hconforms => ?_⟩,
        fun fault h => ?_⟩
      · exact absurd hconforms hnot
      · exact ⟨value, (Except.error.inj h).symm⟩

/-- An export of one block, read back, and a block whose text is missing, so that there is none. -/
theorem export_faithful_sample :
    (∃ output, (Printer.document (.string "a.py")).print [⟨.code, "x\n", ⟨0, 2, by decide⟩⟩]
        = .ok output
      ∧ Json.read? output.content = some (.object
          [("source", .string "a.py"),
            ("blocks", .array [.object [("kind", .string "code"), ("text", .string "x\n"),
              ("start", .integer 0), ("end", .integer 2)]])]))
      ∧ ∃ value, Output.document (.string "a.py") [⟨.code, .null, ⟨0, 2, by decide⟩⟩]
        = .error (.notText value) := by
  have hfaithful := export_faithful ⟨[], [], [], [], "", "", ""⟩
  constructor
  · obtain ⟨output, houtput, hread, -⟩ :=
      hfaithful.1 "a.py" [⟨.code, "x\n", ⟨0, 2, by decide⟩⟩] (by decide)
    exact ⟨output, houtput, hread⟩
  · have hrefused := (hfaithful.2 (.string "a.py") [⟨.code, .null, ⟨0, 2, by decide⟩⟩]).1
    exact hrefused.mpr (Or.inl ⟨_, List.mem_singleton_self _, nofun⟩)

end ExpectFile
