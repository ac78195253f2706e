import ExpectFile.Proofs.Grammar.DottedCalls
import ExpectFile.Proofs.Marker.Classification
import ExpectFile.Proofs.Phrase.Placement

/-!
# Where a name is recognized

A vocabulary holds names as they were given, but a name in a text is an identifier: it is read in
normal form, part by part. So a call is a marker by the name that its spelling is read as
(`readName`). For a name in normal form that is the name itself; a name with, say, a ligature in it
is never found under its own spelling, and its calls are ordinary code.

* **`exists_phrasesOf_call`** — a call that is spelled out is one statement, which calls the name
  that the spelling is read as.
* **`called_marker?_iff`** — what the statement is, by that name.
* **`registered_recognized`** — so a registered name in normal form is recognized.
* **`not_forall_registered_recognized`** — a registered name whose calls are ordinary code.
-/

namespace ExpectFile

open Grammar Outcome Text

/-! ## Spelling and name -/

/-- The text of a call, the argument as it is spelled. -/
def callText (name argument : String) : String := name ++ "(" ++ argument ++ ")"

/-- The name that a spelling is read as: every part of it is brought into normal form. -/
def readName (parts : List String) : String := dotted (parts.map fun part => identifier part.toList)

/-- Parts in normal form are read as they are spelled. -/
theorem readName_of_normal {parts : List String}
    (h : ∀ part ∈ parts, identifier part.toList = part) : readName parts = dotted parts := by
  unfold readName
  rw [List.map_congr_left h, List.map_id']

theorem toList_callText_dotted (parts : List String) (argument : String) :
    (callText (dotted parts) argument).toList
      = dottedCall (parts.map String.toList) argument.toList := by
  simp [callText, dotted, dottedCall]

/-- The attributes that names behind points are spell these names. -/
theorem Grammar.Expr.Spells.attributes {callee : Expr} {names : List String}
    (h : callee.Spells names) (others : List (List Char)) :
    (Grammar.attributes callee others).Spells (names ++ others.map identifier) := by
  induction others generalizing callee names with
  | nil =>
    rw [List.map_nil, List.append_nil]
    exact h
  | cons raw others ih =>
    have hnext := ih (Spells.dotted (identifier raw) h)
    rw [List.append_assoc] at hnext
    exact hnext

/-! ## Calls in a text -/

variable {parts : List String} {literal value sourceName name : String} {v : Vocabulary}
  {contents : Option String} {statement : Statement} {marked : Bool}

/-- **A call that is spelled out is one statement.** It takes up the whole text, and calls the name
that the spelling is read as with the text that the literal denotes. -/
theorem exists_phrasesOf_call (hparts : parts ≠ []) (hnames : ∀ part ∈ parts, IsName part.toList)
    (hliteral : SpellsText (lineFeeds literal.toList) value) (hnull : '\x00' ∉ literal.toList)
    (hsource : '\x00' ∉ sourceName.toList) :
    ∃ statement marked, phrasesOf sourceName (callText (dotted parts) literal)
        = .ok [.single statement]
      ∧ statement.extent.start = 0
      ∧ statement.extent.stop = (callText (dotted parts) literal).length
      ∧ statement.Calls (readName parts) [.constant (.text value marked)] [] := by
  obtain ⟨first, others, rfl⟩ := List.exists_cons_of_ne_nil hparts
  have hspelled : ∀ part ∈ (first :: others).map String.toList, IsName part := by
    simpa using hnames
  have htext : lineFeeds (callText (dotted (first :: others)) literal).toList
      = dottedCall ((first :: others).map String.toList) (lineFeeds literal.toList) := by
    rw [toList_callText_dotted, lineFeeds_dottedCall hspelled]
  have hzero : '\x00' ∉ (callText (dotted (first :: others)) literal).toList := by
    have hname : '\x00' ∉ joined ['.'] ((first :: others).map String.toList) :=
      not_mem_joined hspelled (by decide) (by decide)
    rw [toList_callText_dotted]
    simpa [dottedCall] using ⟨hname, hnull⟩
  obtain ⟨marked, hparse⟩ := parseStatements_dottedCall hspelled hliteral htext
  have hspells : (attributes (.name (identifier first.toList)) (others.map String.toList)).Spells
      ((first :: others).map fun part => identifier part.toList) := by
    have h := (Expr.Spells.plain (identifier first.toList)).attributes (others.map String.toList)
    rwa [List.map_map] at h
  have hphrases := bind_eq_ok.mpr
    ⟨_, parseSource_eq_ok_iff.mpr ⟨hsource, hzero, hparse⟩, Phrase.ofParsed_single _ _⟩
  exact ⟨_, marked, hphrases, rfl, rfl, _, _, rfl, hspells, rfl⟩

/-! ## Names in a vocabulary -/

namespace Statement

/-- **The three things that a call with a text can be**, by its name alone. -/
theorem marker?_of_text (hcall : statement.Calls name [.constant (.text value marked)] []) :
    ¬v.Has name ∧ statement.marker? v contents = .ok none
      ∨ v.Conflicts name ∧ (∃ fault, statement.marker? v contents = .error fault)
      ∨ ¬v.Conflicts name ∧ ∃ marker, statement.marker? v contents = .ok (some marker)
        ∧ marker.Means v name (some value) statement.extent := by
  by_cases hhas : v.Has name
  · by_cases hconflict : v.Conflicts name
    · exact Or.inr (Or.inl ⟨hconflict, _, marker?_of_conflicts hcall hconflict⟩)
    · exact Or.inr (Or.inr ⟨hconflict,
        exists_marker?_of_saying hcall hhas hconflict (.text value marked) fun _ => nofun⟩)
  · refine Or.inl ⟨hhas, marker?_of_ordinary ?_⟩
    rintro ⟨other, positional, named, hother, hknown⟩
    exact hhas (hcall.name_unique hother ▸ hknown)

/-- Such a call is ordinary code iff its name is not in the vocabulary. -/
theorem marker?_eq_none_iff (hcall : statement.Calls name [.constant (.text value marked)] []) :
    statement.marker? v contents = .ok none ↔ ¬v.Has name := by
  rcases marker?_of_text hcall with ⟨hunknown, hread⟩ | ⟨hconflict, fault, hread⟩
    | ⟨-, marker, hread, hmeans⟩
  · exact iff_of_true hread hunknown
  · exact iff_of_false (by rw [hread]; exact nofun) (not_not_intro hconflict.has)
  · exact iff_of_false (by rw [hread]; exact nofun) (not_not_intro hmeans.has)

/-- And it is a marker iff its name stands there for one thing, of which it is a marker. -/
theorem marker?_eq_iff_means (hcall : statement.Calls name [.constant (.text value marked)] [])
    {marker : Marker} :
    statement.marker? v contents = .ok (some marker)
      ↔ ¬v.Conflicts name ∧ marker.Means v name (some value) statement.extent := by
  rcases marker?_of_text hcall with ⟨hunknown, hread⟩ | ⟨hconflict, fault, hread⟩
    | ⟨hconflict, found, hread, hfound⟩
  · exact iff_of_false (by rw [hread]; exact nofun) fun h => hunknown h.2.has
  · exact iff_of_false (by rw [hread]; exact nofun) fun h => h.1 hconflict
  · rw [hread, Except.ok.injEq, Option.some.injEq]
    constructor
    · rintro rfl
      exact ⟨hconflict, hfound⟩
    · exact fun h => hfound.unique hconflict h.2

end Statement

/-! ## Registered names -/

/-- **When a name is recognized where it is written.** A call that is spelled out is one statement,
whatever the name and however the literal is spelled; and what the statement is goes by the name
that the spelling is read as. It is ordinary code iff the vocabulary does not have that name, even
if it has the spelling; and it is a marker, of the text that the literal denotes, iff that name is
there and stands for one thing. -/
theorem called_marker?_iff (hparts : parts ≠ []) (hnames : ∀ part ∈ parts, IsName part.toList)
    (hliteral : SpellsText (lineFeeds literal.toList) value) (hnull : '\x00' ∉ literal.toList)
    (hsource : '\x00' ∉ sourceName.toList) :
    ∃ statement, phrasesOf sourceName (callText (dotted parts) literal) = .ok [.single statement]
      ∧ statement.extent.start = 0
      ∧ statement.extent.stop = (callText (dotted parts) literal).length
      ∧ ∀ (v : Vocabulary) (contents : Option String),
        (statement.marker? v contents = .ok none ↔ ¬v.Has (readName parts))
          ∧ ((∃ marker, statement.marker? v contents = .ok (some marker))
            ↔ v.Has (readName parts) ∧ ¬v.Conflicts (readName parts))
          ∧ ∀ marker, statement.marker? v contents = .ok (some marker)
            ↔ ¬v.Conflicts (readName parts)
              ∧ marker.Means v (readName parts) (some value) statement.extent := by
  obtain ⟨statement, marked, hphrases, hstart, hstop, hcall⟩ :=
    exists_phrasesOf_call hparts hnames hliteral hnull hsource
  refine ⟨statement, hphrases, hstart, hstop, fun v contents =>
    ⟨Statement.marker?_eq_none_iff hcall, ?_, fun _ => Statement.marker?_eq_iff_means hcall⟩⟩
  constructor
  · rintro ⟨marker, hread⟩
    obtain ⟨hconflict, hmeans⟩ := (Statement.marker?_eq_iff_means hcall).mp hread
    exact ⟨hmeans.has, hconflict⟩
  · rintro ⟨hhas, hconflict⟩
    obtain ⟨marker, hread, -⟩ :=
      Statement.exists_marker?_of_saying hcall hhas hconflict (.text value marked) fun _ => nofun
    exact ⟨marker, hread⟩

/-- **A registered name in normal form is recognized where it is written**; names of ASCII
characters are in normal form. -/
theorem registered_recognized (hparts : parts ≠ []) (hnames : ∀ part ∈ parts, IsName part.toList)
    (hnormal : ∀ part ∈ parts, identifier part.toList = part)
    (hliteral : SpellsText (lineFeeds literal.toList) value) (hnull : '\x00' ∉ literal.toList)
    (hsource : '\x00' ∉ sourceName.toList) (hhas : v.Has (dotted parts))
    (hconflict : ¬v.Conflicts (dotted parts)) :
    ∃ statement marker,
      phrasesOf sourceName (callText (dotted parts) literal) = .ok [.single statement]
        ∧ statement.marker? v contents = .ok (some marker)
        ∧ marker.Means v (dotted parts) (some value) statement.extent := by
  obtain ⟨statement, marked, hphrases, -, -, hcall⟩ :=
    exists_phrasesOf_call hparts hnames hliteral hnull hsource
  rw [readName_of_normal hnormal] at hcall
  obtain ⟨marker, hread, hmeans⟩ :=
    Statement.exists_marker?_of_saying hcall hhas hconflict (.text value marked) fun _ => nofun
  exact ⟨statement, marker, hphrases, hread, hmeans⟩

namespace Sample

/-- A vocabulary with one name, for tolerant assertions. -/
def vocabularyOf (name : String) : Vocabulary where
  tolerant := [name]
  exact := []
  directives := []
  parts := []
  tolerant_not_exact := by simp
  part_not_tolerant := by simp
  part_not_exact := by simp
  part_not_directive := by simp

theorem vocabularyOf_has {name other : String} : (vocabularyOf name).Has other ↔ other = name := by
  simp [Vocabulary.Has, vocabularyOf]

theorem vocabularyOf_not_conflicts (name other : String) :
    ¬(vocabularyOf name).Conflicts other := by
  simp [Vocabulary.Conflicts, vocabularyOf]

/-- A name with a ligature is well formed. -/
theorem isName_ligature : IsName "ﬁt".toList where
  wellFormed := by decide +kernel
  not_keyword := by decide +kernel

theorem readName_ligature : readName ["ﬁt"] = "fit" := by decide +kernel

theorem spellsText_x : SpellsText (lineFeeds "\"x\"".toList) "x" := by
  have hread : lexeme? "\"x\"".toList
      = some (.literal ⟨[], ['x']⟩, "\"x\"".toList, []) := rfl
  exact .literal hread rfl rfl rfl

end Sample

/-- A ligature is read as its letters, so the vocabulary has to have these. -/
theorem called_marker?_iff_ligature :
    ∃ statement, phrasesOf "<cell>" "ﬁt(\"x\")" = .ok [.single statement]
      ∧ statement.marker? (Sample.vocabularyOf "ﬁt") none = .ok none
      ∧ ∃ marker, statement.marker? (Sample.vocabularyOf "fit") none = .ok (some marker) := by
  have htext : callText (dotted ["ﬁt"]) "\"x\"" = "ﬁt(\"x\")" := by decide +kernel
  have hnames : ∀ part ∈ ["ﬁt"], IsName part.toList := by simpa using Sample.isName_ligature
  have hsource : '\x00' ∉ "<cell>".toList := by decide
  obtain ⟨statement, hphrases, -, -, hread⟩ := called_marker?_iff
    (List.cons_ne_nil "ﬁt" []) hnames Sample.spellsText_x (by decide) hsource
  rw [Sample.readName_ligature] at hread
  have hunknown : ¬(Sample.vocabularyOf "ﬁt").Has "fit" := by
    rw [Sample.vocabularyOf_has]
    decide +kernel
  refine ⟨statement, htext ▸ hphrases, (hread _ none).1.mpr hunknown,
    (hread (Sample.vocabularyOf "fit") none).2.1.mpr ⟨Sample.vocabularyOf_has.mpr rfl,
      Sample.vocabularyOf_not_conflicts _ _⟩⟩

/-- **Not every registered name is recognized where it is written.** A name with a ligature is an
identifier, and what is called by its spelling is another one. -/
theorem not_forall_registered_recognized :
    ¬∀ (v : Vocabulary) (parts : List String) (literal value : String), parts ≠ [] →
        (∀ part ∈ parts, IsName part.toList) → v.Has (dotted parts) →
        ¬v.Conflicts (dotted parts) → SpellsText (lineFeeds literal.toList) value →
        '\x00' ∉ literal.toList →
        ∃ statement marker,
          phrasesOf unnamedSource (callText (dotted parts) literal) = .ok [.single statement]
            ∧ statement.marker? v none = .ok (some marker) := by
  intro h
  have hnames : ∀ part ∈ ["ﬁt"], IsName part.toList := by simpa using Sample.isName_ligature
  have hname : dotted ["ﬁt"] = "ﬁt" := by decide +kernel
  have hsource : '\x00' ∉ unnamedSource.toList := by decide
  obtain ⟨found, marked, hfound, -, -, hcall⟩ := exists_phrasesOf_call
    (List.cons_ne_nil "ﬁt" []) hnames Sample.spellsText_x (by decide) hsource
  rw [Sample.readName_ligature] at hcall
  obtain ⟨statement, marker, hphrases, hread⟩ := h (Sample.vocabularyOf "ﬁt") ["ﬁt"] "\"x\"" "x"
    (List.cons_ne_nil "ﬁt" []) hnames (Sample.vocabularyOf_has.mpr hname)
    (Sample.vocabularyOf_not_conflicts _ _) Sample.spellsText_x (by decide)
  obtain rfl : statement = found := by
    have hsingle := Except.ok.inj (hphrases.symm.trans hfound)
    exact (List.cons.inj (congrArg Phrase.statements (List.cons.inj hsingle).1)).1
  have hunknown : ¬(Sample.vocabularyOf "ﬁt").Has "fit" := by
    rw [Sample.vocabularyOf_has]
    decide +kernel
  have hnone : statement.marker? (Sample.vocabularyOf "ﬁt") none = .ok none :=
    (Statement.marker?_eq_none_iff hcall).mpr hunknown
  exact absurd (hread.symm.trans hnone) nofun

end ExpectFile
