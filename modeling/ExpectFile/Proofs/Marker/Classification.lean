import ExpectFile.Proofs.Marker.Quoting

/-!
# What a statement is read as

The names of a vocabulary part the statements: those that call none of them are ordinary code, and
every other one is a marker or is reported. Said without the order in which names and arguments are
looked at, this is a table (`Marker.Means`, `Malformation.Of`), and a vocabulary leaves one line
of it for each name.

A report quotes the statement, and without a text to quote from the statement has to be printed. A
few expressions cannot be, and then this is what is reported.

* **`dottedName?_eq_some_iff`** — which expressions spell a name.
* **`marker?_eq_some_iff`** — which calls are markers.
* **`marker?_outcome`** — what every statement is read as.
* **`not_forall_malformed_reported`** — a malformed marker that is not reported as one.
-/

namespace ExpectFile

open Grammar Text

/-! ## Calls of names -/

/-- The expression is a name, plain or behind points, of these parts. -/
inductive Grammar.Expr.Spells : Expr → List String → Prop where
  | plain (identifier : String) : Spells (.name identifier) [identifier]
  | dotted {value : Expr} {parts : List String} (identifier : String) (h : Spells value parts) :
      Spells (.attribute value identifier) (parts ++ [identifier])

/-- The parts of a name with points between them. -/
def dotted (parts : List String) : String :=
  String.ofList (joined ['.'] (parts.map String.toList))

theorem joined_concat {separator piece : List Char} {pieces : List (List Char)}
    (h : pieces ≠ []) :
    joined separator (pieces ++ [piece]) = joined separator pieces ++ separator ++ piece := by
  induction pieces with
  | nil => exact absurd rfl h
  | cons first others ih =>
    cases others with
    | nil => rfl
    | cons second more =>
      have hmore := ih (List.cons_ne_nil second more)
      simp only [List.cons_append, joined] at hmore ⊢
      rw [hmore]
      simp only [List.append_assoc]

theorem dotted_concat {parts : List String} (h : parts ≠ []) (identifier : String) :
    dotted (parts ++ [identifier]) = dotted parts ++ "." ++ identifier := by
  have hparts : parts.map String.toList ≠ [] := by simpa using h
  unfold dotted
  rw [List.map_append, List.map_singleton, joined_concat hparts]
  apply String.toList_inj.mp
  simp

theorem Grammar.Expr.Spells.ne_nil {e : Expr} {parts : List String} (h : e.Spells parts) :
    parts ≠ [] := by
  cases h <;> simp

/-- **Which expressions spell a name.** -/
theorem dottedName?_eq_some_iff {e : Expr} {name : String} :
    e.dottedName? = some name ↔ ∃ parts, e.Spells parts ∧ name = dotted parts := by
  constructor
  · intro h
    induction e using Expr.dottedName?.induct generalizing name with
    | case1 identifier =>
      rw [Expr.dottedName?] at h
      exact ⟨[identifier], .plain identifier, (Option.some.inj h).symm.trans (by simp [dotted, joined])⟩
    | case2 value identifier ih =>
      rw [Expr.dottedName?] at h
      obtain ⟨base, hbase, rfl⟩ := Option.map_eq_some_iff.mp h
      obtain ⟨parts, hparts, rfl⟩ := ih hbase
      exact ⟨_, .dotted identifier hparts, (dotted_concat hparts.ne_nil identifier).symm⟩
    | case3 e hname hattribute =>
      rw [Expr.dottedName?] at h
      · cases h
      · exact hname
      · exact hattribute
  · rintro ⟨parts, hparts, rfl⟩
    induction hparts with
    | plain identifier => simp [Expr.dottedName?, dotted, joined]
    | dotted identifier hparts ih =>
      rw [Expr.dottedName?, ih, dotted_concat hparts.ne_nil]
      rfl

/-- The statement is a call of a name, and nothing else. -/
def Statement.Calls (statement : Statement) (name : String) (positional named : List Expr) : Prop :=
  ∃ callee parts, statement.expression = some (.call callee positional named)
    ∧ callee.Spells parts ∧ name = dotted parts

theorem Statement.namedCall?_eq_some_iff {statement : Statement} {name : String}
    {positional named : List Expr} :
    statement.namedCall? = some (name, positional, named)
      ↔ statement.Calls name positional named := by
  unfold namedCall? Calls
  split
  · rename_i callee positional' named' hcall
    rw [Option.map_eq_some_iff, hcall]
    constructor
    · rintro ⟨found, hfound, heq⟩
      obtain ⟨rfl, rfl, rfl⟩ : found = name ∧ positional' = positional ∧ named' = named := by
        simpa using heq
      obtain ⟨parts, hparts, hname⟩ := dottedName?_eq_some_iff.mp hfound
      exact ⟨callee, parts, rfl, hparts, hname⟩
    · rintro ⟨_, parts, heq, hparts, hname⟩
      obtain ⟨rfl, rfl, rfl⟩ := Expr.call.inj (Option.some.inj heq)
      exact ⟨name, dottedName?_eq_some_iff.mpr ⟨parts, hparts, hname⟩, rfl⟩
  · rename_i hnone
    constructor
    · exact fun h => absurd h nofun
    · rintro ⟨callee, parts, hcall, -⟩
      exact absurd hcall (hnone callee positional named)

/-- What a statement calls is determined. -/
theorem Statement.Calls.name_unique {statement : Statement} {name other : String}
    {positional named positional' named' : List Expr}
    (h : statement.Calls name positional named)
    (hother : statement.Calls other positional' named') : name = other := by
  have heq := (namedCall?_eq_some_iff.mpr h).symm.trans (namedCall?_eq_some_iff.mpr hother)
  exact congrArg Prod.fst (Option.some.inj heq)

/-! ## Arguments -/

/-- What arguments say where they are what a marker takes: nothing, or the text of a literal. -/
inductive Says : (positional named : List Expr) → Option String → Prop where
  | nothing : Says [] [] none
  | text (value : String) (marked : Bool) : Says [.constant (.text value marked)] [] (some value)

/-- What is wrong with the arguments of a marker; `isPart` says whether it is a part declaration. -/
inductive Malformation.Of (isPart : Prop) :
    (positional named : List Expr) → Malformation → Prop where
  | keyword {positional named : List Expr} (h : named ≠ []) :
      Of isPart positional named .keywordArgument
  | several {positional : List Expr} (h : 1 < positional.length) :
      Of isPart positional [] .severalArguments
  | noLiteral {argument : Expr}
      (h : ∀ value marked, argument ≠ .constant (.text value marked)) :
      Of isPart [argument] [] .notALiteral
  | noLabel (h : isPart) : Of isPart [] [] .missingLabel

variable {positional named : List Expr} {text : Option String} {what : Malformation}
  {name : String} {statement : Statement} {v : Vocabulary} {contents : Option String}

theorem payload_of_saying (h : Says positional named text) :
    Statement.payload positional named = .ok text := by
  cases h <;> rfl

theorem payload_of_malformed (h : what.Of False positional named) :
    Statement.payload positional named = .error what := by
  cases h with
  | keyword h =>
    unfold Statement.payload
    rw [if_pos (by simpa using h)]
  | several h =>
    unfold Statement.payload
    rw [if_neg (by simp)]
    split
    all_goals first | rfl | exact absurd h (by simp)
  | noLiteral h =>
    unfold Statement.payload
    rw [if_neg (by simp)]
    split
    · rename_i heq
      exact absurd heq (List.cons_ne_nil _ _)
    · rename_i value marked heq
      exact absurd (List.cons.inj heq).1 (h value marked)
    · rfl
    · rename_i hmore
      exact absurd rfl (hmore _)
  | noLabel h => exact h.elim

/-- **Arguments say something, or something is wrong with them**, and never both. -/
theorem says_or_malformed (positional named : List Expr) :
    (∃ text, Says positional named text) ∨ ∃ what : Malformation, what.Of False positional named := by
  match positional, named with
  | _, _ :: _ => exact Or.inr ⟨_, .keyword (List.cons_ne_nil _ _)⟩
  | [], [] => exact Or.inl ⟨_, .nothing⟩
  | _ :: _ :: rest, [] => exact Or.inr ⟨_, .several (by simp)⟩
  | [argument], [] =>
    by_cases hliteral : ∃ value marked, argument = .constant (.text value marked)
    · obtain ⟨value, marked, rfl⟩ := hliteral
      exact Or.inl ⟨_, .text value marked⟩
    · exact Or.inr ⟨_, .noLiteral fun value marked heq => hliteral ⟨value, marked, heq⟩⟩

/-! ## Names -/

/-- The name is in the vocabulary. -/
def Vocabulary.Has (v : Vocabulary) (name : String) : Prop :=
  name ∈ v.tolerant ∨ name ∈ v.exact ∨ name ∈ v.directives ∨ name ∈ v.parts

/-- The name stands for an assertion and for a directive. -/
def Vocabulary.Conflicts (v : Vocabulary) (name : String) : Prop :=
  (name ∈ v.tolerant ∨ name ∈ v.exact) ∧ name ∈ v.directives

/-- What a call is a marker of, by the list that its name is in, given what its arguments say. -/
inductive Marker.Means (v : Vocabulary) (name : String) (text : Option String) (extent : Extent) :
    Marker → Prop where
  | tolerant (h : name ∈ v.tolerant) :
      Means v name text extent (.assertion ⟨name, .tolerant, text, extent⟩)
  | exact (h : name ∈ v.exact) :
      Means v name text extent (.assertion ⟨name, .exact, text, extent⟩)
  | directive (h : name ∈ v.directives) :
      Means v name text extent (.directive name (text.getD "") extent)
  | part (label : String) (h : name ∈ v.parts) (htext : text = some label) :
      Means v name text extent (.part name label extent)

theorem Vocabulary.contains_iff : v.contains name = true ↔ v.Has name := by
  simp [Vocabulary.contains, Vocabulary.Has, or_assoc]

theorem Vocabulary.isSome_strictness?_iff :
    (v.strictness? name).isSome = true ↔ name ∈ v.tolerant ∨ name ∈ v.exact := by
  unfold strictness?
  split
  · rename_i htolerant
    exact iff_of_true rfl (Or.inl (List.contains_iff_mem.mp htolerant))
  · rename_i htolerant
    rw [List.contains_iff_mem] at htolerant
    split
    · rename_i hexact
      exact iff_of_true rfl (Or.inr (List.contains_iff_mem.mp hexact))
    · rename_i hexact
      rw [List.contains_iff_mem] at hexact
      exact iff_of_false nofun (not_or.mpr ⟨htolerant, hexact⟩)

theorem Vocabulary.Conflicts.has (h : v.Conflicts name) : v.Has name :=
  h.1.elim Or.inl fun hexact => Or.inr (Or.inl hexact)

theorem Marker.Means.has {text : Option String} {extent : Extent} {marker : Marker}
    (h : Means v name text extent marker) : v.Has name := by
  cases h with
  | tolerant h => exact Or.inl h
  | exact h => exact Or.inr (Or.inl h)
  | directive h => exact Or.inr (Or.inr (Or.inl h))
  | part label h _ => exact Or.inr (Or.inr (Or.inr h))

/-- The condition under which a call is reported for its name. -/
theorem Vocabulary.conflicts_iff :
    ((v.strictness? name).isSome && v.directives.contains name) = true ↔ v.Conflicts name := by
  rw [Bool.and_eq_true, isSome_strictness?_iff, List.contains_iff_mem]
  rfl

/-- **One list for each name.** What a call means is determined by its name, unless the name stands
for two things. -/
theorem Marker.Means.unique {extent : Extent} {marker other : Marker}
    (hconflict : ¬v.Conflicts name) (h : Means v name text extent marker)
    (hother : Means v name text extent other) : marker = other := by
  have hdirective : name ∈ v.tolerant ∨ name ∈ v.exact → name ∉ v.directives :=
    fun hname hmem => hconflict ⟨hname, hmem⟩
  -- no two lists share a name but those that conflict, which has been excluded
  cases h with
  | tolerant h =>
    cases hother with
    | tolerant _ => rfl
    | exact hexact => exact absurd hexact (v.tolerant_not_exact name h)
    | directive hmem => exact absurd hmem (hdirective (Or.inl h))
    | part label hpart _ => exact absurd h (v.part_not_tolerant name hpart)
  | exact h =>
    cases hother with
    | tolerant htolerant => exact absurd h (v.tolerant_not_exact name htolerant)
    | exact _ => rfl
    | directive hmem => exact absurd hmem (hdirective (Or.inr h))
    | part label hpart _ => exact absurd h (v.part_not_exact name hpart)
  | directive h =>
    cases hother with
    | tolerant htolerant => exact absurd h (hdirective (Or.inl htolerant))
    | exact hexact => exact absurd h (hdirective (Or.inr hexact))
    | directive _ => rfl
    | part label hpart _ => exact absurd h (v.part_not_directive name hpart)
  | part label h htext =>
    cases hother with
    | tolerant htolerant => exact absurd htolerant (v.part_not_tolerant name h)
    | exact hexact => exact absurd hexact (v.part_not_exact name h)
    | directive hmem => exact absurd hmem (v.part_not_directive name h)
    | part label' _ htext' => rw [Option.some.inj (htext.symm.trans htext')]

/-! ## Statements -/

namespace Statement

/-- A statement that calls no name of the vocabulary is ordinary code. -/
theorem marker?_of_ordinary
    (h : ¬∃ name positional named, statement.Calls name positional named ∧ v.Has name) :
    statement.marker? v contents = .ok none := by
  unfold marker?
  split
  · rfl
  · rename_i name positional named hcall
    have hunknown : ¬v.contains name = true := fun hhas =>
      h ⟨name, positional, named, namedCall?_eq_some_iff.mp hcall, Vocabulary.contains_iff.mp hhas⟩
    rw [if_pos (by simpa using hunknown)]

/-- What is reported of a statement: a fault that quotes it, or why it cannot be quoted. -/
def report (statement : Statement) (contents : Option String) (fault : String → Fault) : Fault :=
  match statement.excerpt contents with
  | .ok excerpt => fault excerpt
  | .error unquotable => unquotable

/-- The name is looked at before the arguments. -/
theorem marker?_of_conflicts (hcall : statement.Calls name positional named)
    (h : v.Conflicts name) :
    statement.marker? v contents = .error (statement.report contents .conflictingMarkers) := by
  unfold marker?
  rw [namedCall?_eq_some_iff.mpr hcall]
  simp only
  rw [if_neg (by simpa using Vocabulary.contains_iff.mpr h.has),
    if_pos (Vocabulary.conflicts_iff.mpr h)]
  unfold report
  cases statement.excerpt contents <;> rfl

/-- Arguments that are not what a marker takes are reported as what is wrong with them. -/
theorem marker?_of_malformed (hcall : statement.Calls name positional named) (hhas : v.Has name)
    (hconflict : ¬v.Conflicts name) (h : what.Of (name ∈ v.parts) positional named) :
    statement.marker? v contents
      = .error (statement.report contents (.malformedMarker name what)) := by
  unfold marker?
  rw [namedCall?_eq_some_iff.mpr hcall]
  simp only
  rw [if_neg (by simpa using Vocabulary.contains_iff.mpr hhas),
    if_neg (mt Vocabulary.conflicts_iff.mp hconflict)]
  -- a label is missing only where nothing is said; all else is wrong for every name
  by_cases hlabel : what = .missingLabel
  · subst hlabel
    cases h with
    | noLabel hpart =>
      have hassertion : v.strictness? name = none :=
        Option.not_isSome_iff_eq_none.mp (mt Vocabulary.isSome_strictness?_iff.mp
          (not_or.mpr ⟨v.part_not_tolerant name hpart, v.part_not_exact name hpart⟩))
      have hdirective : ¬v.directives.contains name = true := by
        rw [List.contains_iff_mem]
        exact v.part_not_directive name hpart
      rw [payload_of_saying .nothing, hassertion]
      show (if v.directives.contains name = true then _ else _) = _
      rw [if_neg hdirective]
      rfl
  · have hfalse : what.Of False positional named := by
      cases h with
      | keyword h => exact .keyword h
      | several h => exact .several h
      | noLiteral h => exact .noLiteral h
      | noLabel _ => exact absurd rfl hlabel
    rw [payload_of_malformed hfalse]
    rfl

/-- Everything else is a marker. -/
theorem exists_marker?_of_saying (hcall : statement.Calls name positional named)
    (hhas : v.Has name) (hconflict : ¬v.Conflicts name) (h : Says positional named text)
    (hlabel : name ∈ v.parts → text ≠ none) :
    ∃ marker, statement.marker? v contents = .ok (some marker)
      ∧ marker.Means v name text statement.extent := by
  unfold marker?
  rw [namedCall?_eq_some_iff.mpr hcall]
  simp only
  rw [if_neg (by simpa using Vocabulary.contains_iff.mpr hhas),
    if_neg (mt Vocabulary.conflicts_iff.mp hconflict), payload_of_saying h]
  unfold Vocabulary.strictness?
  simp only [List.contains_iff_mem]
  -- the lists are asked in this order, and the name is in one of them
  by_cases htolerant : name ∈ v.tolerant
  · simp only [if_pos htolerant]
    exact ⟨_, rfl, .tolerant htolerant⟩
  by_cases hexact : name ∈ v.exact
  · simp only [if_neg htolerant, if_pos hexact]
    exact ⟨_, rfl, .exact hexact⟩
  by_cases hdirective : name ∈ v.directives
  · simp only [if_neg htolerant, if_neg hexact, if_pos hdirective]
    exact ⟨_, rfl, .directive hdirective⟩
  have hpart : name ∈ v.parts := by
    simpa [Vocabulary.Has, htolerant, hexact, hdirective] using hhas
  obtain ⟨label, rfl⟩ := Option.ne_none_iff_exists'.mp (hlabel hpart)
  simp only [if_neg htolerant, if_neg hexact, if_neg hdirective]
  exact ⟨_, rfl, .part label hpart rfl⟩

/-- **The three things that a call of a registered name can be.** -/
theorem marker?_cases (hcall : statement.Calls name positional named) (hhas : v.Has name) :
    v.Conflicts name
        ∧ statement.marker? v contents = .error (statement.report contents .conflictingMarkers)
      ∨ ¬v.Conflicts name ∧ (∃ what : Malformation, what.Of (name ∈ v.parts) positional named
        ∧ statement.marker? v contents
          = .error (statement.report contents (.malformedMarker name what)))
      ∨ ¬v.Conflicts name ∧ (∀ what : Malformation, ¬what.Of (name ∈ v.parts) positional named)
        ∧ ∃ text marker, Says positional named text
          ∧ statement.marker? v contents = .ok (some marker)
          ∧ marker.Means v name text statement.extent := by
  by_cases hconflict : v.Conflicts name
  · exact Or.inl ⟨hconflict, marker?_of_conflicts hcall hconflict⟩
  by_cases hwrong : ∃ what : Malformation, what.Of (name ∈ v.parts) positional named
  · obtain ⟨what, hwhat⟩ := hwrong
    exact Or.inr (Or.inl ⟨hconflict, what, hwhat, marker?_of_malformed hcall hhas hconflict hwhat⟩)
  have hfine := not_exists.mp hwrong
  rcases says_or_malformed positional named with ⟨text, hsays⟩ | ⟨what, hwhat⟩
  · have hlabel : name ∈ v.parts → text ≠ none := by
      rintro hpart rfl
      cases hsays
      exact hfine _ (.noLabel hpart)
    obtain ⟨marker, hmarker, hmeans⟩ := exists_marker?_of_saying hcall hhas hconflict hsays hlabel
    exact Or.inr (Or.inr ⟨hconflict, hfine, text, marker, hsays, hmarker, hmeans⟩)
  -- what is wrong with the arguments of any name is wrong with those of this one
  · refine absurd ?_ (hfine what)
    cases hwhat with
    | keyword h => exact .keyword h
    | several h => exact .several h
    | noLiteral h => exact .noLiteral h
    | noLabel h => exact h.elim

variable {excerpt : String} {fault : Fault} {marker : Marker}

/-- No statement fails to be printed for the reason of a marker. -/
@[simp]
theorem not_ofPrinting_conflicting : ¬Fault.OfPrinting (.conflictingMarkers excerpt) := nofun

@[simp]
theorem not_ofPrinting_malformed : ¬Fault.OfPrinting (.malformedMarker name what excerpt) := nofun

/-- Without a text to quote from, a report quotes the statement, or says why the statement cannot be
printed. -/
theorem report_none_eq_iff {named : String → Fault} :
    statement.report none named = fault
      ↔ (∃ excerpt, statement.excerpt none = .ok excerpt ∧ named excerpt = fault)
        ∨ Fault.OfPrinting fault ∧ statement.excerpt none = .error fault := by
  unfold report
  cases hquote : statement.excerpt none with
  | ok excerpt => simp
  | error unprintable =>
    have hprinting : Fault.OfPrinting unprintable :=
      (fault_of_excerpt_eq_error hquote).elim id fun ⟨_, hnone, _⟩ => absurd hnone nofun
    constructor
    · rintro rfl
      exact Or.inr ⟨hprinting, rfl⟩
    · rintro (⟨_, hok, -⟩ | ⟨-, heq⟩)
      · exact absurd hok nofun
      · exact Except.error.inj heq

/-- **When a conflict is reported.** -/
theorem marker?_eq_conflicting_iff (hcall : statement.Calls name positional named)
    (hhas : v.Has name) :
    statement.marker? v none = .error (.conflictingMarkers excerpt)
      ↔ v.Conflicts name ∧ statement.excerpt none = .ok excerpt := by
  rcases marker?_cases hcall hhas with ⟨hconflict, hread⟩ | ⟨hconflict, what, -, hread⟩
    | ⟨hconflict, -, -, marker, -, hread, -⟩
  · rw [hread, Except.error.injEq, report_none_eq_iff]
    simp [hconflict]
  · rw [hread, Except.error.injEq, report_none_eq_iff]
    simp [hconflict]
  · rw [hread]
    simp [hconflict]

/-- **When arguments are reported.** -/
theorem marker?_eq_malformed_iff (hcall : statement.Calls name positional named)
    (hhas : v.Has name) :
    statement.marker? v none = .error (.malformedMarker name what excerpt)
      ↔ ¬v.Conflicts name ∧ what.Of (name ∈ v.parts) positional named
        ∧ statement.excerpt none = .ok excerpt := by
  constructor
  · intro h
    rcases marker?_cases hcall hhas with ⟨-, hread⟩ | ⟨hconflict, found, hwrong, hread⟩
      | ⟨-, -, -, marker, -, hread, -⟩
    · rw [hread, Except.error.injEq, report_none_eq_iff] at h
      simp at h
    · rw [hread, Except.error.injEq, report_none_eq_iff] at h
      obtain ⟨rfl, hquote⟩ : found = what ∧ statement.excerpt none = .ok excerpt := by
        simpa [and_comm] using h
      exact ⟨hconflict, hwrong, hquote⟩
    · exact absurd (hread.symm.trans h) nofun
  · rintro ⟨hconflict, hwrong, hquote⟩
    rw [marker?_of_malformed hcall hhas hconflict hwrong, report, hquote]

/-- **When it is reported that a statement cannot be printed**: where there is something to report
of it. -/
theorem marker?_eq_unprintable_iff (hcall : statement.Calls name positional named)
    (hhas : v.Has name) (hprinting : Fault.OfPrinting fault) :
    statement.marker? v none = .error fault
      ↔ (v.Conflicts name ∨ ∃ what : Malformation, what.Of (name ∈ v.parts) positional named)
        ∧ statement.excerpt none = .error fault := by
  have hreport : ∀ named : String → Fault, (∀ excerpt, named excerpt ≠ fault) →
      (statement.report none named = fault ↔ statement.excerpt none = .error fault) := by
    intro named hne
    rw [report_none_eq_iff]
    simp [hne, hprinting]
  rcases marker?_cases hcall hhas with ⟨hconflict, hread⟩ | ⟨hconflict, what, hwrong, hread⟩
    | ⟨hconflict, hfine, -, marker, -, hread, -⟩
  · rw [hread, Except.error.injEq, hreport]
    · simp [hconflict]
    · rintro excerpt rfl
      exact absurd hprinting nofun
  · rw [hread, Except.error.injEq, hreport]
    · exact (and_iff_right (Or.inr ⟨what, hwrong⟩)).symm
    · rintro excerpt rfl
      exact absurd hprinting nofun
  · rw [hread]
    simp [hconflict, hfine]

/-- **When a call is a marker**, and which. -/
theorem marker?_eq_some_iff (hcall : statement.Calls name positional named)
    (hhas : v.Has name) :
    statement.marker? v none = .ok (some marker)
      ↔ ¬v.Conflicts name ∧ (∀ what : Malformation, ¬what.Of (name ∈ v.parts) positional named)
        ∧ ∃ text, Says positional named text ∧ marker.Means v name text statement.extent := by
  rcases marker?_cases hcall hhas with ⟨hconflict, hread⟩ | ⟨-, what, hwrong, hread⟩
    | ⟨hconflict, hfine, text, found, hsays, hread, hmeans⟩
  · rw [hread]
    exact iff_of_false nofun fun h => h.1 hconflict
  · rw [hread]
    exact iff_of_false nofun fun h => h.2.1 what hwrong
  · rw [hread, Except.ok.injEq, Option.some.injEq]
    constructor
    · rintro rfl
      exact ⟨hconflict, hfine, text, hsays, hmeans⟩
    · rintro ⟨-, -, text', hsays', hmeans'⟩
      obtain rfl : text = text' :=
        Except.ok.inj ((payload_of_saying hsays).symm.trans (payload_of_saying hsays'))
      exact hmeans.unique hconflict hmeans'

/-- Nothing else comes of a call of a registered name. -/
theorem marker?_ends (hcall : statement.Calls name positional named) (hhas : v.Has name) :
    (∃ marker, statement.marker? v none = .ok (some marker))
      ∨ (∃ excerpt, statement.marker? v none = .error (.conflictingMarkers excerpt))
      ∨ (∃ what excerpt, statement.marker? v none = .error (.malformedMarker name what excerpt))
      ∨ ∃ fault, Fault.OfPrinting fault ∧ statement.marker? v none = .error fault := by
  rcases marker?_cases hcall hhas with ⟨-, hread⟩ | ⟨-, what, -, hread⟩
    | ⟨-, -, -, marker, -, hread, -⟩
  · rcases report_none_eq_iff.mp rfl with ⟨excerpt, -, hreport⟩ | ⟨hprinting, -⟩
    · exact Or.inr (Or.inl ⟨excerpt, hread.trans (congrArg Except.error hreport.symm)⟩)
    · exact Or.inr (Or.inr (Or.inr ⟨_, hprinting, hread⟩))
  · rcases report_none_eq_iff.mp rfl with ⟨excerpt, -, hreport⟩ | ⟨hprinting, -⟩
    · exact Or.inr (Or.inr (Or.inl
        ⟨what, excerpt, hread.trans (congrArg Except.error hreport.symm)⟩))
    · exact Or.inr (Or.inr (Or.inr ⟨_, hprinting, hread⟩))
  · exact Or.inl ⟨marker, hread⟩

end Statement

/-- **What every statement is read as**, with nothing to quote from. It is ordinary code iff it
calls no name of the vocabulary. A call of such a name is a conflict iff the name stands for an
assertion and a directive, whatever its arguments are; else it is reported iff something is wrong
with its arguments; else it is the marker that its name and its arguments say. A report quotes the
statement; if the statement cannot be printed, that is reported instead, and there are no other
faults. -/
theorem marker?_outcome (v : Vocabulary) (statement : Statement) :
    (statement.marker? v none = .ok none
        ↔ ¬∃ name positional named, statement.Calls name positional named ∧ v.Has name)
      ∧ ∀ name positional named, statement.Calls name positional named → v.Has name →
        (∀ excerpt, statement.marker? v none = .error (.conflictingMarkers excerpt)
            ↔ v.Conflicts name ∧ statement.excerpt none = .ok excerpt)
          ∧ (∀ what excerpt, statement.marker? v none = .error (.malformedMarker name what excerpt)
            ↔ ¬v.Conflicts name ∧ what.Of (name ∈ v.parts) positional named
              ∧ statement.excerpt none = .ok excerpt)
          ∧ (∀ marker, statement.marker? v none = .ok (some marker)
            ↔ ¬v.Conflicts name
              ∧ (∀ what : Malformation, ¬what.Of (name ∈ v.parts) positional named)
              ∧ ∃ text, Says positional named text ∧ marker.Means v name text statement.extent)
          ∧ ((∃ marker, statement.marker? v none = .ok (some marker))
            ∨ (∃ excerpt, statement.marker? v none = .error (.conflictingMarkers excerpt))
            ∨ (∃ what excerpt, statement.marker? v none = .error (.malformedMarker name what excerpt))
            ∨ ∃ fault, Fault.OfPrinting fault ∧ statement.marker? v none = .error fault)
          ∧ ∀ fault, Fault.OfPrinting fault → (statement.marker? v none = .error fault
            ↔ (v.Conflicts name ∨ ∃ what : Malformation, what.Of (name ∈ v.parts) positional named)
              ∧ statement.excerpt none = .error fault) := by
  refine ⟨⟨?_, Statement.marker?_of_ordinary⟩, fun name positional named hcall hhas => ?_⟩
  · rintro h ⟨name, positional, named, hcall, hhas⟩
    rcases Statement.marker?_cases hcall hhas with ⟨-, hread⟩ | ⟨-, what, -, hread⟩
      | ⟨-, -, -, marker, -, hread, -⟩
    all_goals exact absurd (hread.symm.trans h) nofun
  · exact ⟨fun _ => Statement.marker?_eq_conflicting_iff hcall hhas,
      fun _ _ => Statement.marker?_eq_malformed_iff hcall hhas,
      fun _ => Statement.marker?_eq_some_iff hcall hhas,
      Statement.marker?_ends hcall hhas,
      fun _ => Statement.marker?_eq_unprintable_iff hcall hhas⟩

/-- A directive whose argument is a name is reported as such. -/
theorem marker?_outcome_named :
    (⟨some (.call (.name "org") [.name "x"] []), 1, .ofLength 0 6⟩ :
        Statement).marker? .standard none
      = .error (.malformedMarker "org" .notALiteral "org(x)") := by
  have hcall : (⟨some (.call (.name "org") [.name "x"] []), 1, .ofLength 0 6⟩ :
      Statement).Calls "org" [.name "x"] [] :=
    ⟨.name "org", ["org"], rfl, .plain "org", by decide⟩
  have hhas : Vocabulary.standard.Has "org" := Or.inr (Or.inr (Or.inl (by decide)))
  have hconflict : ¬Vocabulary.standard.Conflicts "org" := by
    rintro ⟨hassertion, -⟩
    revert hassertion
    decide
  exact (((marker?_outcome .standard _).2 "org" _ _ hcall hhas).2.1 _ _).mpr
    ⟨hconflict, .noLiteral nofun, by rfl⟩

namespace Sample

/-- An assertion whose argument is a replacement of a text that cannot be written without a
backslash. -/
def unprintable : Statement :=
  ⟨some (.call (.name "expect")
      [.interpolated [.replacement (.constant (.text "\x01" false)) none none]] []),
    1, .ofLength 0 16⟩

end Sample

/-- **Not every malformed marker is reported as one.** An interpolated literal is no plain one, so
the assertion is malformed; but it cannot be quoted. -/
theorem not_forall_malformed_reported :
    ¬∀ (v : Vocabulary) (statement : Statement) (name : String) (positional named : List Expr)
        (what : Malformation), statement.Calls name positional named → v.Has name →
          ¬v.Conflicts name → what.Of (name ∈ v.parts) positional named →
          ∃ what excerpt, statement.marker? v none = .error (.malformedMarker name what excerpt) := by
  intro h
  have hcall : Sample.unprintable.Calls "expect"
      [.interpolated [.replacement (.constant (.text "\x01" false)) none none]] [] :=
    ⟨.name "expect", ["expect"], rfl, .plain "expect", by decide⟩
  have hconflict : ¬Vocabulary.standard.Conflicts "expect" := by
    rintro ⟨-, hdirective⟩
    revert hdirective
    decide
  have hunprintable : Sample.unprintable.marker? .standard none
      = .error .backslashInInterpolation := by rfl
  obtain ⟨what, excerpt, hreport⟩ := h .standard Sample.unprintable "expect" _ [] .notALiteral hcall
    (Or.inl (by decide)) hconflict (.noLiteral nofun)
  rw [hunprintable] at hreport
  exact absurd hreport nofun

end ExpectFile
