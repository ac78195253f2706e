import ExpectFile.Proofs.Chunk.Offences
import ExpectFile.Proofs.Reprint.ReadingBack
import ExpectFile.Proofs.Source.Outcomes
import Mathlib.Data.List.DropRight

/-!
# Part declarations in their place

A part declaration belongs behind an assertion, another part declaration, or the beginning of the
file. Between the two there may be comments and blank lines, which are no phrases or empty ones. A
directive does not fit there: for the splitter it is code like any other, so a file that opens with
a title and goes on with a part declaration cannot be split, although files are documented to open
that way.

* **`endsInCode_iff`** — code waits iff there is a phrase behind the last boundary.
* **`split_misplaced`** — when a part declaration is reported, and what keeps it from being so.
* **`not_forall_documented`** — a file of the documented shape that cannot be split.
-/

namespace ExpectFile

open Outcome

/-! ## Behind the last boundary -/

namespace Phrase

/-- Whether a phrase is an assertion or a part declaration. -/
def isBoundary (context : SplitContext) (phrase : Phrase) : Bool :=
  (phrase.closing? context).isSome || (phrase.label? context).isSome

/-- Whether a phrase is a directive. -/
def isDirective (context : SplitContext) (phrase : Phrase) : Bool :=
  match phrase.marker? context.vocabulary context.contents with
  | .ok (some (.directive ..)) => true
  | _ => false

/-- A phrase that is not empty gathers iff it is no boundary. -/
theorem isCode_eq_not_isBoundary {context : SplitContext} {phrase : Phrase}
    (h : phrase.isEmpty = false) : phrase.isCode context = !phrase.isBoundary context := by
  rw [isCode, isBoundary, h]
  cases phrase.closing? context <;> cases phrase.label? context <;> rfl

/-- There is nothing in an empty phrase that could be a boundary. -/
theorem isBoundary_of_isEmpty {context : SplitContext} {phrase : Phrase}
    (h : phrase.isEmpty = true) : phrase.isBoundary context = false := by
  rw [isBoundary, closing?, label?, marker?_of_isEmpty h]
  rfl

end Phrase

/-- The phrases behind the last assertion or part declaration. -/
def sinceBoundary (context : SplitContext) (phrases : List Phrase) : List Phrase :=
  phrases.rtakeWhile fun phrase => !phrase.isBoundary context

/-- In front of every part declaration, back to the closest boundary, stand only phrases that are
admitted there. -/
def LabelsFollow (admitted : Phrase → Prop) (context : SplitContext) (phrases : List Phrase) :
    Prop :=
  ∀ before phrase after, phrases = before ++ phrase :: after → (phrase.label? context).isSome →
    ∀ between ∈ sinceBoundary context before, admitted between

variable {context : SplitContext} {start : Int} {before phrases : List Phrase} {phrase : Phrase}

/-- **Code waits iff there is a phrase behind the last boundary**, empty ones apart. Induction from
the last phrase on. -/
theorem endsInCode_iff :
    endsInCode context phrases = true
      ↔ ∃ between ∈ sinceBoundary context phrases, between.isEmpty = false := by
  induction phrases using List.reverseRecOn with
  | nil => simp [endsInCode, lastFilled?, sinceBoundary]
  | append_singleton phrases phrase ih =>
    rw [endsInCode_concat, sinceBoundary, List.rtakeWhile_concat]
    cases hempty : phrase.isEmpty with
    | true =>
      -- an empty phrase changes neither side
      rw [if_pos rfl, if_pos (by rw [Phrase.isBoundary_of_isEmpty hempty]; rfl), ih]
      simp [sinceBoundary, hempty]
    | false =>
      rw [if_neg Bool.false_ne_true, Phrase.isCode_eq_not_isBoundary hempty]
      cases phrase.isBoundary context <;> simp [hempty]

/-- No code waits in front of part declarations that follow their boundaries at once. -/
theorem endsInCode_eq_false_iff :
    endsInCode context before = false
      ↔ ∀ between ∈ sinceBoundary context before, between.isEmpty = true := by
  rw [← Bool.not_eq_true, endsInCode_iff]
  simp

/-! ## When a part declaration is reported -/

/-- A phrase is a part declaration with this extent, on this line. -/
def Phrase.DeclaresPart (context : SplitContext) (phrase : Phrase) (extent : Extent)
    (line : Nat) : Prop :=
  ∃ statement name label, phrase.statements = [statement] ∧ statement.line = line
    ∧ statement.marker? context.vocabulary context.contents = .ok (some (.part name label extent))

/-- To read a statement is never to report a part declaration behind code. -/
theorem Statement.marker?_ne_misplacedPart {statement : Statement} {v : Vocabulary}
    {contents name : String} {extent : Extent} {line : Nat} :
    statement.marker? v (some contents) ≠ .error (.misplacedPart extent name line) := by
  intro h
  rcases Statement.fault_of_marker?_eq_error h with hmarker | houtside
  · cases hmarker
  · cases houtside

/-- The only offence that is reported so is that of a part declaration with a phrase between it and
the closest boundary. -/
theorem offends_misplacedPart_iff {contents name : String} {extent : Extent} {line : Nat}
    (hcontents : context.contents = some contents) :
    Offends context start before phrase (.misplacedPart extent name line)
      ↔ name = context.sourceName ∧ phrase.DeclaresPart context extent line
        ∧ ∃ between ∈ sinceBoundary context before, between.isEmpty = false := by
  rw [← endsInCode_iff]
  constructor
  · intro h
    cases h with
    | unreadable statement _ _ hread =>
      rw [hcontents] at hread
      exact absurd hread Statement.marker?_ne_misplacedPart
    | misplaced statement called label _ honly hread hcode =>
      exact ⟨rfl, ⟨statement, called, label, honly, rfl, hread⟩, hcode⟩
  · rintro ⟨rfl, ⟨statement, called, label, honly, rfl, hread⟩, hcode⟩
    exact .misplaced statement called label extent honly hread hcode

/-- A part declaration has a label. -/
theorem Phrase.DeclaresPart.isSome_label? {extent : Extent} {line : Nat}
    (h : phrase.DeclaresPart context extent line) : (phrase.label? context).isSome := by
  obtain ⟨statement, name, label, honly, -, hread⟩ := h
  exact Phrase.isSome_label?_iff.mpr ⟨statement, name, label, extent, honly, hread⟩

/-- In a file that can be split, every part declaration follows its boundary at once. -/
theorem Splittable.labelsFollow (h : Splittable context start phrases) :
    LabelsFollow (·.isEmpty = true) context phrases :=
  fun before phrase after hsplit hlabel =>
    endsInCode_eq_false_iff.mp ((h before phrase after hsplit).label_in_place hlabel)

/-- **Part declarations in their place.** A splitting reports a part declaration iff it is the first
phrase that does not fit, and there is a phrase between it and the closest assertion or part
declaration in front of it, or the beginning of the file. So none is reported in a file whose part
declarations have at most comments and blank lines in front of them, back to there; and every file
that can be split is such a file. -/
theorem split_misplaced (reading : Reading) {contents : String} {phrases : List Phrase}
    {v : Vocabulary} (hphrases : phrasesOf reading.name contents = .ok phrases)
    (hvocabulary : (reading.vocabularyFor (phrases.any fun phrase => phrase.only?.isSome)).outcome
      = .ok v) :
    (∀ extent name line,
        (reading.split contents).outcome = .error (.misplacedPart extent name line)
          ↔ name = reading.name ∧ ∃ before phrase after, phrases = before ++ phrase :: after
            ∧ Splittable ⟨reading.name, v, reading.render, some contents⟩ 0 before
            ∧ phrase.DeclaresPart ⟨reading.name, v, reading.render, some contents⟩ extent line
            ∧ ∃ between
                ∈ sinceBoundary ⟨reading.name, v, reading.render, some contents⟩ before,
              between.isEmpty = false)
      ∧ (LabelsFollow (·.isEmpty = true) ⟨reading.name, v, reading.render, some contents⟩ phrases →
          ∀ extent name line,
            (reading.split contents).outcome ≠ .error (.misplacedPart extent name line))
      ∧ ((∃ result, (reading.split contents).outcome = .ok result) →
          LabelsFollow (·.isEmpty = true) ⟨reading.name, v, reading.render, some contents⟩
            phrases) := by
  generalize hcontext : SplitContext.mk reading.name v reading.render (some contents) = context
  have hname : context.sourceName = reading.name := by rw [← hcontext]
  have hcontents : context.contents = some contents := by rw [← hcontext]
  obtain ⟨hok, herror⟩ := split_outcome context 0 phrases
  rw [Reading.outcome_split hphrases hvocabulary, hcontext]
  have hreport : ∀ extent name line,
      split context 0 phrases = .error (.misplacedPart extent name line)
        ↔ name = reading.name ∧ ∃ before phrase after, phrases = before ++ phrase :: after
          ∧ Splittable context 0 before ∧ phrase.DeclaresPart context extent line
          ∧ ∃ between ∈ sinceBoundary context before, between.isEmpty = false := by
    intro extent name line
    rw [herror, ← hname]
    constructor
    · rintro ⟨before, phrase, after, hsplit, hbefore, hoffends⟩
      obtain ⟨hsource, hpart, hcode⟩ := (offends_misplacedPart_iff hcontents).mp hoffends
      exact ⟨hsource, before, phrase, after, hsplit, hbefore, hpart, hcode⟩
    · rintro ⟨hsource, before, phrase, after, hsplit, hbefore, hpart, hcode⟩
      exact ⟨before, phrase, after, hsplit, hbefore,
        (offends_misplacedPart_iff hcontents).mpr ⟨hsource, hpart, hcode⟩⟩
  refine ⟨hreport, fun hfollow extent name line h => ?_, fun h => (hok.mp h).labelsFollow⟩
  -- a part declaration is reported for a phrase in front of it that is not empty
  obtain ⟨-, before, phrase, after, hsplit, -, hpart, between, hmem, hfilled⟩ :=
    (hreport extent name line).mp h
  have hempty := hfollow before phrase after hsplit hpart.isSome_label? between hmem
  exact Bool.false_ne_true (hfilled.symm.trans hempty)

/-! ## Files of the documented shape -/

/-- Whether a statement is a marker. -/
def Statement.isMarker (context : SplitContext) (statement : Statement) : Bool :=
  match statement.marker? context.vocabulary context.contents with
  | .ok (some _) => true
  | _ => false

/-- The shape that files are documented to have: all markers can be read, each stands in a phrase of
its own, and a part declaration has at most directives in front of it, back to the closest
boundary. -/
structure Documented (context : SplitContext) (phrases : List Phrase) : Prop where
  readable : ∀ phrase ∈ phrases, ∀ statement ∈ phrase.statements,
    (statement.marker? context.vocabulary context.contents).isOk
  alone : ∀ phrase ∈ phrases, ∀ statement ∈ phrase.statements,
    statement.isMarker context → phrase.statements.length = 1
  labels_follow : LabelsFollow (fun between => between.isEmpty || between.isDirective context)
    context phrases

/-- Which phrases stand in front of a part declaration can be looked up. -/
instance (admitted : Phrase → Prop) [DecidablePred admitted] (context : SplitContext)
    (phrases : List Phrase) : Decidable (LabelsFollow admitted context phrases) :=
  decidable_of_iff (∀ i : Fin phrases.length, (phrases[i].label? context).isSome →
      ∀ between ∈ sinceBoundary context (phrases.take i), admitted between) <| by
    constructor
    · rintro h before phrase after rfl hlabel
      simpa using h ⟨before.length, by simp⟩ (by simpa using hlabel)
    · intro h i
      exact h (phrases.take i) phrases[i] (phrases.drop (i + 1)) (by simp)

instance (context : SplitContext) (phrases : List Phrase) :
    Decidable (Documented context phrases) :=
  decidable_of_iff (_ ∧ _ ∧ _) ⟨fun h => ⟨h.1, h.2.1, h.2.2⟩, fun h => ⟨h.1, h.2, h.3⟩⟩

namespace Sample

/-- How the splitter reads a text when nothing is chosen. -/
def plainContext (contents : String) : SplitContext :=
  ⟨Reading.standard.name, .standard, Reading.standard.render, some contents⟩

/-- A part declaration behind a comment, and an assertion. -/
def labelled : String := "# a part\npart(\"p\")\nexpect(\"1\")\n"

/-- A title in front of a part declaration, and an assertion. -/
def titled : String := "org(\"t\")\npart(\"p\")\nexpect(\"1\")\n"

/-- A file without a title parses, and its part declaration has nothing in front of it. -/
theorem exists_phrasesOf_labelled :
    ∃ phrases, phrasesOf Reading.standard.name labelled = .ok phrases
      ∧ LabelsFollow (·.isEmpty = true) (plainContext labelled) phrases := by
  have hcheck : ((phrasesOf Reading.standard.name labelled).toOption.map fun phrases =>
      decide (LabelsFollow (·.isEmpty = true) (plainContext labelled) phrases)) = some true := by
    decide +kernel
  obtain ⟨phrases, hphrases, hfollow⟩ := Option.map_eq_some_iff.mp hcheck
  exact ⟨phrases, toOption_eq_some_iff.mp hphrases, of_decide_eq_true hfollow⟩

end Sample

/-- In the file without a title, no part declaration is reported. -/
theorem split_misplaced_labelled :
    (∃ phrases, phrasesOf Reading.standard.name Sample.labelled = .ok phrases
        ∧ LabelsFollow (·.isEmpty = true) (Sample.plainContext Sample.labelled) phrases)
      ∧ ∀ extent name line, (Reading.standard.split Sample.labelled).outcome
          ≠ .error (.misplacedPart extent name line) := by
  obtain ⟨phrases, hphrases, hfollow⟩ := Sample.exists_phrasesOf_labelled
  exact ⟨⟨phrases, hphrases, hfollow⟩,
    (split_misplaced Reading.standard hphrases (Reading.vocabularyFor_standard _)).2.1 hfollow⟩

/-- **The documented shape is not enough.** A file that opens with a title has it, and its part
declaration is reported. -/
theorem not_forall_documented :
    ¬∀ (contents : String) (phrases : List Phrase),
        phrasesOf Reading.standard.name contents = .ok phrases →
        Documented (Sample.plainContext contents) phrases →
          ∀ extent name line, (Reading.standard.split contents).outcome
            ≠ .error (.misplacedPart extent name line) := by
  intro h
  have hshape : ((phrasesOf Reading.standard.name Sample.titled).toOption.map fun phrases =>
      decide (Documented (Sample.plainContext Sample.titled) phrases)) = some true := by
    decide +kernel
  have hreported : (match (Reading.standard.split Sample.titled).outcome with
      | .error (.misplacedPart extent name line) => some (extent, name, line)
      | _ => none) = some (.ofLength 9 9, "<toplevel>", 2) := by
    decide +kernel
  obtain ⟨phrases, hphrases, hdocumented⟩ := Option.map_eq_some_iff.mp hshape
  have hnever := h Sample.titled phrases (toOption_eq_some_iff.mp hphrases)
    (of_decide_eq_true hdocumented)
  cases hsplit : (Reading.standard.split Sample.titled).outcome with
  | ok result =>
    rw [hsplit] at hreported
    exact absurd hreported nofun
  | error fault =>
    rw [hsplit] at hreported
    cases fault with
    | misplacedPart extent name line => exact hnever extent name line hsplit
    | _ => exact absurd hreported nofun

end ExpectFile
