import ExpectFile.Proofs.Chunk.Faults
import ExpectFile.Proofs.Partition.Faults
import ExpectFile.Proofs.Phrase.Placement
import ExpectFile.Proofs.Source.Outcomes

/-!
# Sources without structural faults

Statements whose places are in order can be read, partitioned and split without a fault that has to
do with places: no extent is inverted or outside the text, no two ranges overlap, no column is
inside a character. What is left are the faults that a file is to blame for: a call that is no
proper marker, and, for splitting, a part declaration behind code.
-/

namespace ExpectFile

open Extent Grammar

/-- **No structural fault.** From statements in order the phrases are built, and their statements
are in order within the text, decorators included. A partition of the text then fails only with the
faults of markers, and a splitting only with these or with a misplaced part declaration, for every
vocabulary and every rendering; and so do the readings of a source that parses to these
statements. -/
theorem no_structural_fault {contents : String} {parsed : List ParsedStatement}
    (h : InOrder contents 0 parsed) :
    ∃ phrases, Phrase.ofParsed contents parsed = .ok phrases
      ∧ List.Forall₂
          (fun place statement =>
            Statement.ofParsed (.ofText contents) contents.toList place = .ok statement)
          parsed (phrases.flatMap (·.statements))
      ∧ Ordered 0 ((phrases.flatMap (·.statements)).map (·.extent)) contents.length
      ∧ (∀ v render fault, partition v render contents phrases = .error fault →
          Fault.OfMarker fault)
      ∧ (∀ context fault, context.contents = some contents →
          split context 0 phrases = .error fault → Fault.OfSplit context.sourceName fault)
      ∧ ∀ (reading : Reading) (v : Vocabulary), parseSource reading.name contents = .ok parsed →
          (reading.vocabularyFor true).outcome = .ok v →
            (∀ fault, (reading.partition contents).outcome = .error fault → Fault.OfMarker fault)
            ∧ ∀ fault, (reading.split contents).outcome = .error fault →
                Fault.OfSplit reading.name fault := by
  obtain ⟨phrases, hphrases, hstatements, hordered⟩ := Phrase.ofParsed_of_inOrder h
  have hpartition : ∀ v render fault, partition v render contents phrases = .error fault →
      Fault.OfMarker fault :=
    fun v render fault hfault => ofMarker_of_partition_eq_error hfault hordered
  have hsplit : ∀ context fault, context.contents = some contents →
      split context 0 phrases = .error fault → Fault.OfSplit context.sourceName fault :=
    fun context fault hcontents hfault =>
      Splitter.ofSplit_of_run_eq_error hcontents hfault ⟨Int.le_refl 0, Int.le_refl 0⟩ hordered
  refine ⟨phrases, hphrases, hstatements, hordered, hpartition, hsplit, ?_⟩
  intro reading v hparse hvocabulary
  have hread : phrasesOf reading.name contents = .ok phrases :=
    Outcome.bind_eq_ok.mpr ⟨parsed, hparse, hphrases⟩
  -- the readings choose a vocabulary themselves, for which the same holds
  constructor
  · intro fault hfault
    obtain ⟨used, hused⟩ := Reading.exists_vocabularyFor hvocabulary _
    rw [Reading.outcome_partition hread hused] at hfault
    exact hpartition used reading.render fault hfault
  · intro fault hfault
    obtain ⟨used, hused⟩ := Reading.exists_vocabularyFor hvocabulary _
    rw [Reading.outcome_split hread hused] at hfault
    exact hsplit ⟨reading.name, used, reading.render, some contents⟩ fault rfl hfault

/-! ## A decorated definition -/

namespace Sample

/-- A name that is not ASCII, another name, and a definition with a decorator. -/
def decorated : String := "é; x\n@d\ndef f(): 0"

/-- The statements of the text. Columns count bytes, and the definition starts on its third
line. -/
def places : List ParsedStatement :=
  [⟨some (.name "é"), ⟨1, 0⟩, ⟨1, 2⟩, none⟩,
    ⟨some (.name "x"), ⟨1, 4⟩, ⟨1, 5⟩, none⟩,
    ⟨none, ⟨3, 0⟩, ⟨3, 10⟩, some ⟨2, 1⟩⟩]

/-- How the text is read. -/
def reading : Reading where
  settings := ⟨["expect"], ["expect_exact"], ["org"], ["part"], "sample", "org", "expect"⟩
  vocabulary := some .standard
  render := Expectation.recorded
  sourceName := none

theorem inOrder_places : InOrder decorated 0 places := by
  refine ⟨0, 1, ⟨?_, ?_, by decide, by decide, nofun⟩, 3, 4, ⟨?_, ?_, by decide, by decide, nofun⟩,
    8, 18, ⟨?_, ?_, by decide, by decide, ?_⟩, trivial⟩
  · exact ⟨_, 0, by decide, rfl, by decide, rfl, rfl⟩
  · exact ⟨_, 1, by decide, rfl, by decide, rfl, rfl⟩
  · exact ⟨_, 3, by decide, rfl, by decide, rfl, rfl⟩
  · exact ⟨_, 4, by decide, rfl, by decide, rfl, rfl⟩
  · exact ⟨_, 0, by decide, rfl, by decide, rfl, rfl⟩
  · exact ⟨_, 10, by decide, rfl, by decide, rfl, rfl⟩
  · -- the sign stands in front of the name of the decorator, behind the second statement
    rintro place hplace
    cases hplace
    exact ⟨6, 5, ⟨_, 1, by decide, rfl, by decide, rfl, rfl⟩, by decide, by decide, rfl⟩

/-- The parser finds the statements in these places. -/
theorem exists_parseSource_decorated :
    ∃ parsed, parseSource "sample" decorated = .ok parsed
      ∧ parsed.map (·.places) = places.map (·.places) := by
  have hplaces : (parseSource "sample" decorated).toOption.map (·.map (·.places))
      = some (places.map (·.places)) := by decide +kernel
  cases hparse : parseSource "sample" decorated with
  | error fault =>
    rw [hparse] at hplaces
    exact absurd hplaces nofun
  | ok parsed =>
    rw [hparse] at hplaces
    exact ⟨parsed, rfl, Option.some.inj hplaces⟩

end Sample

/-- In the sample, the definition gets the line of its decorator as well, and what the parser finds
in the text can be read and partitioned. -/
theorem no_structural_fault_sample :
    InOrder Sample.decorated 0 Sample.places
      ∧ (∃ phrases, Phrase.ofParsed Sample.decorated Sample.places = .ok phrases
        ∧ (phrases.flatMap (·.statements)).map (·.extent)
          = [.ofLength 0 1, .ofLength 3 1, .ofLength 5 13])
      ∧ ∀ fault, (Sample.reading.partition Sample.decorated).outcome = .error fault →
          Fault.OfMarker fault := by
  refine ⟨Sample.inOrder_places, ?_, ?_⟩
  · obtain ⟨phrases, hphrases, -⟩ := no_structural_fault Sample.inOrder_places
    refine ⟨phrases, hphrases, ?_⟩
    obtain rfl := Except.ok.inj (hphrases.symm.trans rfl)
    rfl
  · obtain ⟨parsed, hparse, hplaces⟩ := Sample.exists_parseSource_decorated
    obtain ⟨-, -, -, -, -, -, hreadings⟩ :=
      no_structural_fault (Sample.inOrder_places.congr hplaces.symm)
    exact (hreadings Sample.reading .standard hparse rfl).1

end ExpectFile
