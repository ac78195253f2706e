import ExpectFile.Proofs.Partition.Faults

/-!
# What a partition reports

A partition is meant to fail in three ways only: two ranges overlap, the name of a call stands for
two things, or its arguments are not what a marker takes. It keeps to that as long as the calls that
are no proper markers lie within the text. Such a call behind the end of the text cannot be quoted,
and since statements are read before their places are compared, the failing quotation is reported in
place of the overlap with the end.

* **`partition_eq_outsideText_iff`** — when the failing quotation is reported.
* **`partition_reports`** — everything that is ever reported.
-/

namespace ExpectFile

open Extent Outcome

/-- The faults that a partition is meant to report. -/
inductive Fault.OfPartition : Fault → Prop where
  | overlap (previous next : Extent) : Fault.OfPartition (.overlap previous next)
  | marker {fault : Fault} (h : Fault.OfMarker fault) : Fault.OfPartition fault

/-- The first statement that cannot be read, whatever its fault, has the extent. -/
def FirstUnreadableAt (v : Vocabulary) (contents : String) (statements : List Statement)
    (extent : Extent) : Prop :=
  ∃ before statement after, statements = before ++ statement :: after
    ∧ Readable v contents before
    ∧ (∃ fault, statement.marker? v (some contents) = .error fault)
    ∧ statement.extent = extent

variable {v : Vocabulary} {render : Rendering} {contents : String} {phrases : List Phrase}

/-- No proper marker is reported as being outside the text. -/
theorem Fault.OfMarker.ne_outsideText {fault : Fault} (h : Fault.OfMarker fault)
    (extent : Extent) (length : Nat) : fault ≠ .outsideText extent length := by
  rintro rfl
  cases h

/-- **When a range outside the text is reported.** It is the range of the first statement that
cannot be read, and it reaches beyond the end. -/
theorem partition_eq_outsideText_iff {extent : Extent} {length : Nat} :
    partition v render contents phrases = .error (.outsideText extent length)
      ↔ length = contents.length ∧ contents.length < extent.stop
        ∧ FirstUnreadableAt v contents (phrases.flatMap (·.statements)) extent := by
  constructor
  · intro h
    rcases partition_eq_error_iff.mp h with hunread | ⟨-, previous, next, -, heq⟩
    · obtain ⟨before, statement, after, hsplit, hbefore, hfault⟩ := hunread
      -- the fault says where the statement is, so it has to be outside
      have houtside : contents.length < statement.extent.stop := by
        by_contra hinside
        exact (Statement.ofMarker_of_marker?_eq_error hfault (Nat.not_lt.mp hinside)).ne_outsideText
          extent length rfl
      have heq := Statement.eq_outsideText_of_marker?_eq_error hfault houtside
      obtain ⟨rfl, rfl⟩ := Fault.outsideText.inj heq
      exact ⟨rfl, houtside, before, statement, after, hsplit, hbefore, ⟨_, hfault⟩, rfl⟩
    · cases heq
  · rintro ⟨rfl, houtside, before, statement, after, hsplit, hbefore, ⟨fault, hfault⟩, rfl⟩
    obtain rfl := Statement.eq_outsideText_of_marker?_eq_error hfault houtside
    exact partition_eq_error_iff.mpr (Or.inl ⟨before, statement, after, hsplit, hbefore, hfault⟩)

/-- **Everything that a partition reports.** Whatever the ranges of the statements are, it is an
overlap, a call that is no proper marker, or a range outside the text. The last is reported exactly
where the first statement that cannot be read reaches beyond the end of the text; so where the
statements that cannot be read lie within the text, nothing but the first two is. -/
theorem partition_reports (v : Vocabulary) (render : Rendering) (contents : String)
    (phrases : List Phrase) :
    (∀ fault, partition v render contents phrases = .error fault →
        Fault.OfPartition fault ∨ ∃ extent, fault = .outsideText extent contents.length)
      ∧ (∀ extent length, partition v render contents phrases = .error (.outsideText extent length)
        ↔ length = contents.length ∧ contents.length < extent.stop
          ∧ FirstUnreadableAt v contents (phrases.flatMap (·.statements)) extent)
      ∧ ((∀ statement ∈ phrases.flatMap (·.statements),
            (∃ fault, statement.marker? v (some contents) = .error fault) →
              statement.extent.stop ≤ contents.length) →
          ∀ fault, partition v render contents phrases = .error fault →
            Fault.OfPartition fault) := by
  have hall : ∀ fault, partition v render contents phrases = .error fault →
      Fault.OfPartition fault ∨ ∃ extent, fault = .outsideText extent contents.length := by
    intro fault h
    rcases partition_eq_error_iff.mp h with hunread | ⟨-, previous, next, -, rfl⟩
    · obtain ⟨before, statement, after, -, -, hfault⟩ := hunread
      rcases Statement.fault_of_marker?_eq_error hfault with hmarker | houtside
      · exact Or.inl (.marker hmarker)
      · exact Or.inr ⟨statement.extent, houtside⟩
    · exact Or.inl (.overlap previous next)
  refine ⟨hall, fun _ _ => partition_eq_outsideText_iff, fun hinside fault h => ?_⟩
  rcases hall fault h with hmeant | ⟨extent, rfl⟩
  · exact hmeant
  -- the statement that reaches beyond the text is one that cannot be read, and those lie within
  · obtain ⟨-, houtside, before, statement, after, hsplit, -, hfault, rfl⟩ :=
      partition_eq_outsideText_iff.mp h
    have hmem : statement ∈ phrases.flatMap (·.statements) := by simp [hsplit]
    exact absurd (hinside statement hmem hfault) (Nat.not_le.mpr houtside)

namespace Sample

/-- A part declaration without a label, said to go from the first line on for thirty characters. -/
def beyond : Phrase := .single (.calling "part" [] 1 (.ofLength 0 30))

end Sample

/-- A part declaration without a label is reported as such within a text; in a text that is too
short for it, its range is. -/
theorem partition_reports_sample :
    (∃ fault, partition .standard Expectation.recorded Sample.text [Sample.beyond] = .error fault
        ∧ Fault.OfPartition fault)
      ∧ partition .standard Expectation.recorded "part()" [Sample.beyond]
        = .error (.outsideText (.ofLength 0 30) 6) := by
  constructor
  · have hlength : Sample.text.length = 45 := by decide
    have hfault : ∃ fault, partition .standard Expectation.recorded Sample.text [Sample.beyond]
        = .error fault := ⟨_, rfl⟩
    obtain ⟨fault, hfault⟩ := hfault
    refine ⟨fault, hfault, (partition_reports .standard Expectation.recorded Sample.text
      [Sample.beyond]).2.2 (List.forall_mem_singleton.mpr fun _ => ?_) fault hfault⟩
    rw [hlength]
    decide
  · have hlength : "part()".length = 6 := by decide
    refine ((partition_reports .standard Expectation.recorded "part()" [Sample.beyond]).2.1 _ _).mpr
      ⟨hlength.symm, by rw [hlength]; decide, [], _, [], rfl, ?_, ⟨_, rfl⟩, rfl⟩
    exact fun statement hmem => absurd hmem List.not_mem_nil

/-- **Not every report is one that is meant.** -/
theorem not_forall_ofPartition :
    ¬∀ (v : Vocabulary) (render : Rendering) (contents : String) (phrases : List Phrase)
        (fault : Fault), partition v render contents phrases = .error fault →
          Fault.OfPartition fault := by
  intro h
  have hfault := h .standard Expectation.recorded "part()" [Sample.beyond]
    (.outsideText (.ofLength 0 30) 6) rfl
  cases hfault with
  | marker hmarker => exact hmarker.ne_outsideText _ _ rfl

end ExpectFile
