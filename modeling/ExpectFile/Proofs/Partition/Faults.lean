import ExpectFile.Proofs.Partition.Assembly
import ExpectFile.Proofs.Span.Faults

/-!
# How a partition fails

A partition reads all statements before it tiles the text. So the first statement that cannot be
read decides, whatever the places of the statements are; where all can be read, the first two
neighbours that overlap do; and where none overlap, nothing can go wrong any more: joining spans and
cutting the code out of the text cannot fail.

* **`scan_eq_error_iff`** — reading fails with the fault of the first unreadable statement.
* **`partition_eq_error_iff`** — the faults of a partition, each with the condition under which it
  is reported.
-/

namespace ExpectFile

open Extent Outcome

/-- Every statement can be read. -/
def Readable (v : Vocabulary) (contents : String) (statements : List Statement) : Prop :=
  ∀ statement ∈ statements, ∃ marker, statement.marker? v (some contents) = .ok marker

/-- The first statement that cannot be read fails with the fault. -/
def FirstUnreadable (v : Vocabulary) (contents : String) (statements : List Statement)
    (fault : Fault) : Prop :=
  ∃ before statement after, statements = before ++ statement :: after
    ∧ Readable v contents before
    ∧ statement.marker? v (some contents) = .error fault

/-- The places of the statements of a file, and the end of the file behind them. -/
def statementPlaces (contents : String) (phrases : List Phrase) : List Extent :=
  (phrases.flatMap (·.statements)).map (·.extent) ++ [Extent.empty contents.length]

variable {v : Vocabulary} {render : Rendering} {contents : String} {phrases : List Phrase}

/-! ## Reading -/

/-- Nothing is readable that holds an unreadable statement. -/
theorem FirstUnreadable.not_readable {statements : List Statement} {fault : Fault}
    (h : FirstUnreadable v contents statements fault) : ¬Readable v contents statements := by
  intro hread
  obtain ⟨before, statement, after, rfl, -, hfault⟩ := h
  obtain ⟨marker, hmarker⟩ := hread statement (by simp)
  rw [hfault] at hmarker
  exact absurd hmarker nofun

/-- Statements that cannot all be read have a first one that cannot. -/
theorem exists_firstUnreadable {statements : List Statement}
    (h : ¬Readable v contents statements) : ∃ fault, FirstUnreadable v contents statements fault := by
  induction statements with
  | nil => exact absurd (fun statement hmem => absurd hmem List.not_mem_nil) h
  | cons statement rest ih =>
    cases hmarker : statement.marker? v (some contents) with
    | error fault =>
      exact ⟨fault, [], statement, rest, rfl, fun _ hmem => absurd hmem List.not_mem_nil, hmarker⟩
    | ok marker =>
      have hrest : ¬Readable v contents rest := fun hread =>
        h (List.forall_mem_cons.mpr ⟨⟨marker, hmarker⟩, hread⟩)
      obtain ⟨fault, before, first, after, rfl, hbefore, hfault⟩ := ih hrest
      exact ⟨fault, statement :: before, first, after, rfl,
        List.forall_mem_cons.mpr ⟨⟨marker, hmarker⟩, hbefore⟩, hfault⟩

/-- A scan reads the statements one by one, and stops at the first that cannot be read. -/
theorem scan_eq_error_iff {statements : List Statement} {fault : Fault} :
    scan v render contents statements = .error fault
      ↔ FirstUnreadable v contents statements fault := by
  unfold scan FirstUnreadable Readable
  rw [mapM_eq_error]
  simp only [exists_bind_pure_eq_ok, bind_pure_eq_error]

/-! ## The whole -/

/-- **The faults of a partition.** It fails with the fault of the first statement that cannot be
read; or, if all can be read, with the first two neighbours that overlap. -/
theorem partition_eq_error_iff {fault : Fault} :
    partition v render contents phrases = .error fault
      ↔ FirstUnreadable v contents (phrases.flatMap (·.statements)) fault
        ∨ Readable v contents (phrases.flatMap (·.statements))
          ∧ ∃ previous next, FirstOverlap (statementPlaces contents phrases) previous next
            ∧ fault = .overlap previous next := by
  constructor
  · intro h
    rcases bind_eq_error.mp (map_eq_error.mp h) with hscan | ⟨spans, hscan, htail⟩
    · exact Or.inl (scan_eq_error_iff.mp hscan)
    right
    have hread : Readable v contents (phrases.flatMap (·.statements)) :=
      exists_scan_eq_ok.mp ⟨spans, hscan⟩
    have hextents := (scan_eq_ok hscan).1
    refine ⟨hread, ?_⟩
    rcases bind_eq_error.mp htail with htile | ⟨⟨tiles, counts⟩, htile, -⟩
    · rw [Span.tileCounted_eq_error_iff, hextents] at htile
      exact htile
    · -- spans that can be tiled are in order, and then the partition succeeds
      have hordered := Span.ordered_of_tileCounted htile
      rw [hextents] at hordered
      rw [partition_of_ordered hread hordered] at h
      exact absurd h nofun
  · rintro (hunread | ⟨hread, previous, next, hoverlap, rfl⟩)
    · have hscan : scan v render contents (phrases.flatMap (·.statements)) = .error fault :=
        scan_eq_error_iff.mpr hunread
      exact map_eq_error.mpr (bind_eq_error.mpr (Or.inl hscan))
    · obtain ⟨spans, hscan⟩ := exists_scan_eq_ok.mpr hread
      have htile : Span.tileCounted contents.length spans = .error (.overlap previous next) := by
        rw [Span.tileCounted_eq_error_iff, (scan_eq_ok hscan).1]
        exact ⟨previous, next, hoverlap, rfl⟩
      exact map_eq_error.mpr
        (bind_eq_error.mpr (Or.inr ⟨spans, hscan, bind_eq_error.mpr (Or.inl htile)⟩))

/-- Where the statements are in order within the text, only the two faults of markers are left. -/
theorem ofMarker_of_partition_eq_error {fault : Fault}
    (h : partition v render contents phrases = .error fault)
    (hordered : Ordered 0 ((phrases.flatMap (·.statements)).map (·.extent)) contents.length) :
    Fault.OfMarker fault := by
  rcases partition_eq_error_iff.mp h with ⟨before, statement, after, hsplit, -, hfault⟩ | ⟨hread, -⟩
  · have hmem : statement ∈ phrases.flatMap (·.statements) := by simp [hsplit]
    exact Statement.ofMarker_of_marker?_eq_error hfault
      (hordered.stop_le (List.mem_map_of_mem hmem))
  · rw [partition_of_ordered hread hordered] at h
    exact absurd h nofun

/-- The fault of a statement is never an overlap. -/
theorem FirstUnreadable.ne_overlap {statements : List Statement} {fault : Fault}
    (h : FirstUnreadable v contents statements fault) (previous next : Extent) :
    fault ≠ .overlap previous next := by
  rintro rfl
  obtain ⟨before, statement, after, -, -, hfault⟩ := h
  rcases Statement.fault_of_marker?_eq_error hfault with hmarker | houtside
  · cases hmarker
  · cases houtside

/-- **When a partition reports an overlap.** It does so iff every statement can be read and, among
the places of the statements with the end of the text behind them, one stops behind the start of the
next; the fault then names the first such neighbours. If some statement cannot be read, the fault is
that of the first such statement, whatever overlaps; and if all can be read and no neighbours
overlap, the partition succeeds. -/
theorem partition_eq_overlap_iff (v : Vocabulary) (render : Rendering) (contents : String)
    (phrases : List Phrase) :
    ((∃ previous next, partition v render contents phrases = .error (.overlap previous next))
        ↔ Readable v contents (phrases.flatMap (·.statements))
          ∧ ¬Apart (statementPlaces contents phrases))
      ∧ (∀ previous next, partition v render contents phrases = .error (.overlap previous next)
        ↔ Readable v contents (phrases.flatMap (·.statements))
          ∧ FirstOverlap (statementPlaces contents phrases) previous next)
      ∧ (¬Readable v contents (phrases.flatMap (·.statements)) →
          ∃ fault, FirstUnreadable v contents (phrases.flatMap (·.statements)) fault
            ∧ partition v render contents phrases = .error fault)
      ∧ (Readable v contents (phrases.flatMap (·.statements)) →
          Apart (statementPlaces contents phrases) →
            ∃ blocks, partition v render contents phrases = .ok blocks) := by
  have hoverlap : ∀ previous next,
      partition v render contents phrases = .error (.overlap previous next)
        ↔ Readable v contents (phrases.flatMap (·.statements))
          ∧ FirstOverlap (statementPlaces contents phrases) previous next := by
    intro previous next
    rw [partition_eq_error_iff]
    constructor
    · rintro (hunread | ⟨hread, first, second, hfirst, heq⟩)
      · exact absurd rfl (hunread.ne_overlap previous next)
      · cases heq
        exact ⟨hread, hfirst⟩
    · rintro ⟨hread, hfirst⟩
      exact Or.inr ⟨hread, previous, next, hfirst, rfl⟩
  refine ⟨?_, hoverlap, ?_, ?_⟩
  · simp only [hoverlap, not_apart_iff, exists_and_left]
  · intro hunread
    obtain ⟨fault, hfirst⟩ := exists_firstUnreadable hunread
    exact ⟨fault, hfirst, partition_eq_error_iff.mpr (Or.inl hfirst)⟩
  · intro hread hapart
    cases hresult : partition v render contents phrases with
    | ok blocks => exact ⟨blocks, rfl⟩
    | error fault =>
      -- neither of the two ways to fail is open
      rcases partition_eq_error_iff.mp hresult with hunread | ⟨-, previous, next, hfirst, -⟩
      · exact absurd hread hunread.not_readable
      · exact absurd hapart (not_apart_iff.mpr ⟨previous, next, hfirst⟩)

namespace Sample

/-- Two statements in the sample file, the second of which starts inside the first. -/
def crossing : List Phrase :=
  [.single (.plain 2 (.ofLength 10 5)), .single (.plain 2 (.ofLength 12 3))]

/-- A part declaration without a label. -/
def unlabelled : Phrase := .single (.calling "part" [] 3 (.ofLength 16 11))

end Sample

/-- Two crossing statements are reported; with a call behind them that is no proper marker, that
call is. -/
theorem partition_eq_overlap_iff_sample :
    partition .standard Expectation.recorded Sample.text Sample.crossing
        = .error (.overlap (.ofLength 10 5) (.ofLength 12 3))
      ∧ ∃ fault, FirstUnreadable .standard Sample.text
            ((Sample.crossing ++ [Sample.unlabelled]).flatMap (·.statements)) fault
          ∧ partition .standard Expectation.recorded Sample.text
              (Sample.crossing ++ [Sample.unlabelled]) = .error fault := by
  constructor
  · have hread : Readable .standard Sample.text (Sample.crossing.flatMap (·.statements)) :=
      List.forall_mem_cons.mpr ⟨⟨none, rfl⟩, List.forall_mem_singleton.mpr ⟨none, rfl⟩⟩
    have hoverlap : FirstOverlap (statementPlaces Sample.text Sample.crossing)
        (.ofLength 10 5) (.ofLength 12 3) := .here (by decide)
    exact ((partition_eq_overlap_iff .standard Expectation.recorded Sample.text
      Sample.crossing).2.1 _ _).mpr ⟨hread, hoverlap⟩
  · refine (partition_eq_overlap_iff .standard Expectation.recorded Sample.text
      (Sample.crossing ++ [Sample.unlabelled])).2.2.1 fun hread => ?_
    obtain ⟨marker, hmarker⟩ := hread (.calling "part" [] 3 (.ofLength 16 11)) (by
      simp [Sample.unlabelled, Phrase.single])
    exact absurd hmarker nofun

end ExpectFile
