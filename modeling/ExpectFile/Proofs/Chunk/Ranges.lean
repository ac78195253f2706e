import ExpectFile.Proofs.Chunk.Faults
import ExpectFile.Proofs.Marker.Quoting

/-!
# Ranges of chunks

Where the phrases of a file come one after the other, so do the chunks: the code of each lies in its
extent, its assertion follows the extent at once, and the next chunk starts no earlier than the
assertion stops. What carries this through a run is that the code that has gathered lies between the
splitter's start and the phrases that are still to come (`Splitter.Bounded`).

* **`Step.bounded`** — one step keeps the gathered code between the two.
* **`Step.inPlace`** — a chunk that a step closes has its code within its extent.
* **`ranged_of_run`** — a whole run, by induction on the phrases.
* **`step_ne_invalidExtent`** — and no step has to close a chunk in front of its start.
-/

namespace ExpectFile

open Extent Outcome

/-- The extent lies within another. -/
def Extent.Within (inner outer : Extent) : Prop :=
  outer.start ≤ inner.start ∧ inner.stop ≤ outer.stop

/-- A phrase of a single statement is no longer than the statement. -/
def Phrase.Tight (phrase : Phrase) : Prop :=
  ∀ statement, phrase.statements = [statement] → phrase.extent = statement.extent

theorem Phrase.Tight.single (statement : Statement) : (Phrase.single statement).Tight :=
  fun _ h => congrArg Statement.extent (List.cons.inj h).1

/-- A chunk whose code lies in its extent, with the assertion right behind it. -/
structure Chunk.InPlace (chunk : Chunk) : Prop where
  stop_eq : chunk.extent.stop = chunk.closing.extent.start
  code_within : ∀ phrase ∈ chunk.code, phrase.extent.Within chunk.extent

namespace Split

/-- The chunks, and the code that is left behind them, from an offset on. -/
structure Ranged (result : Split) (start : Int) : Prop where
  inPlace : ∀ chunk ∈ result.chunks, chunk.InPlace
  start_le : ∀ chunk ∈ result.chunks, start ≤ chunk.extent.start
  apart : result.chunks.Pairwise fun first second =>
    first.closing.extent.stop ≤ second.extent.start
  start_le_trailing : ∀ left, result.trailing = some left → start ≤ left.start
  trailing_behind : ∀ left, result.trailing = some left →
    ∀ chunk ∈ result.chunks, (chunk.closing.extent.stop : Int) ≤ left.start
  trailing_code : ∀ left, result.trailing = some left →
    ∀ phrase ∈ left.code, left.start ≤ phrase.extent.start

/-- What comes from an offset on comes from every earlier offset on. -/
theorem Ranged.mono {start earlier : Int} {result : Split} (h : result.Ranged start)
    (hle : earlier ≤ start) : result.Ranged earlier where
  inPlace := h.inPlace
  start_le chunk hmem := Int.le_trans hle (h.start_le chunk hmem)
  apart := h.apart
  start_le_trailing left hleft := Int.le_trans hle (h.start_le_trailing left hleft)
  trailing_behind := h.trailing_behind
  trailing_code := h.trailing_code

/-- A chunk in front of others whose assertion stops where they begin. -/
theorem Ranged.cons {chunk : Chunk} {result : Split} (hchunk : chunk.InPlace)
    (h : result.Ranged chunk.closing.extent.stop) :
    Ranged ⟨chunk :: result.chunks, result.trailing⟩ chunk.extent.start where
  inPlace := List.forall_mem_cons.mpr ⟨hchunk, h.inPlace⟩
  start_le := by
    have hextent := chunk.extent.start_le_stop
    have hclosing := chunk.closing.extent.start_le_stop
    have hstop := hchunk.stop_eq
    refine List.forall_mem_cons.mpr ⟨Int.le_refl _, fun other hmem => ?_⟩
    have := h.start_le other hmem
    omega
  apart := by
    refine List.pairwise_cons.mpr ⟨fun other hmem => ?_, h.apart⟩
    have := h.start_le other hmem
    omega
  start_le_trailing left hleft := by
    have hextent := chunk.extent.start_le_stop
    have hclosing := chunk.closing.extent.start_le_stop
    have hstop := hchunk.stop_eq
    have := h.start_le_trailing left hleft
    omega
  trailing_behind left hleft :=
    List.forall_mem_cons.mpr ⟨h.start_le_trailing left hleft, h.trailing_behind left hleft⟩
  trailing_code := h.trailing_code

end Split

namespace Splitter

variable {context : SplitContext} {state next : Splitter} {phrase : Phrase}

/-- The splitter has gathered code between its start and `floor`. -/
structure Bounded (state : Splitter) (floor : Nat) : Prop where
  zero_le : 0 ≤ state.start
  start_le : state.start ≤ floor
  start_le_code : ∀ phrase ∈ state.code, state.start ≤ phrase.extent.start
  code_le : ∀ phrase ∈ state.code, phrase.extent.stop ≤ floor

/-- A marker that a phrase is stands where the phrase stands. -/
theorem extent_of_marker? {marker : Marker} (htight : phrase.Tight)
    (hread : phrase.marker? context.vocabulary context.contents = .ok (some marker)) :
    marker.extent = phrase.extent := by
  obtain ⟨statement, hstatements, hsame⟩ := Phrase.eq_single_of_marker? (by rw [hread]; nofun)
  rw [hsame] at hread
  rw [Statement.marker?_extent hread, htight statement hstatements]

/-! ## One step -/

/-- **A step keeps the gathered code in bounds**: behind the splitter's start, and in front of
whatever follows the phrase. A boundary moves the start past the phrase, when no code is left. -/
theorem Step.bounded {chunk : Option Chunk} {floor : Nat}
    (h : Step context state phrase chunk next) (hbounded : state.Bounded floor)
    (hfloor : floor ≤ phrase.extent.start) (htight : phrase.Tight) :
    next.Bounded phrase.extent.stop := by
  obtain ⟨hzero, hstart, hfrom, hto⟩ := hbounded
  have hlength : phrase.extent.start ≤ phrase.extent.stop := phrase.extent.start_le_stop
  have hempty (bound : Phrase → Prop) : ∀ phrase ∈ ([] : List Phrase), bound phrase :=
    fun _ hmem => absurd hmem List.not_mem_nil
  cases h with
  | skip hskip =>
    have hlater : ∀ phrase' ∈ state.code, phrase'.extent.stop ≤ phrase.extent.stop := by
      intro phrase' hmem
      have := hto phrase' hmem
      omega
    exact ⟨hzero, by omega, hfrom, hlater⟩
  | close closing extent hsome hread hextent =>
    -- a marker is alone in its phrase, so the phrase has its extent
    have hplace : closing.extent = phrase.extent := extent_of_marker? htight hread
    rw [hplace]
    exact ⟨Int.natCast_nonneg _, Int.le_refl _, hempty _, hempty _⟩
  | label name label extent hsome hread hcode =>
    have hplace : extent = phrase.extent := extent_of_marker? htight hread
    rw [hplace]
    exact ⟨Int.natCast_nonneg _, Int.le_refl _, hempty _, hempty _⟩
  | gather found hsome hread hassertion hpart =>
    refine ⟨hzero, ?_, ?_, ?_⟩
    · show state.start ≤ phrase.extent.stop
      omega
    · intro phrase' hmem
      rcases List.mem_append.mp hmem with hold | hnew
      · exact hfrom phrase' hold
      · obtain rfl := List.mem_singleton.mp hnew
        show state.start ≤ phrase'.extent.start
        omega
    · intro phrase' hmem
      rcases List.mem_append.mp hmem with hold | hnew
      · have := hto phrase' hold
        omega
      · obtain rfl := List.mem_singleton.mp hnew
        exact Nat.le_refl _

/-- A step never moves the start back. -/
theorem Step.start_le {chunk : Option Chunk} {floor : Nat}
    (h : Step context state phrase chunk next) (hbounded : state.Bounded floor)
    (hfloor : floor ≤ phrase.extent.start) (htight : phrase.Tight) :
    state.start ≤ next.start := by
  have hstart : state.start ≤ floor := hbounded.start_le
  have hlength : phrase.extent.start ≤ phrase.extent.stop := phrase.extent.start_le_stop
  cases h with
  | skip hskip => exact Int.le_refl _
  | close closing extent hsome hread hextent =>
    have hplace : closing.extent = phrase.extent := extent_of_marker? htight hread
    show state.start ≤ (closing.extent.stop : Int)
    rw [hplace]
    omega
  | label name label extent hsome hread hcode =>
    have hplace : extent = phrase.extent := extent_of_marker? htight hread
    show state.start ≤ (extent.stop : Int)
    rw [hplace]
    omega
  | gather found hsome hread hassertion hpart => exact Int.le_refl _

/-- **A chunk that a step closes** reaches from the splitter's start to the phrase, and so holds the
code that has gathered. The next one starts where the phrase stops. -/
theorem Step.inPlace {chunk : Chunk} {floor : Nat}
    (h : Step context state phrase (some chunk) next) (hbounded : state.Bounded floor)
    (hfloor : floor ≤ phrase.extent.start) (htight : phrase.Tight) :
    chunk.InPlace ∧ (chunk.extent.start : Int) = state.start
      ∧ next.start = chunk.closing.extent.stop := by
  cases h with
  | close closing extent hsome hread hextent =>
    have hplace : closing.extent = phrase.extent := extent_of_marker? htight hread
    obtain ⟨hfrom, hto⟩ := bounds_of_ofBounds hextent
    refine ⟨⟨Int.ofNat.inj hto, ?_⟩, hfrom, rfl⟩
    intro phrase' hmem
    have hstart : state.start ≤ phrase'.extent.start := hbounded.start_le_code phrase' hmem
    have hstop : phrase'.extent.stop ≤ floor := hbounded.code_le phrase' hmem
    rw [hplace] at hto
    show extent.start ≤ phrase'.extent.start ∧ phrase'.extent.stop ≤ extent.stop
    omega

/-- No step has to close a chunk in front of its start. -/
theorem step_ne_invalidExtent {floor : Nat} (hbounded : state.Bounded floor)
    (hfloor : floor ≤ phrase.extent.start) (htight : phrase.Tight) (low high : Int) :
    step context state phrase ≠ .error (.invalidExtent low high) := by
  intro h
  rcases step_eq_error h with hread | ⟨closing, hread, hextent⟩ | ⟨name, label, extent, -, -, hfault⟩
  · obtain ⟨statement, hstatements, hsame⟩ := Phrase.eq_single_of_marker? (by rw [hread]; nofun)
    rw [hsame] at hread
    exact Statement.marker?_ne_invalidExtent low high hread
  · have hplace : closing.extent = phrase.extent := extent_of_marker? htight hread
    have hle : state.start ≤ closing.extent.start := by
      have := hbounded.start_le
      rw [hplace]
      omega
    obtain ⟨start, hcast⟩ := Int.eq_ofNat_of_zero_le hbounded.zero_le
    rw [hcast, ofBounds_natCast (by omega)] at hextent
    exact absurd hextent nofun
  · exact absurd hfault nofun

/-! ## A run -/

/-- **A run over phrases in order.** Its chunks are in order, from the splitter's start on, and it
does not fail for want of an extent. Induction on the phrases; the gathered code stays in front of
those that are left. -/
theorem ranged_of_run {phrases : List Phrase} {floor : Nat} (hbounded : state.Bounded floor)
    (hfloor : ∀ phrase ∈ phrases, floor ≤ phrase.extent.start)
    (hordered : phrases.Pairwise fun first second => first.extent.stop ≤ second.extent.start)
    (htight : ∀ phrase ∈ phrases, phrase.Tight) :
    (∀ low high, run context state phrases ≠ .error (.invalidExtent low high))
      ∧ ∀ result, run context state phrases = .ok result → result.Ranged state.start := by
  induction phrases generalizing state floor with
  | nil =>
    refine ⟨fun low high h => absurd h nofun, fun result h => ?_⟩
    rw [run_nil] at h
    rw [← Except.ok.inj h]
    have hnone (property : Chunk → Prop) : ∀ chunk ∈ ([] : List Chunk), property chunk :=
      fun _ hmem => absurd hmem List.not_mem_nil
    refine ⟨hnone _, hnone _, List.Pairwise.nil, ?_, fun _ _ => hnone _, ?_⟩ <;> intro left hleft <;>
      obtain ⟨-, rfl⟩ := trailing_eq_some_iff.mp hleft
    · exact Int.le_refl _
    · exact hbounded.start_le_code
  | cons phrase rest ih =>
    obtain ⟨hhere, -⟩ := List.forall_mem_cons.mp hfloor
    obtain ⟨hlater, hordered⟩ := List.pairwise_cons.mp hordered
    obtain ⟨hphrase, htight⟩ := List.forall_mem_cons.mp htight
    -- what a step leaves is bounded again, now by the stop of the phrase
    have hnext : ∀ {chunk next}, Step context state phrase chunk next →
        next.Bounded phrase.extent.stop := fun hstep => hstep.bounded hbounded hhere hphrase
    constructor
    · intro low high h
      rcases bind_eq_error.mp h with hstep | ⟨⟨chunk, next⟩, hstep, htail⟩
      · exact step_ne_invalidExtent hbounded hhere hphrase low high hstep
      · exact (ih (hnext (step_eq_ok hstep)) hlater hordered htight).1 low high
          (bind_pure_eq_error.mp htail)
    · intro result h
      obtain ⟨closed, next, tail, hstep, htail, rfl⟩ := run_cons_eq_ok h
      have hranged : tail.Ranged next.start :=
        (ih (hnext hstep) hlater hordered htight).2 tail htail
      cases closed with
      | none => exact hranged.mono (hstep.start_le hbounded hhere hphrase)
      | some chunk =>
        obtain ⟨hchunk, hstart, hnextStart⟩ := hstep.inPlace hbounded hhere hphrase
        rw [hnextStart] at hranged
        rw [← hstart]
        exact hranged.cons hchunk

end Splitter

/-! ## The whole file -/

/-- **Chunks are in order, do not overlap, and hold their code.** The phrases come one after the
other from `start` on, and those of a single statement are no longer than it. Then a splitting never
fails for want of an extent. If it succeeds, each chunk stops where its assertion starts, the
assertion stops in front of every later chunk, and the code of a chunk lies in the chunk; the code
that is left lies behind its start, and that behind the assertions of all chunks. -/
theorem split_ranges {context : SplitContext} {start : Int} {phrases : List Phrase}
    (hzero : 0 ≤ start)
    (hfirst : ∀ first, phrases.head? = some first → start ≤ first.extent.start)
    (hordered : phrases.Pairwise fun first second => first.extent.stop ≤ second.extent.start)
    (htight : ∀ phrase ∈ phrases, phrase.Tight) :
    (∀ low high, split context start phrases ≠ .error (.invalidExtent low high))
      ∧ ∀ result, split context start phrases = .ok result →
        (∀ chunk ∈ result.chunks, chunk.extent.stop = chunk.closing.extent.start)
          ∧ (result.chunks.Pairwise fun first second =>
            first.closing.extent.stop ≤ second.extent.start)
          ∧ (∀ chunk ∈ result.chunks, start ≤ chunk.extent.start
            ∧ ∀ phrase ∈ chunk.code, phrase.extent.Within chunk.extent)
          ∧ ∀ left, result.trailing = some left →
            (∀ phrase ∈ left.code, left.start ≤ phrase.extent.start)
              ∧ ∀ chunk ∈ result.chunks, (chunk.closing.extent.stop : Int) ≤ left.start := by
  obtain ⟨floor, rfl⟩ := Int.eq_ofNat_of_zero_le hzero
  have hfloor : ∀ phrase ∈ phrases, floor ≤ phrase.extent.start := by
    cases phrases with
    | nil => exact fun _ hmem => absurd hmem List.not_mem_nil
    | cons first rest =>
      have hhead : floor ≤ first.extent.start := Int.ofNat_le.mp (hfirst first rfl)
      refine List.forall_mem_cons.mpr ⟨hhead, fun phrase hmem => ?_⟩
      have hafter : first.extent.stop ≤ phrase.extent.start :=
        (List.pairwise_cons.mp hordered).1 phrase hmem
      have hlength : first.extent.start ≤ first.extent.stop := first.extent.start_le_stop
      omega
  -- nothing has gathered in front of the first phrase
  have hbounded : Splitter.Bounded ⟨none, floor, []⟩ floor :=
    ⟨hzero, Int.le_refl _, fun _ hmem => absurd hmem List.not_mem_nil,
      fun _ hmem => absurd hmem List.not_mem_nil⟩
  obtain ⟨hextent, hresult⟩ := Splitter.ranged_of_run hbounded hfloor hordered htight
  refine ⟨hextent, fun result h => ?_⟩
  have hranged : result.Ranged floor := hresult result h
  refine ⟨fun chunk hmem => (hranged.inPlace chunk hmem).stop_eq, hranged.apart, ?_, ?_⟩
  · intro chunk hmem
    exact ⟨hranged.start_le chunk hmem, (hranged.inPlace chunk hmem).code_within⟩
  · intro left hleft
    exact ⟨hranged.trailing_code left hleft, hranged.trailing_behind left hleft⟩

/-- In the sample the first chunk holds the assignment, the second is a single line break, and the
directive that is left starts behind the second assertion. -/
theorem split_ranges_sample :
    (Sample.phrases.Pairwise fun first second => first.extent.stop ≤ second.extent.start)
      ∧ split Sample.context 0 Sample.phrases = .ok Sample.divided
      ∧ (∀ chunk ∈ Sample.divided.chunks, ∀ phrase ∈ chunk.code,
          phrase.extent.Within chunk.extent)
      ∧ (Sample.divided.chunks.Pairwise fun first second =>
          first.closing.extent.stop ≤ second.extent.start)
      ∧ ∀ left, Sample.divided.trailing = some left →
          ∀ phrase ∈ left.code, left.start ≤ phrase.extent.start := by
  have hordered : Sample.phrases.Pairwise fun first second =>
      first.extent.stop ≤ second.extent.start := by decide
  have htight : ∀ phrase ∈ Sample.phrases, phrase.Tight := by
    simp only [Sample.phrases, Sample.assignment, Sample.directive, List.forall_mem_cons]
    exact ⟨.single _, .single _, .single _, .single _, .single _, nofun⟩
  obtain ⟨-, hresult⟩ := @split_ranges Sample.context 0 Sample.phrases (Int.le_refl 0)
    (fun first _ => Int.natCast_nonneg _) hordered htight
  obtain ⟨-, hapart, hcode, hleft⟩ := hresult _ Sample.split_eq_divided
  exact ⟨hordered, Sample.split_eq_divided, fun chunk hmem => (hcode chunk hmem).2, hapart,
    fun left heq => (hleft left heq).1⟩

end ExpectFile
