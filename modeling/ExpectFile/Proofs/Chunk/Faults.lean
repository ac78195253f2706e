import ExpectFile.Proofs.Chunk.Step

/-!
# How splitting fails

A step of the splitter fails because a phrase is no proper marker, because a part declaration stands
behind code, or because the chunk would start behind the assertion that closes it. The last cannot
happen where the statements are in order: the splitter's start never passes the phrases it has taken
(`Behind`).

* **`step_eq_error`** — the three ways for a step to fail.
* **`Step.behind`** — one step keeps the start behind the phrases that follow.
* **`ofSplit_of_run_eq_error`** — so a whole run fails in one of the first two ways.
-/

namespace ExpectFile

open Extent Outcome

variable {context : SplitContext}

/-- The faults of splitting: those of markers, and a part declaration behind code. -/
inductive Fault.OfSplit (sourceName : String) : Fault → Prop where
  | marker {fault : Fault} (h : Fault.OfMarker fault) : Fault.OfSplit sourceName fault
  | misplaced (extent : Extent) (line : Nat) :
      Fault.OfSplit sourceName (.misplacedPart extent sourceName line)

/-- A phrase that is a marker, or fails to be one, is a single statement. -/
theorem Phrase.eq_single_of_marker? {phrase : Phrase} {v : Vocabulary} {contents : Option String}
    (h : phrase.marker? v contents ≠ .ok none) :
    ∃ statement, phrase.statements = [statement]
      ∧ phrase.marker? v contents = statement.marker? v contents := by
  unfold marker? at h ⊢
  cases hone : phrase.only? with
  | none =>
    rw [hone] at h
    exact absurd rfl h
  | some statement =>
    refine ⟨statement, ?_, rfl⟩
    unfold only? at hone
    split at hone
    · rename_i found hstatements
      rw [hstatements, Option.some.inj hone]
    · exact absurd hone nofun

namespace Splitter

/-- The start is an offset, and no offset behind `floor`. -/
def Behind (state : Splitter) (floor : Nat) : Prop := 0 ≤ state.start ∧ state.start ≤ floor

/-- **The ways for a step to fail.** -/
theorem step_eq_error {state : Splitter} {phrase : Phrase} {fault : Fault}
    (h : step context state phrase = .error fault) :
    phrase.marker? context.vocabulary context.contents = .error fault
      ∨ (∃ closing, phrase.marker? context.vocabulary context.contents
            = .ok (some (.assertion closing))
          ∧ Extent.ofBounds state.start closing.extent.start = .error fault)
      ∨ ∃ name label extent, phrase.marker? context.vocabulary context.contents
            = .ok (some (.part name label extent))
          ∧ state.code ≠ []
          ∧ fault = .misplacedPart extent context.sourceName (lineOf phrase) := by
  unfold step at h
  split at h
  · exact absurd h nofun
  rcases bind_eq_error.mp h with hread | ⟨found, hread, h⟩
  · exact Or.inl hread
  right
  split at h
  · rename_i closing
    -- closing a chunk fails where its extent does, and a step where closing does
    have hclose : state.close context closing = .error fault := bind_pure_eq_error.mp h
    have hextent : Extent.ofBounds state.start closing.extent.start = .error fault :=
      bind_pure_eq_error.mp hclose
    exact Or.inl ⟨closing, hread, hextent⟩
  · rename_i name label extent
    split at h
    · exact absurd h nofun
    · rename_i hcode
      refine Or.inr ⟨name, label, extent, hread, fun hnil => hcode ?_, (Except.error.inj h).symm⟩
      rw [hnil]
      rfl
  · exact absurd h nofun

/-- Where the statements of a phrase run from `floor` to `middle`, a marker that it is stands
between the two. -/
theorem bounds_of_marker? {phrase : Phrase} {floor middle : Nat} {marker : Marker}
    (hread : phrase.marker? context.vocabulary context.contents = .ok (some marker))
    (hordered : Ordered floor (phrase.statements.map (·.extent)) middle) :
    floor ≤ marker.extent.start ∧ marker.extent.stop ≤ middle := by
  obtain ⟨statement, hstatements, hsame⟩ :=
    Phrase.eq_single_of_marker? (by rw [hread]; nofun)
  rw [hsame] at hread
  rw [Statement.marker?_extent hread]
  rw [hstatements] at hordered
  exact hordered

/-- **A step keeps the start behind what follows.** -/
theorem Step.behind {state next : Splitter} {phrase : Phrase} {chunk : Option Chunk}
    {floor middle : Nat} (h : Step context state phrase chunk next) (hbehind : state.Behind floor)
    (hordered : Ordered floor (phrase.statements.map (·.extent)) middle) :
    next.Behind middle := by
  have hle : floor ≤ middle := hordered.le
  have hstart : 0 ≤ state.start ∧ state.start ≤ floor := hbehind
  cases h with
  | skip hempty =>
    show 0 ≤ state.start ∧ state.start ≤ middle
    omega
  | close closing extent hsome hread hextent =>
    have hstop : closing.extent.stop ≤ middle := (bounds_of_marker? hread hordered).2
    show (0 : Int) ≤ closing.extent.stop ∧ (closing.extent.stop : Int) ≤ middle
    omega
  | label name label extent hsome hread hcode =>
    have hstop : extent.stop ≤ middle := (bounds_of_marker? hread hordered).2
    show (0 : Int) ≤ extent.stop ∧ (extent.stop : Int) ≤ middle
    omega
  | gather found hsome hread hassertion hpart =>
    show 0 ≤ state.start ∧ state.start ≤ middle
    omega

/-- **A step on statements in order fails for want of a marker, or of an assertion in front of a
part declaration.** -/
theorem ofSplit_of_step_eq_error {state : Splitter} {phrase : Phrase} {contents : String}
    {fault : Fault} {floor middle : Nat} (hcontents : context.contents = some contents)
    (h : step context state phrase = .error fault) (hbehind : state.Behind floor)
    (hordered : Ordered floor (phrase.statements.map (·.extent)) middle)
    (hmiddle : middle ≤ contents.length) :
    Fault.OfSplit context.sourceName fault := by
  rcases step_eq_error h with hread | ⟨closing, hread, hextent⟩ | ⟨name, label, extent, -, -, rfl⟩
  · obtain ⟨statement, hstatements, hsame⟩ :=
      Phrase.eq_single_of_marker? (by rw [hread]; nofun)
    rw [hstatements] at hordered
    rw [hsame, hcontents] at hread
    exact .marker (Statement.ofMarker_of_marker?_eq_error hread (Nat.le_trans hordered.2 hmiddle))
  · -- the chunk starts in front of the assertion, so there is an extent between the two
    have hfloor : floor ≤ closing.extent.start := (bounds_of_marker? hread hordered).1
    obtain ⟨hzero, hstart⟩ := hbehind
    obtain ⟨start, hcast⟩ := Int.eq_ofNat_of_zero_le hzero
    rw [hcast, ofBounds_natCast (by omega)] at hextent
    exact absurd hextent nofun
  · exact .misplaced extent (lineOf phrase)

/-- **A run over statements in order fails in no other way.** Induction on the phrases; the start
stays behind those that are left. -/
theorem ofSplit_of_run_eq_error {contents : String} (hcontents : context.contents = some contents)
    {fault : Fault} {phrases : List Phrase} {state : Splitter} {floor : Nat}
    (h : run context state phrases = .error fault) (hbehind : state.Behind floor)
    (hordered : Ordered floor ((phrases.flatMap (·.statements)).map (·.extent)) contents.length) :
    Fault.OfSplit context.sourceName fault := by
  induction phrases generalizing state floor with
  | nil => exact absurd h nofun
  | cons phrase rest ih =>
    rw [List.flatMap_cons, List.map_append] at hordered
    obtain ⟨middle, hphrase, hrest⟩ := hordered.of_append
    rcases bind_eq_error.mp h with hstep | ⟨⟨chunk, next⟩, hstep, htail⟩
    · exact ofSplit_of_step_eq_error hcontents hstep hbehind hphrase hrest.le
    · have hnext : next.Behind middle := (step_eq_ok hstep).behind hbehind hphrase
      exact ih (bind_pure_eq_error.mp htail) hnext hrest

end Splitter

end ExpectFile
