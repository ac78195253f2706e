import ExpectFile.Chunk
import ExpectFile.Proofs.Marker.Reading
import ExpectFile.Proofs.Outcome

/-!
# Steps of the splitter

The splitter takes a phrase in one of four ways: it skips it, closes a chunk with it, takes a label
from it, or lets it gather. `Splitter.Step` has a constructor for each, with everything that such a
step asks for and does; facts about splitting are shown by cases on it and never by unfolding
`Splitter.step`.

* **`step_eq_ok`** — the steps of the splitter are these four.
* **`run_cons_eq_ok`** — a run is a step and a run.
-/

namespace ExpectFile

open Outcome

/-! ## What a phrase is on its own -/

namespace Phrase

/-- The assertion that a phrase is. -/
def closing? (context : SplitContext) (phrase : Phrase) : Option Assertion :=
  match phrase.marker? context.vocabulary context.contents with
  | .ok (some (.assertion closing)) => some closing
  | _ => none

/-- The label of the part declaration that a phrase is, and where it stands. -/
def label? (context : SplitContext) (phrase : Phrase) : Option (String × Extent) :=
  match phrase.marker? context.vocabulary context.contents with
  | .ok (some (.part _ label extent)) => some (label, extent)
  | _ => none

/-- Whether a phrase is an assertion. -/
def closes (context : SplitContext) (phrase : Phrase) : Bool := (phrase.closing? context).isSome

/-- Whether a phrase gathers: it is not empty, and neither an assertion nor a part declaration. -/
def isCode (context : SplitContext) (phrase : Phrase) : Bool :=
  !phrase.isEmpty && (phrase.closing? context).isNone && (phrase.label? context).isNone

theorem marker?_of_isEmpty {phrase : Phrase} (h : phrase.isEmpty = true) (v : Vocabulary)
    (contents : Option String) : phrase.marker? v contents = .ok none := by
  have hnil : phrase.statements = [] := List.isEmpty_iff.mp h
  unfold marker? only?
  rw [hnil]

end Phrase

/-! ## Steps -/

namespace Splitter

/-- The ways to take a phrase: the chunk that it closes, if it does, and what is known after it. -/
inductive Step (context : SplitContext) (state : Splitter) (phrase : Phrase) :
    Option Chunk → Splitter → Prop where
  /-- There is nothing in the phrase. -/
  | skip (hempty : phrase.isEmpty = true) : Step context state phrase none state
  /-- The phrase is an assertion. -/
  | close (closing : Assertion) (extent : Extent)
      (hsome : phrase.isEmpty = false)
      (hread : phrase.marker? context.vocabulary context.contents
        = .ok (some (.assertion closing)))
      (hextent : Extent.ofBounds state.start closing.extent.start = .ok extent) :
      Step context state phrase
        (some ⟨state.part, state.code, closing, extent, context.sourceName,
          context.render closing⟩)
        ⟨state.part, closing.extent.stop, []⟩
  /-- The phrase is a part declaration, and no code waits for an assertion. -/
  | label (name label : String) (extent : Extent)
      (hsome : phrase.isEmpty = false)
      (hread : phrase.marker? context.vocabulary context.contents
        = .ok (some (.part name label extent)))
      (hcode : state.code = []) :
      Step context state phrase none ⟨some label, extent.stop, []⟩
  /-- The phrase is anything else. -/
  | gather (found : Option Marker)
      (hsome : phrase.isEmpty = false)
      (hread : phrase.marker? context.vocabulary context.contents = .ok found)
      (hassertion : ∀ closing, found ≠ some (.assertion closing))
      (hpart : ∀ name label extent, found ≠ some (.part name label extent)) :
      Step context state phrase none ⟨state.part, state.start, state.code ++ [phrase]⟩

/-- **The splitter takes a phrase in one of the four ways.** -/
theorem step_eq_ok {context : SplitContext} {state : Splitter} {phrase : Phrase}
    {result : Option Chunk × Splitter} (h : step context state phrase = .ok result) :
    Step context state phrase result.1 result.2 := by
  unfold step at h
  cases hempty : phrase.isEmpty with
  | true =>
    rw [if_pos hempty] at h
    rw [← Except.ok.inj h]
    exact .skip hempty
  | false =>
    rw [if_neg (by rw [hempty]; exact Bool.false_ne_true)] at h
    obtain ⟨found, hread, h⟩ := bind_eq_ok.mp h
    split at h
    · rename_i closing
      obtain ⟨chunk, hclose, h⟩ := bind_eq_ok.mp h
      obtain ⟨extent, hextent, hchunk⟩ := bind_eq_ok.mp hclose
      rw [← Except.ok.inj h, ← Except.ok.inj hchunk]
      exact .close closing extent hempty hread hextent
    · rename_i name label extent
      split at h
      · rename_i hcode
        have hnil : state.code = [] := List.isEmpty_iff.mp hcode
        rw [← Except.ok.inj h]
        show Step context state phrase none ⟨some label, extent.stop, state.code⟩
        rw [hnil]
        exact .label name label extent hempty hread hnil
      · exact absurd h nofun
    · rename_i hassertion hpart
      rw [← Except.ok.inj h]
      exact .gather found hempty hread hassertion hpart

/-! ## Runs -/

/-- Code is left iff some has gathered, and it is left with all that is known. -/
theorem trailing_eq_some_iff {state : Splitter} {sourceName : String} {left : Trailing} :
    state.trailing sourceName = some left
      ↔ state.code ≠ [] ∧ left = ⟨state.part, state.code, state.start, sourceName⟩ := by
  unfold trailing
  cases hcode : state.code with
  | nil => simp
  | cons phrase rest => simp [eq_comm]

/-- A run over no phrases leaves the code that has gathered. -/
theorem run_nil (context : SplitContext) (state : Splitter) :
    run context state [] = .ok ⟨[], state.trailing context.sourceName⟩ := rfl

/-- A run over more phrases is a step and a run over the others. -/
theorem run_cons_eq_ok {context : SplitContext} {state : Splitter} {phrase : Phrase}
    {rest : List Phrase} {result : Split} (h : run context state (phrase :: rest) = .ok result) :
    ∃ chunk next tail, Step context state phrase chunk next
      ∧ run context next rest = .ok tail
      ∧ result = ⟨chunk.toList ++ tail.chunks, tail.trailing⟩ := by
  obtain ⟨⟨chunk, next⟩, hstep, h⟩ := bind_eq_ok.mp h
  obtain ⟨tail, htail, hpure⟩ := bind_eq_ok.mp h
  exact ⟨chunk, next, tail, step_eq_ok hstep, htail, (Except.ok.inj hpure).symm⟩

end Splitter

/-! ## The sample file -/

namespace Sample

/-- How the sample file is split. -/
def context : SplitContext := ⟨"sample", .standard, Expectation.recorded, some text⟩

/-- What the splitter makes of the sample file: the label of the part declaration holds for both
chunks and for the directive that is left. -/
def divided : Split where
  chunks :=
    [⟨some "p", [assignment], ⟨"expect", .tolerant, some "1", .ofLength 16 11⟩, .ofLength 9 7,
        "sample", some "1"⟩,
      ⟨some "p", [], ⟨"expect", .tolerant, none, .ofLength 28 8⟩, .ofLength 27 1, "sample", none⟩]
  trailing := some ⟨some "p", [directive], 36, "sample"⟩

theorem split_eq_divided : split context 0 phrases = .ok divided := rfl

end Sample

end ExpectFile
