import ExpectFile.Proofs.Chunk.Walk

/-!
# Splitting in two goes

A file can be split up to some phrase and the rest later. Where the first part leaves no code, the
rest is split as a file of its own from the last boundary on. The label is the only thing that is
forgotten on the way: it has to be put where the rest has none.

* **`Splitter.step_labelled`**, **`Splitter.walk_labelled`** — a label given beforehand changes
  nothing but the labels that are missing.
* **`Splitter.eq_labelled_of_knows`** — without code, the splitter knows a boundary and a label.
* **`split_append_eq_map`** — so the whole comes down to a walk over the rest.
-/

namespace ExpectFile

open Outcome

/-! ## Missing labels -/

/-- The chunk with a label if it has none. -/
def Chunk.labelled (label : Option String) (chunk : Chunk) : Chunk :=
  { chunk with part := chunk.part.or label }

/-- The code that is left, with a label if it has none. -/
def Trailing.labelled (label : Option String) (left : Trailing) : Trailing :=
  { left with part := left.part.or label }

namespace Splitter

variable {context : SplitContext} {start : Int} {seen : List Phrase}

/-- The splitter with a label if it knows none. -/
def labelled (label : Option String) (state : Splitter) : Splitter :=
  { state with part := state.part.or label }

theorem trailing_labelled (label : Option String) (state : Splitter) (sourceName : String) :
    (state.labelled label).trailing sourceName
      = (state.trailing sourceName).map (·.labelled label) := by
  unfold trailing labelled
  cases state.code <;> rfl

/-- **A step goes by no label.** It hands the one that it knows on, or puts a new one in its
place. -/
theorem step_labelled (context : SplitContext) (label : Option String) (state : Splitter)
    (phrase : Phrase) :
    (state.labelled label).step context phrase
      = (state.step context phrase).map fun taken =>
          (taken.1.map (·.labelled label), taken.2.labelled label) := by
  unfold step
  by_cases hempty : phrase.isEmpty = true
  · rw [if_pos hempty, if_pos hempty]
    rfl
  rw [if_neg hempty, if_neg hempty]
  cases phrase.marker? context.vocabulary context.contents with
  | error fault => rfl
  | ok found =>
    cases found with
    | none => rfl
    | some marker =>
      cases marker with
      | directive name text extent => rfl
      | assertion closing =>
        show ((state.labelled label).close context closing >>= _)
          = Except.map _ (state.close context closing >>= _)
        unfold close
        show ((Extent.ofBounds state.start _ >>= _) >>= _)
          = Except.map _ ((Extent.ofBounds state.start _ >>= _) >>= _)
        -- neither the extent of the chunk nor the code in front of a part depends on the label
        cases Extent.ofBounds state.start closing.extent.start <;> rfl
      | part name own extent =>
        show (if state.code.isEmpty = true then _ else _)
          = Except.map _ (if state.code.isEmpty = true then _ else _)
        cases state.code.isEmpty <;> rfl

/-- **Nor does a walk.** Induction on the phrases. -/
theorem walk_labelled (context : SplitContext) (label : Option String) (state : Splitter)
    (phrases : List Phrase) :
    walk context (state.labelled label) phrases
      = (walk context state phrases).map fun walked =>
          (walked.1.map (·.labelled label), walked.2.labelled label) := by
  induction phrases generalizing state with
  | nil => rfl
  | cons phrase rest ih =>
    rw [walk_cons, walk_cons, step_labelled]
    cases state.step context phrase with
    | error fault => rfl
    | ok taken =>
      obtain ⟨chunk, next⟩ := taken
      show (walk context (next.labelled label) rest >>= _)
        = Except.map _ (walk context next rest >>= _)
      rw [ih]
      cases walk context next rest with
      | error fault => rfl
      | ok walked =>
        show Except.ok ((chunk.map (·.labelled label)).toList ++ walked.1.map (·.labelled label),
            walked.2.labelled label)
          = .ok ((chunk.toList ++ walked.1).map (·.labelled label), walked.2.labelled label)
        rw [List.map_append]
        cases chunk <;> rfl

/-- **Without code, the splitter knows a boundary and a label**, and both can be read off the
phrases that it has taken. -/
theorem eq_labelled_of_knows {state : Splitter} (hknows : state.Knows context start seen)
    (hcode : state.code = []) :
    state = labelled (lastLabel? context seen) ⟨none, lastBoundary context start seen, []⟩ := by
  obtain ⟨part, from_, code⟩ := state
  obtain rfl : code = [] := hcode
  obtain rfl : part = lastLabel? context seen := hknows.part_eq
  obtain rfl : from_ = lastBoundary context start seen := hknows.start_eq
  rfl

/-- Nothing is left iff no code has gathered. -/
theorem trailing_eq_none_iff {state : Splitter} {sourceName : String} :
    state.trailing sourceName = none ↔ state.code = [] := by
  unfold trailing
  cases state.code <;> simp

end Splitter

/-! ## The whole file -/

variable {context : SplitContext} {start : Int} {front back : List Phrase}

/-- What can be split can be split up to any phrase. -/
theorem exists_split_of_append {whole : Split}
    (hwhole : split context start (front ++ back) = .ok whole) :
    ∃ done, split context start front = .ok done ∧ done.chunks <+: whole.chunks := by
  obtain ⟨last, hwalk, -⟩ := Splitter.exists_walk_of_split hwhole
  rw [Splitter.walk_append] at hwalk
  obtain ⟨⟨chunks, middle⟩, hfront, hrest⟩ := bind_eq_ok.mp hwalk
  obtain ⟨⟨others, final⟩, -, hpure⟩ := bind_eq_ok.mp hrest
  obtain ⟨hchunks, -⟩ := Prod.mk.inj (Except.ok.inj hpure)
  refine ⟨⟨chunks, middle.trailing context.sourceName⟩, ?_, others, hchunks⟩
  rw [split, Splitter.run_eq_map_walk, hfront]
  rfl

/-- **Where the front leaves no code, the whole comes down to a walk over the rest**, from the last
boundary of the front on. -/
theorem split_append_eq_map {done : Split} (hdone : split context start front = .ok done)
    (hnone : done.trailing = none) (back : List Phrase) :
    split context start (front ++ back)
      = (Splitter.walk context ⟨none, lastBoundary context start front, []⟩ back).map
          fun walked =>
            ⟨done.chunks ++ walked.1.map (·.labelled (lastLabel? context front)),
              (walked.2.trailing context.sourceName).map
                (·.labelled (lastLabel? context front))⟩ := by
  obtain ⟨last, hfront, htrailing⟩ := Splitter.exists_walk_of_split hdone
  have hcode : last.code = [] := Splitter.trailing_eq_none_iff.mp (htrailing.symm.trans hnone)
  have hlast := Splitter.eq_labelled_of_knows (Splitter.knows_of_walk hfront) hcode
  rw [split, Splitter.run_eq_map_walk, Splitter.walk_append, hfront]
  show Except.map _ (Splitter.walk context last back >>= _) = _
  rw [hlast, Splitter.walk_labelled]
  cases Splitter.walk context ⟨none, lastBoundary context start front, []⟩ back with
  | error fault => rfl
  | ok walked =>
    show Except.ok (Split.mk _ ((walked.2.labelled _).trailing _)) = _
    rw [Splitter.trailing_labelled]
    rfl

/-- **Splitting can be resumed.** What can be split can be split up to any phrase, and the chunks up
to there are the first chunks of the whole. And where the front leaves no code, the rest can be
split on its own, from the last boundary of the front on: the whole fails iff the rest does, and
with the same fault; otherwise its chunks are those of the front and those of the rest, and the code
that is left is that of the rest, all with the last label of the front where they have none. -/
theorem split_append (context : SplitContext) (start : Int) (front back : List Phrase) :
    (∀ whole, split context start (front ++ back) = .ok whole →
        ∃ done, split context start front = .ok done ∧ done.chunks <+: whole.chunks)
      ∧ ∀ done, split context start front = .ok done → done.trailing = none →
        (∀ fault, split context start (front ++ back) = .error fault
            ↔ split context (lastBoundary context start front) back = .error fault)
          ∧ ∀ rest, split context (lastBoundary context start front) back = .ok rest →
            split context start (front ++ back)
              = .ok ⟨done.chunks ++ rest.chunks.map (·.labelled (lastLabel? context front)),
                  rest.trailing.map (·.labelled (lastLabel? context front))⟩ := by
  constructor
  · exact fun whole => exists_split_of_append
  · intro done hdone hnone
    have hwhole := split_append_eq_map hdone hnone back
    constructor
    · intro fault
      rw [hwhole, split, Splitter.run_eq_map_walk, map_eq_error, map_eq_error]
    · intro rest hrest
      obtain ⟨final, hback, hleft⟩ := Splitter.exists_walk_of_split hrest
      rw [hwhole, hback, hleft]
      rfl

/-- The sample up to its second assertion leaves no code. The directive behind it is split from
there on, and gets the label of the first line. -/
theorem split_append_sample :
    (∃ done, split Sample.context 0 (Sample.phrases.take 4) = .ok done
        ∧ done.chunks <+: Sample.divided.chunks)
      ∧ split Sample.context 0 (Sample.phrases.take 4) = .ok ⟨Sample.divided.chunks, none⟩
      ∧ split Sample.context 36 [Sample.directive]
        = .ok ⟨[], some ⟨none, [Sample.directive], 36, "sample"⟩⟩
      ∧ split Sample.context 0 (Sample.phrases.take 4 ++ [Sample.directive])
        = .ok ⟨Sample.divided.chunks, some ⟨some "p", [Sample.directive], 36, "sample"⟩⟩ := by
  have hfront : split Sample.context 0 (Sample.phrases.take 4)
      = .ok ⟨Sample.divided.chunks, none⟩ := rfl
  have hback : split Sample.context 36 [Sample.directive]
      = .ok ⟨[], some ⟨none, [Sample.directive], 36, "sample"⟩⟩ := rfl
  obtain ⟨hfirst, hresume⟩ :=
    split_append Sample.context 0 (Sample.phrases.take 4) [Sample.directive]
  obtain ⟨-, hrest⟩ := hresume _ hfront rfl
  exact ⟨hfirst _ Sample.split_eq_divided, hfront, hback, hrest _ hback⟩

end ExpectFile
