import ExpectFile.Proofs.Chunk.Step

/-!
# Chunks are segments

Cut the phrases of a file at its assertions. The pieces, less what is no code, are the code of the
chunks and the code that is left at the end: the splitter loses nothing, repeats nothing and keeps
the order. The code that has gathered at any moment belongs to the first piece that is still to
come, which is what the induction over a run carries along.

* **`Step.of_some`**, **`Step.of_none`** — what a step does to the code that has gathered.
* **`pieces_run`** — the code of the chunks, piece by piece.
* **`closings_run`** — the assertions that close them.
-/

namespace ExpectFile

open Outcome

namespace Splitter

variable {context : SplitContext} {state next : Splitter} {phrase : Phrase}

/-! ## One step -/

/-- A step that closes a chunk hands over the code that has gathered. -/
theorem Step.of_some {chunk : Chunk} (h : Step context state phrase (some chunk) next) :
    phrase.closing? context = some chunk.closing ∧ phrase.isCode context = false
      ∧ chunk.code = state.code ∧ chunk.expectation = context.render chunk.closing
      ∧ next.code = [] := by
  cases h with
  | close closing extent hsome hread hextent =>
    have hclosing : phrase.closing? context = some closing := by
      rw [Phrase.closing?, hread]
    refine ⟨hclosing, ?_, rfl, rfl, rfl⟩
    rw [Phrase.isCode, hclosing, Option.isNone_some, Bool.and_false, Bool.false_and]

/-- Any other step adds the phrase to the code, if it is code. -/
theorem Step.of_none (h : Step context state phrase none next) :
    phrase.closing? context = none
      ∧ next.code = state.code ++ [phrase].filter (·.isCode context) := by
  cases h with
  | skip hempty =>
    refine ⟨?_, ?_⟩
    · rw [Phrase.closing?, Phrase.marker?_of_isEmpty hempty]
    · have hcode : phrase.isCode context = false := by
        rw [Phrase.isCode, hempty, Bool.not_true, Bool.false_and, Bool.false_and]
      rw [List.filter_cons_of_neg (by rw [hcode]; exact Bool.false_ne_true), List.filter_nil,
        List.append_nil]
  | label name label extent hsome hread hcode =>
    refine ⟨?_, ?_⟩
    · rw [Phrase.closing?, hread]
    · have hlabel : phrase.label? context = some (label, extent) := by
        rw [Phrase.label?, hread]
      have hno : phrase.isCode context = false := by
        rw [Phrase.isCode, hlabel, Option.isNone_some, Bool.and_false]
      rw [List.filter_cons_of_neg (by rw [hno]; exact Bool.false_ne_true), List.filter_nil,
        List.append_nil, hcode]
  | gather found hsome hread hassertion hpart =>
    have hclosing : phrase.closing? context = none := by
      rw [Phrase.closing?, hread]
      split
      · rename_i closing heq
        exact absurd (Except.ok.inj heq) (hassertion closing)
      · rfl
    have hlabel : phrase.label? context = none := by
      rw [Phrase.label?, hread]
      split
      · rename_i name label extent heq
        exact absurd (Except.ok.inj heq) (hpart name label extent)
      · rfl
    refine ⟨hclosing, ?_⟩
    have hyes : phrase.isCode context = true := by
      rw [Phrase.isCode, hsome, hclosing, hlabel]
      rfl
    rw [List.filter_cons_of_pos hyes, List.filter_nil]

/-! ## A run -/

/-- The code of the chunks and, behind it, the code that is left at the end. -/
def pieces (result : Split) : List (List Phrase) :=
  result.chunks.map (·.code) ++ [result.trailing.elim [] (·.code)]

theorem elim_trailing (state : Splitter) (sourceName : String) :
    (state.trailing sourceName).elim [] (·.code) = state.code := by
  unfold trailing
  cases hcode : state.code with
  | nil => rfl
  | cons phrase rest => rfl

/-- **The code of a run, piece by piece.** The pieces lie between the assertions; what had gathered
before the run belongs to the first of them. Induction on the phrases, the state moving along. -/
theorem pieces_run {phrases : List Phrase} {result : Split}
    (h : run context state phrases = .ok result) :
    pieces result
      = ((phrases.splitOnP (·.closes context)).map (·.filter (·.isCode context))).modifyHead
          (state.code ++ ·) := by
  induction phrases generalizing state result with
  | nil =>
    rw [run_nil] at h
    rw [← Except.ok.inj h]
    show [(state.trailing context.sourceName).elim [] (·.code)] = [state.code ++ []]
    rw [elim_trailing, List.append_nil]
  | cons phrase rest ih =>
    obtain ⟨chunk, next, tail, hstep, htail, rfl⟩ := run_cons_eq_ok h
    -- what is behind the phrase is split into a first piece and others; the phrase closes a piece
    -- of its own, or goes into the first one
    have hpieces := ih htail
    obtain ⟨first, others, hsplit⟩ :=
      List.exists_cons_of_ne_nil (List.splitOnP_ne_nil (·.closes context) rest)
    rw [hsplit] at hpieces
    cases chunk with
    | some chunk =>
      obtain ⟨hclosing, -, hcode, -, hnext⟩ := hstep.of_some
      have hcloses : phrase.closes context = true := by rw [Phrase.closes, hclosing]; rfl
      rw [List.splitOnP_cons_eq_if_modifyHead, if_pos hcloses, hsplit]
      show chunk.code :: pieces tail = _
      rw [hpieces, hcode, hnext]
      show _ = (state.code ++ []) :: _
      rw [List.append_nil]
      rfl
    | none =>
      obtain ⟨hclosing, hnext⟩ := hstep.of_none
      have hcloses : ¬ phrase.closes context = true := by
        rw [Phrase.closes, hclosing]
        exact Bool.false_ne_true
      rw [List.splitOnP_cons_eq_if_modifyHead, if_neg hcloses, hsplit]
      show pieces tail = _
      rw [hpieces, hnext]
      show (state.code ++ [phrase].filter _ ++ first.filter _) :: _
        = (state.code ++ (phrase :: first).filter _) :: _
      rw [List.append_assoc, ← List.filter_append]
      rfl

/-- **The assertions that close the chunks of a run**, each with its rendering. -/
theorem closings_run {phrases : List Phrase} {result : Split}
    (h : run context state phrases = .ok result) :
    result.chunks.map (·.closing) = phrases.filterMap (·.closing? context)
      ∧ ∀ chunk ∈ result.chunks, chunk.expectation = context.render chunk.closing := by
  induction phrases generalizing state result with
  | nil =>
    rw [run_nil] at h
    rw [← Except.ok.inj h]
    exact ⟨rfl, fun chunk hmem => absurd hmem List.not_mem_nil⟩
  | cons phrase rest ih =>
    obtain ⟨chunk, next, tail, hstep, htail, rfl⟩ := run_cons_eq_ok h
    obtain ⟨hclosings, hrendered⟩ := ih htail
    cases chunk with
    | some chunk =>
      obtain ⟨hclosing, -, -, hexpectation, -⟩ := hstep.of_some
      refine ⟨?_, List.forall_mem_cons.mpr ⟨hexpectation, hrendered⟩⟩
      rw [List.filterMap_cons_some hclosing, ← hclosings]
      rfl
    | none =>
      obtain ⟨hclosing, -⟩ := hstep.of_none
      refine ⟨?_, hrendered⟩
      rw [List.filterMap_cons_none hclosing, ← hclosings]
      rfl

/-- Code that is left at the end is not empty. -/
theorem code_of_trailing_run {phrases : List Phrase} {result : Split} {left : Trailing}
    (h : run context state phrases = .ok result) (hleft : result.trailing = some left) :
    left.code ≠ [] := by
  induction phrases generalizing state result with
  | nil =>
    rw [run_nil] at h
    rw [← Except.ok.inj h] at hleft
    obtain ⟨hcode, rfl⟩ := trailing_eq_some_iff.mp hleft
    exact hcode
  | cons phrase rest ih =>
    obtain ⟨chunk, next, tail, -, htail, rfl⟩ := run_cons_eq_ok h
    exact ih htail hleft

end Splitter

/-! ## The whole file -/

/-- The pieces between separators, one after the other, are the list without the separators. -/
theorem flatten_splitOnP {α : Type} (p : α → Bool) (xs : List α) :
    (xs.splitOnP p).flatten = xs.filter fun x => !p x := by
  induction xs with
  | nil => rfl
  | cons x xs ih =>
    obtain ⟨first, others, hsplit⟩ := List.exists_cons_of_ne_nil (List.splitOnP_ne_nil p xs)
    rw [List.splitOnP_cons_eq_if_modifyHead]
    rw [hsplit] at ih ⊢
    by_cases hx : p x = true
    · rw [if_pos hx, List.filter_cons_of_neg (by rw [hx]; exact Bool.false_ne_true), ← ih]
      rfl
    · have hkeep : (!p x) = true := by
        rw [Bool.not_eq_true] at hx
        rw [hx]
        rfl
      rw [if_neg hx, List.filter_cons, if_pos hkeep, ← ih]
      rfl

/-- An assertion is no code. -/
theorem Phrase.closes_of_isCode {context : SplitContext} {phrase : Phrase}
    (h : phrase.isCode context = true) : phrase.closes context = false := by
  rw [isCode, Bool.and_eq_true, Bool.and_eq_true] at h
  rw [closes, Option.isSome_eq_false_iff]
  exact h.1.2

namespace Splitter

/-- A file is split from a state in which nothing has gathered. -/
theorem pieces_split {start : Int} {phrases : List Phrase} {result : Split}
    (h : split context start phrases = .ok result) :
    pieces result
      = (phrases.splitOnP (·.closes context)).map (·.filter (·.isCode context)) := by
  refine (pieces_run h).trans ?_
  cases (phrases.splitOnP (·.closes context)).map (·.filter (·.isCode context)) <;> rfl

/-- The pieces, one after the other, are the code of the file. -/
theorem flatten_pieces_split {start : Int} {phrases : List Phrase} {result : Split}
    (h : split context start phrases = .ok result) :
    (pieces result).flatten = phrases.filter (·.isCode context) := by
  rw [pieces_split h, ← List.filter_flatten, flatten_splitOnP, List.filter_filter]
  refine List.filter_congr fun phrase _ => ?_
  cases hcode : phrase.isCode context with
  | false => rfl
  | true =>
    rw [Phrase.closes_of_isCode hcode]
    rfl

/-- The last piece is the code that is left. -/
theorem trailing_split_eq_none {start : Int} {phrases : List Phrase} {result : Split}
    (h : split context start phrases = .ok result) :
    result.trailing = none
      ↔ ∀ phrase ∈ (phrases.splitOnP (·.closes context)).getLast (List.splitOnP_ne_nil _ _),
          phrase.isCode context = false := by
  have hsegments : (phrases.splitOnP (·.closes context)).map (·.filter (·.isCode context)) ≠ [] :=
    fun hnil => List.splitOnP_ne_nil _ _ (List.map_eq_nil_iff.mp hnil)
  have hlast : result.trailing.elim [] (·.code)
      = ((phrases.splitOnP (·.closes context)).getLast (List.splitOnP_ne_nil _ _)).filter
          (·.isCode context) := by
    rw [← List.getLast_map hsegments]
    simp only [← pieces_split h, pieces, List.getLast_concat]
  have hnone : result.trailing = none ↔ result.trailing.elim [] (·.code) = [] := by
    cases htrailing : result.trailing with
    | none => exact ⟨fun _ => rfl, fun _ => rfl⟩
    | some left => exact ⟨nofun, fun hnil => absurd hnil (code_of_trailing_run h htrailing)⟩
  rw [hnone, hlast, List.filter_eq_nil_iff]
  refine forall₂_congr fun phrase _ => ?_
  rw [Bool.not_eq_true]

end Splitter

/-- **The chunks are the segments between the assertions.** Their code and the code that is left,
one after the other, is the code of the file; there is a chunk for every assertion, closed by it and
with its rendering; the code of each is the code in front of its assertion, back to the one before;
and code is left iff there is some behind the last assertion. -/
theorem split_eq_segments {context : SplitContext} {start : Int} {phrases : List Phrase}
    {result : Split} (h : split context start phrases = .ok result) :
    result.chunks.flatMap (·.code) ++ result.trailing.elim [] (·.code)
        = phrases.filter (·.isCode context)
      ∧ result.chunks.map (·.closing) = phrases.filterMap (·.closing? context)
      ∧ (∀ chunk ∈ result.chunks, chunk.expectation = context.render chunk.closing)
      ∧ result.chunks.map (·.code) ++ [result.trailing.elim [] (·.code)]
        = (phrases.splitOnP (·.closes context)).map (·.filter (·.isCode context))
      ∧ (result.trailing = none
        ↔ ∀ phrase ∈ (phrases.splitOnP (·.closes context)).getLast (List.splitOnP_ne_nil _ _),
            phrase.isCode context = false) := by
  obtain ⟨hclosings, hrendered⟩ := Splitter.closings_run h
  have hflat : (result.chunks.map (·.code) ++ [result.trailing.elim [] (·.code)]).flatten
      = phrases.filter (·.isCode context) := Splitter.flatten_pieces_split h
  rw [List.flatten_append, List.flatten_singleton] at hflat
  exact ⟨hflat, hclosings, hrendered, Splitter.pieces_split h, Splitter.trailing_split_eq_none h⟩

/-- The sample has two assertions, one right behind the other, and a directive after them. -/
theorem split_eq_segments_sample :
    split Sample.context 0 Sample.phrases = .ok Sample.divided
      ∧ Sample.divided.chunks.flatMap (·.code) ++ Sample.divided.trailing.elim [] (·.code)
        = [Sample.assignment, Sample.directive]
      ∧ (Sample.phrases.splitOnP (·.closes Sample.context)).map (·.filter (·.isCode Sample.context))
        = [[Sample.assignment], [], [Sample.directive]] := by
  obtain ⟨hflat, -, -, hpieces, -⟩ := split_eq_segments Sample.split_eq_divided
  exact ⟨Sample.split_eq_divided, hflat.trans rfl, hpieces.symm.trans rfl⟩

end ExpectFile
