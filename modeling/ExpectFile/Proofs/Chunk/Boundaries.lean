import ExpectFile.Proofs.Chunk.Segments

/-!
# Labels and boundaries of chunks

What the splitter knows between two phrases can be read off the phrases behind it: the label is that
of the last part declaration, and the start is where the last assertion or part declaration stops.
Chunks are closed with this knowledge, and so is the code that is left at the end.

* **`lastLabel?_concat`**, **`lastBoundary_concat`** — how the two readings change with a phrase.
* **`Step.follows`** — one step keeps the splitter's knowledge in line with the phrases it has taken.
* **`closedBehind_of_run`**, **`trailing_of_run`** — so every chunk of a run, and what it leaves, is
  given by the phrases in front of it.
-/

namespace ExpectFile

/-! ## What a stretch of phrases says -/

/-- Where the boundary stands that a phrase is: an assertion or a part declaration. -/
def Phrase.boundary? (context : SplitContext) (phrase : Phrase) : Option Extent :=
  ((phrase.closing? context).map (·.extent)).or ((phrase.label? context).map (·.2))

/-- The label of the last part declaration among the phrases. -/
def lastLabel? (context : SplitContext) (phrases : List Phrase) : Option String :=
  (phrases.filterMap (·.label? context)).getLast?.map (·.1)

/-- Where the last assertion or part declaration among the phrases stops; `start` if there is
none. -/
def lastBoundary (context : SplitContext) (start : Int) (phrases : List Phrase) : Int :=
  (phrases.filterMap (·.boundary? context)).getLast?.elim start fun place => (place.stop : Int)

section

variable {context : SplitContext} {start : Int}

/-- The last value of a list with one more member is that of the member, if it has one. -/
theorem getLast?_filterMap_concat {α β : Type} (f : α → Option β) (xs : List α) (x : α) :
    ((xs ++ [x]).filterMap f).getLast? = (f x).or (xs.filterMap f).getLast? := by
  rw [List.filterMap_append, List.getLast?_append]
  cases hx : f x <;> simp [hx]

theorem lastLabel?_concat (phrases : List Phrase) (phrase : Phrase) :
    lastLabel? context (phrases ++ [phrase])
      = ((phrase.label? context).map (·.1)).or (lastLabel? context phrases) := by
  unfold lastLabel?
  rw [getLast?_filterMap_concat]
  cases phrase.label? context <;> rfl

theorem lastBoundary_concat (phrases : List Phrase) (phrase : Phrase) :
    lastBoundary context start (phrases ++ [phrase])
      = (phrase.boundary? context).elim (lastBoundary context start phrases)
          fun place => (place.stop : Int) := by
  unfold lastBoundary
  rw [getLast?_filterMap_concat]
  cases phrase.boundary? context <;> rfl

end

namespace Splitter

variable {context : SplitContext} {start : Int} {seen : List Phrase} {state next : Splitter}
  {phrase : Phrase}

/-- What the splitter knows is what the phrases that it has taken say. -/
structure Follows (context : SplitContext) (start : Int) (seen : List Phrase) (state : Splitter) :
    Prop where
  part_eq : state.part = lastLabel? context seen
  start_eq : state.start = lastBoundary context start seen

/-- A chunk as it is when it is closed behind some phrases: the label in force, and the stretch
from the last boundary to the assertion. -/
structure ClosedBehind (context : SplitContext) (start : Int) (before : List Phrase)
    (chunk : Chunk) : Prop where
  part_eq : chunk.part = lastLabel? context before
  start_eq : (chunk.extent.start : Int) = lastBoundary context start before
  stop_eq : chunk.extent.stop = chunk.closing.extent.start

/-! ## One step -/

/-- **What a step does to the splitter's knowledge.** A part declaration gives a new label, a
boundary of either kind a new start; nothing else changes them. -/
theorem Step.part_start {chunk : Option Chunk} (h : Step context state phrase chunk next) :
    next.part = ((phrase.label? context).map (·.1)).or state.part
      ∧ next.start = (phrase.boundary? context).elim state.start fun place => (place.stop : Int) := by
  cases h with
  | skip hempty =>
    have hread := Phrase.marker?_of_isEmpty hempty context.vocabulary context.contents
    simp [Phrase.boundary?, Phrase.closing?, Phrase.label?, hread]
  | close closing extent hsome hread hextent =>
    simp [Phrase.boundary?, Phrase.closing?, Phrase.label?, hread]
  | label name label extent hsome hread hcode =>
    simp [Phrase.boundary?, Phrase.closing?, Phrase.label?, hread]
  | gather found hsome hread hassertion hpart =>
    -- what gathers is a directive or no marker at all
    cases found with
    | none => simp [Phrase.boundary?, Phrase.closing?, Phrase.label?, hread]
    | some marker =>
      cases marker with
      | assertion closing => exact absurd rfl (hassertion closing)
      | directive name text extent =>
        simp [Phrase.boundary?, Phrase.closing?, Phrase.label?, hread]
      | part name label extent => exact absurd rfl (hpart name label extent)

/-- A step keeps the splitter's knowledge in line with the phrases. -/
theorem Step.follows {chunk : Option Chunk} (h : Step context state phrase chunk next)
    (hfollows : state.Follows context start seen) :
    next.Follows context start (seen ++ [phrase]) := by
  obtain ⟨hpart, hstart⟩ := h.part_start
  constructor
  · rw [hpart, lastLabel?_concat, hfollows.part_eq]
  · rw [hstart, lastBoundary_concat, hfollows.start_eq]

/-- A step that closes a chunk closes it with what the splitter knows. -/
theorem Step.closedBehind {chunk : Chunk} (h : Step context state phrase (some chunk) next)
    (hfollows : state.Follows context start seen) : ClosedBehind context start seen chunk := by
  cases h with
  | close closing extent hsome hread hextent =>
    obtain ⟨hfrom, hto⟩ := Extent.bounds_of_ofBounds hextent
    constructor
    · exact hfollows.part_eq
    · exact hfrom.trans hfollows.start_eq
    · exact Int.ofNat.inj hto

/-! ## A run -/

/-- **The chunks of a run.** The chunk with a given number is closed by the assertion that has so
many others in front of it, and with what the phrases up to there say. Induction on the phrases;
those that have been taken move along in `seen`. -/
theorem closedBehind_of_run {phrases : List Phrase} {result : Split}
    (h : run context state phrases = .ok result) (hfollows : state.Follows context start seen)
    {index : Nat} {chunk : Chunk} (hchunk : result.chunks[index]? = some chunk) :
    ∃ before phrase after, phrases = before ++ phrase :: after
      ∧ before.countP (·.closes context) = index
      ∧ phrase.closing? context = some chunk.closing
      ∧ ClosedBehind context start (seen ++ before) chunk := by
  induction phrases generalizing state result seen index with
  | nil =>
    rw [run_nil] at h
    rw [← Except.ok.inj h] at hchunk
    exact absurd hchunk nofun
  | cons phrase rest ih =>
    obtain ⟨closed, next, tail, hstep, htail, rfl⟩ := run_cons_eq_ok h
    have hnext := hstep.follows hfollows
    -- a chunk of the tail is closed behind one more phrase
    have hlater : ∀ {later : Nat}, tail.chunks[later]? = some chunk →
        ∃ before closer after, phrase :: rest = before ++ closer :: after
          ∧ before.countP (·.closes context) = later + (if phrase.closes context then 1 else 0)
          ∧ closer.closing? context = some chunk.closing
          ∧ ClosedBehind context start (seen ++ before) chunk := by
      intro later hin
      obtain ⟨before, closer, after, rfl, hcount, hcloser, hbehind⟩ := ih htail hnext hin
      refine ⟨phrase :: before, closer, after, rfl, ?_, hcloser, ?_⟩
      · rw [List.countP_cons, hcount]
      · rwa [List.append_assoc] at hbehind
    cases closed with
    | none =>
      obtain ⟨hclosing, -⟩ := hstep.of_none
      have hno : phrase.closes context = false := by simp [Phrase.closes, hclosing]
      obtain ⟨before, closer, after, hsplit, hcount, hrest⟩ := hlater hchunk
      refine ⟨before, closer, after, hsplit, ?_, hrest⟩
      simpa [hno] using hcount
    | some first =>
      obtain ⟨hclosing, -⟩ := hstep.of_some
      have hyes : phrase.closes context = true := by simp [Phrase.closes, hclosing]
      cases index with
      | zero =>
        -- this very step closes the chunk, so only what was taken before counts
        obtain rfl : first = chunk := Option.some.inj hchunk
        refine ⟨[], phrase, rest, rfl, rfl, hclosing, ?_⟩
        rw [List.append_nil]
        exact hstep.closedBehind hfollows
      | succ later =>
        obtain ⟨before, closer, after, hsplit, hcount, hrest⟩ := hlater hchunk
        refine ⟨before, closer, after, hsplit, ?_, hrest⟩
        simpa [hyes] using hcount

/-- **The code that a run leaves** has the label and the start that all phrases together say. -/
theorem trailing_of_run {phrases : List Phrase} {result : Split} {left : Trailing}
    (h : run context state phrases = .ok result) (hfollows : state.Follows context start seen)
    (hleft : result.trailing = some left) :
    left.part = lastLabel? context (seen ++ phrases)
      ∧ left.start = lastBoundary context start (seen ++ phrases) := by
  induction phrases generalizing state result seen with
  | nil =>
    rw [run_nil] at h
    rw [← Except.ok.inj h] at hleft
    obtain ⟨-, rfl⟩ := trailing_eq_some_iff.mp hleft
    rw [List.append_nil]
    exact ⟨hfollows.part_eq, hfollows.start_eq⟩
  | cons phrase rest ih =>
    obtain ⟨chunk, next, tail, hstep, htail, rfl⟩ := run_cons_eq_ok h
    have hrest := ih htail (hstep.follows hfollows) hleft
    rwa [List.append_assoc] at hrest

/-- Before the first phrase, the splitter knows what no phrases say. -/
theorem follows_nil (context : SplitContext) (start : Int) :
    Follows context start [] ⟨none, start, []⟩ := ⟨rfl, rfl⟩

end Splitter

/-! ## The whole file -/

/-- **Labels and boundaries of chunks.** The chunk with a given number is closed by the assertion
that has so many others in front of it. Its label is that of the last part declaration in front of
this assertion, however many chunks lie between; it stops where the assertion starts, and starts
where the last assertion or part declaration in front of it stops. The code that is left at the end
has its label and its start by the same law, from all phrases. -/
theorem split_boundaries {context : SplitContext} {start : Int} {phrases : List Phrase}
    {result : Split} (h : split context start phrases = .ok result) :
    (∀ index chunk, result.chunks[index]? = some chunk →
      ∃ before phrase after, phrases = before ++ phrase :: after
        ∧ before.countP (·.closes context) = index
        ∧ phrase.closing? context = some chunk.closing
        ∧ chunk.part = lastLabel? context before
        ∧ (chunk.extent.start : Int) = lastBoundary context start before
        ∧ chunk.extent.stop = chunk.closing.extent.start)
      ∧ ∀ left, result.trailing = some left →
        left.part = lastLabel? context phrases
          ∧ left.start = lastBoundary context start phrases := by
  have hfollows := Splitter.follows_nil context start
  constructor
  · intro index chunk hchunk
    obtain ⟨before, phrase, after, hsplit, hcount, hclosing, hbehind⟩ :=
      Splitter.closedBehind_of_run h hfollows hchunk
    exact ⟨before, phrase, after, hsplit, hcount, hclosing, hbehind.part_eq, hbehind.start_eq,
      hbehind.stop_eq⟩
  · intro left hleft
    exact Splitter.trailing_of_run h hfollows hleft

/-- In the sample, the second chunk still has the label of the first line, and starts where the
first assertion stops; the directive that is left has the label, too. -/
theorem split_boundaries_sample :
    split Sample.context 0 Sample.phrases = .ok Sample.divided
      ∧ (∃ before phrase after, Sample.phrases = before ++ phrase :: after
        ∧ before.countP (·.closes Sample.context) = 1
        ∧ lastLabel? Sample.context before = some "p"
        ∧ lastBoundary Sample.context 0 before = 27)
      ∧ lastLabel? Sample.context Sample.phrases = some "p"
      ∧ lastBoundary Sample.context 0 Sample.phrases = 36 := by
  obtain ⟨hchunks, hleft⟩ := split_boundaries Sample.split_eq_divided
  obtain ⟨before, phrase, after, hsplit, hcount, -, hpart, hstart, -⟩ := hchunks 1 _ rfl
  obtain ⟨hlast, hstop⟩ := hleft _ rfl
  exact ⟨Sample.split_eq_divided, ⟨before, phrase, after, hsplit, hcount, hpart.symm, hstart.symm⟩,
    hlast.symm, hstop.symm⟩

end ExpectFile
