import ExpectFile.Proofs.Chunk.Boundaries

/-!
# Where a run ends

A run gives away its chunks and the code that is left; what else the splitter knows at its end is
lost. `Splitter.walk` takes the same steps and keeps it, so a run over two stretches of phrases
comes apart: a walk over the first, and from where that ends a walk over the second.

* **`run_eq_map_walk`** — a run is a walk whose end is turned into the code that is left.
* **`walk_append`**, **`walk_concat`** — walks one behind the other.
* **`knows_of_walk`** — what the splitter knows at the end of a walk, including whether code waits
  for an assertion, can be read off the phrases.
-/

namespace ExpectFile

open Outcome

/-! ## The code in front of a phrase -/

/-- The last phrase that is not empty. -/
def lastFilled? (phrases : List Phrase) : Option Phrase :=
  (phrases.filter fun phrase => !phrase.isEmpty).getLast?

/-- Whether the phrases, empty ones apart, end in code. -/
def endsInCode (context : SplitContext) (phrases : List Phrase) : Bool :=
  (lastFilled? phrases).any (·.isCode context)

theorem endsInCode_concat (context : SplitContext) (phrases : List Phrase) (phrase : Phrase) :
    endsInCode context (phrases ++ [phrase])
      = if phrase.isEmpty then endsInCode context phrases else phrase.isCode context := by
  unfold endsInCode lastFilled?
  rw [List.filter_append]
  cases hempty : phrase.isEmpty with
  | true => simp [hempty]
  | false => simp [hempty]

namespace Splitter

variable {context : SplitContext} {start : Int} {seen phrases : List Phrase}
  {state next : Splitter} {phrase : Phrase}

/-! ## What the splitter knows -/

/-- What the splitter knows is what the phrases that it has taken say, and code has gathered iff
they end in code. -/
structure Knows (context : SplitContext) (start : Int) (seen : List Phrase) (state : Splitter) :
    Prop extends Follows context start seen state where
  gathered : state.code.isEmpty = !endsInCode context seen

/-- An empty phrase leaves the code as it is. After any other, code waits iff the phrase is code:
an assertion takes what has gathered, and a part declaration has found nothing. -/
theorem Step.isEmpty_code {chunk : Option Chunk} (h : Step context state phrase chunk next) :
    next.code.isEmpty = if phrase.isEmpty then state.code.isEmpty else !phrase.isCode context := by
  cases h with
  | skip hempty => rw [if_pos hempty]
  | close closing extent hsome hread hextent =>
    simp [hsome, Phrase.isCode, Phrase.closing?, hread]
  | label name label extent hsome hread hcode =>
    simp [hsome, Phrase.isCode, Phrase.closing?, Phrase.label?, hread]
  | gather found hsome hread hassertion hpart =>
    have hclosing : phrase.closing? context = none := by
      unfold Phrase.closing?
      rw [hread]
      split
      · rename_i closing heq
        exact absurd (Except.ok.inj heq) (hassertion closing)
      · rfl
    have hlabel : phrase.label? context = none := by
      unfold Phrase.label?
      rw [hread]
      split
      · rename_i name label extent heq
        exact absurd (Except.ok.inj heq) (hpart name label extent)
      · rfl
    simp [hsome, Phrase.isCode, hclosing, hlabel]

/-- A step keeps the splitter's knowledge in line with the phrases, the code included. -/
theorem Step.knows {chunk : Option Chunk} (h : Step context state phrase chunk next)
    (hknows : state.Knows context start seen) : next.Knows context start (seen ++ [phrase]) where
  toFollows := h.follows hknows.toFollows
  gathered := by
    rw [h.isEmpty_code, endsInCode_concat, hknows.gathered]
    cases phrase.isEmpty <;> rfl

/-- Before the first phrase, the splitter knows what no phrases say. -/
theorem knows_nil (context : SplitContext) (start : Int) :
    Knows context start [] ⟨none, start, []⟩ :=
  ⟨follows_nil context start, rfl⟩

/-! ## Walks -/

/-- Takes the phrases one by one: the chunks that they close, and what is known at the end. -/
def walk (context : SplitContext) (state : Splitter) :
    List Phrase → Except Fault (List Chunk × Splitter)
  | [] => .ok ([], state)
  | phrase :: rest => do
    let (chunk, next) ← state.step context phrase
    let (chunks, last) ← walk context next rest
    return (chunk.toList ++ chunks, last)

theorem walk_cons (context : SplitContext) (state : Splitter) (phrase : Phrase)
    (rest : List Phrase) :
    walk context state (phrase :: rest) = (do
      let (chunk, next) ← state.step context phrase
      let (chunks, last) ← walk context next rest
      return (chunk.toList ++ chunks, last)) := rfl

/-- **A run is a walk** of whose end only the code is kept. -/
theorem run_eq_map_walk (context : SplitContext) (state : Splitter) (phrases : List Phrase) :
    run context state phrases
      = (walk context state phrases).map fun walked =>
          ⟨walked.1, walked.2.trailing context.sourceName⟩ := by
  induction phrases generalizing state with
  | nil => rfl
  | cons phrase rest ih =>
    rw [walk_cons]
    unfold run
    cases state.step context phrase with
    | error fault => rfl
    | ok taken =>
      show (run context taken.2 rest >>= _) = Except.map _ (walk context taken.2 rest >>= _)
      rw [ih]
      cases walk context taken.2 rest <;> rfl

/-- **Walks one behind the other.** -/
theorem walk_append (context : SplitContext) (state : Splitter) (front back : List Phrase) :
    walk context state (front ++ back) = (do
      let (chunks, middle) ← walk context state front
      let (others, last) ← walk context middle back
      return (chunks ++ others, last)) := by
  induction front generalizing state with
  | nil =>
    show walk context state back = walk context state back >>= _
    cases walk context state back <;> rfl
  | cons phrase rest ih =>
    rw [List.cons_append, walk_cons, walk_cons]
    cases state.step context phrase with
    | error fault => rfl
    | ok taken =>
      obtain ⟨chunk, next⟩ := taken
      show (walk context next (rest ++ back) >>= _) = ((walk context next rest >>= _) >>= _)
      rw [ih]
      cases walk context next rest with
      | error fault => rfl
      | ok walked =>
        obtain ⟨chunks, middle⟩ := walked
        show ((walk context middle back >>= _) >>= _) = (walk context middle back >>= _)
        cases walk context middle back with
        | error fault => rfl
        | ok further =>
          show Except.ok (chunk.toList ++ (chunks ++ further.1), further.2)
            = .ok ((chunk.toList ++ chunks) ++ further.1, further.2)
          rw [List.append_assoc]

/-- A walk over one more phrase is a walk and a step. -/
theorem walk_concat (context : SplitContext) (state : Splitter) (phrases : List Phrase)
    (phrase : Phrase) :
    walk context state (phrases ++ [phrase]) = (do
      let (chunks, middle) ← walk context state phrases
      let (chunk, last) ← middle.step context phrase
      return (chunks ++ chunk.toList, last)) := by
  rw [walk_append]
  refine congrArg _ (funext fun walked => ?_)
  show (walk context walked.2 [phrase] >>= _) = (walked.2.step context phrase >>= _)
  rw [walk_cons]
  cases walked.2.step context phrase with
  | error fault => rfl
  | ok taken =>
    show Except.ok (walked.1 ++ (taken.1.toList ++ []), taken.2) = _
    rw [List.append_nil]
    rfl

/-- **At the end of a walk the splitter knows what the phrases say.** Induction on the phrases;
those that have been taken move along in `seen`. -/
theorem Knows.of_walk {chunks : List Chunk} {last : Splitter}
    (hknows : state.Knows context start seen)
    (h : walk context state phrases = .ok (chunks, last)) :
    last.Knows context start (seen ++ phrases) := by
  induction phrases generalizing state chunks seen with
  | nil =>
    obtain ⟨-, rfl⟩ := Prod.mk.inj (Except.ok.inj h)
    rwa [List.append_nil]
  | cons phrase rest ih =>
    obtain ⟨⟨chunk, next⟩, hstep, h⟩ := bind_eq_ok.mp h
    obtain ⟨⟨others, final⟩, hrest, hpure⟩ := bind_eq_ok.mp h
    obtain ⟨-, rfl⟩ := Prod.mk.inj (Except.ok.inj hpure)
    have hnext : next.Knows context start (seen ++ [phrase]) := (step_eq_ok hstep).knows hknows
    have hlast := ih hnext hrest
    rwa [List.append_assoc] at hlast

/-- The same from the beginning of a file. -/
theorem knows_of_walk {chunks : List Chunk} {last : Splitter}
    (h : walk context ⟨none, start, []⟩ phrases = .ok (chunks, last)) :
    last.Knows context start phrases :=
  (knows_nil context start).of_walk h

/-- A file that can be split has been walked through. -/
theorem exists_walk_of_split {result : Split} (h : split context start phrases = .ok result) :
    ∃ last, walk context ⟨none, start, []⟩ phrases = .ok (result.chunks, last)
      ∧ result.trailing = last.trailing context.sourceName := by
  unfold split at h
  rw [run_eq_map_walk] at h
  obtain ⟨⟨chunks, last⟩, hwalk, rfl⟩ := map_eq_ok.mp h
  exact ⟨last, hwalk, rfl⟩

end Splitter

end ExpectFile
