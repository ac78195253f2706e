import ExpectFile.Expectation

/-!
# Chunks

A test driver runs a file one chunk at a time: the code since the last boundary, and then the
assertion that closes the chunk. Boundaries are assertions and part declarations. A part
declaration gives the chunks that follow it their label; it may not stand behind code that no
assertion has closed. Only a phrase of one statement can be a marker.

`split` goes through the phrases once. Between two phrases it knows the label, where the next chunk
starts, and the code that has gathered (`Splitter`).
-/

namespace ExpectFile

/-- Code and the assertion that closes it. -/
structure Chunk where
  part : Option String
  code : List Phrase
  closing : Assertion
  /-- From the last boundary to the assertion. -/
  extent : Extent
  sourceName : String
  expectation : Option String

/-- Code at the end that no assertion closes. -/
structure Trailing where
  part : Option String
  code : List Phrase
  start : Int
  sourceName : String

/-- A file in chunks. -/
structure Split where
  chunks : List Chunk
  trailing : Option Trailing

/-- The marker that a phrase is; none if it is code, which it is if it has several statements. -/
def Phrase.marker? (phrase : Phrase) (v : Vocabulary) (contents : Option String) :
    Except Fault (Option Marker) :=
  match phrase.only? with
  | some statement => statement.marker? v contents
  | none => .ok none

/-- What the splitter needs to know besides the phrases. -/
structure SplitContext where
  sourceName : String
  vocabulary : Vocabulary
  render : Rendering
  contents : Option String

/-- What the splitter knows between two phrases. -/
structure Splitter where
  part : Option String
  start : Int
  code : List Phrase

namespace Splitter

/-- The code that is left at the end. -/
def trailing (state : Splitter) (sourceName : String) : Option Trailing :=
  if state.code.isEmpty then none
  else some ⟨state.part, state.code, state.start, sourceName⟩

/-- The chunk that an assertion closes. -/
def close (state : Splitter) (context : SplitContext) (closing : Assertion) :
    Except Fault Chunk := do
  let extent ← Extent.ofBounds state.start closing.extent.start
  return ⟨state.part, state.code, closing, extent, context.sourceName, context.render closing⟩

/-- The line of the first statement of a phrase. -/
def lineOf (phrase : Phrase) : Nat := (phrase.statements.head?.map (·.line)).getD 0

/-- Takes one phrase: the chunk that it closes, if it does, and what is known after it. -/
def step (context : SplitContext) (state : Splitter) (phrase : Phrase) :
    Except Fault (Option Chunk × Splitter) :=
  if phrase.isEmpty then .ok (none, state)
  else do
    match ← phrase.marker? context.vocabulary context.contents with
    | some (.assertion closing) =>
      let chunk ← state.close context closing
      return (some chunk, { state with start := closing.extent.stop, code := [] })
    | some (.part _ label extent) =>
      if state.code.isEmpty then
        return (none, { state with part := some label, start := extent.stop })
      else throw (.misplacedPart extent context.sourceName (lineOf phrase))
    | _ => return (none, { state with code := state.code ++ [phrase] })

/-- Splits the phrases from a state on. -/
def run (context : SplitContext) (state : Splitter) : List Phrase → Except Fault Split
  | [] => .ok ⟨[], state.trailing context.sourceName⟩
  | phrase :: rest => do
    let (chunk, next) ← state.step context phrase
    let split ← run context next rest
    return ⟨chunk.toList ++ split.chunks, split.trailing⟩

end Splitter

/-- The chunks of a file. `start` is where the first one starts. -/
def split (context : SplitContext) (start : Int) (phrases : List Phrase) : Except Fault Split :=
  Splitter.run context ⟨none, start, []⟩ phrases

end ExpectFile
