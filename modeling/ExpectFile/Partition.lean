import ExpectFile.Expectation
import ExpectFile.Span

/-!
# Partition

The whole of a file as blocks, in order, no character lost and none twice. Every statement becomes
a span: ordinary code is copied, a directive becomes a block with its text, an assertion a block
with its rendering, or nothing if it renders to nothing, and a part declaration vanishes. Tiling
the file with these spans finds the comments, blank lines and separators between them.
-/

namespace ExpectFile

/-- The span of a statement, given the marker that it is. -/
def Span.ofMarker (render : Rendering) (extent : Extent) : Option Marker → Span
  | some (.assertion assertion) =>
    match render assertion with
    | some text => .rendered extent ⟨.assertion, text, extent⟩
    | none => .dropped extent
  | some (.directive _ text _) => .rendered extent ⟨.directive, text, extent⟩
  | some (.part _ _ _) => .dropped extent
  | none => .verbatim extent

/-- The spans of the statements. -/
def scan (v : Vocabulary) (render : Rendering) (contents : String) (statements : List Statement) :
    Except Fault (List Span) :=
  statements.mapM fun statement => do
    let marker ← statement.marker? v (some contents)
    return Span.ofMarker render statement.extent marker

/-- The block that a span becomes, if it becomes one. -/
def Span.block? (contents : String) : Span → Except Fault (Option Block)
  | .rendered _ block => .ok (some block)
  | .dropped _ => .ok none
  | .verbatim e =>
    if e.isEmpty then .ok none
    else do
      let text ← e.slice contents
      return some ⟨.code, text, e⟩

/-- The blocks of the spans of a tiling. -/
def materialize (contents : String) (spans : List Span) : Except Fault (List Block) := do
  let blocks ← spans.mapM (Span.block? contents)
  return blocks.filterMap id

/-- The blocks of a file, and how many spans there were on the way. -/
def partitionCounted (v : Vocabulary) (render : Rendering) (contents : String)
    (phrases : List Phrase) : Except Fault (List Block × Span.TilingCounts) := do
  let spans ← scan v render contents (phrases.flatMap (·.statements))
  let (tiles, counts) ← Span.tileCounted contents.length spans
  let blocks ← materialize contents tiles
  return (blocks, counts)

/-- The blocks of a file. -/
def partition (v : Vocabulary) (render : Rendering) (contents : String) (phrases : List Phrase) :
    Except Fault (List Block) :=
  (partitionCounted v render contents phrases).map (·.1)

end ExpectFile
