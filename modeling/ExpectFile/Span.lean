import ExpectFile.Block

/-!
# Spans

A span is an extent with a decision about its text: it is copied (`verbatim`), it is replaced by a
block (`rendered`), or it vanishes (`dropped`). A parser gives extents to statements and to nothing
else, so between spans there are gaps. `cover` fills them with verbatim spans, `coalesce` joins
neighbours that are both verbatim, and `tile` does one after the other: what results covers the
text from its start to its end, each span starting where the one before it stops.
-/

namespace ExpectFile

/-- An extent, and what becomes of its text. -/
inductive Span where
  | verbatim (extent : Extent)
  | rendered (extent : Extent) (block : Block)
  | dropped (extent : Extent)
deriving DecidableEq

namespace Span

/-- The extent of a span. -/
def extent : Span → Extent
  | verbatim e => e
  | rendered e _ => e
  | dropped e => e

/-- The verbatim span between two neighbours, if there is a gap; a fault if they overlap. -/
def gap (previous next : Extent) : Except Fault (List Span) :=
  if h : previous.stop < next.start then
    .ok [verbatim ⟨previous.stop, next.start, Nat.le_of_lt h⟩]
  else if next.start < previous.stop then .error (.overlap previous next)
  else .ok []

/-- Fills the gaps behind `previous` and up to `final`. -/
def coverFrom (final : Extent) (previous : Extent) : List Span → Except Fault (List Span)
  | [] => gap previous final
  | span :: rest => do
    let filler ← gap previous span.extent
    let others ← coverFrom final span.extent rest
    return filler ++ span :: others

/-- Fills the gaps between spans, in front of them, and behind them up to the offset `length`. -/
def cover (length : Nat) (spans : List Span) : Except Fault (List Span) :=
  coverFrom (Extent.empty length) (Extent.empty 0) spans

/-- Joins the verbatim spans that follow a verbatim span at `current`. -/
def coalesceFrom (current : Extent) : List Span → Except Fault (List Span)
  | [] => .ok [verbatim current]
  | verbatim e :: rest => do
    let joined ← Extent.ofBounds current.start e.stop
    coalesceFrom joined rest
  | rendered e block :: rest => do
    let others ← coalesce rest
    return verbatim current :: rendered e block :: others
  | dropped e :: rest => do
    let others ← coalesce rest
    return verbatim current :: dropped e :: others
where
  /-- Joins runs of verbatim spans. -/
  coalesce : List Span → Except Fault (List Span)
    | [] => .ok []
    | verbatim e :: rest => coalesceFrom e rest
    | rendered e block :: rest => do
      let others ← coalesce rest
      return rendered e block :: others
    | dropped e :: rest => do
      let others ← coalesce rest
      return dropped e :: others

/-- Joins runs of verbatim spans. The runs are taken as they come: that they leave no gap inside
is for whoever built them to see to. -/
def coalesce (spans : List Span) : Except Fault (List Span) := coalesceFrom.coalesce spans

/-- How many spans there were at each stage of a tiling. -/
structure TilingCounts where
  recorded : Nat
  covered : Nat
  joined : Nat
deriving DecidableEq

/-- The spans of a tiling with their counts. -/
def tileCounted (length : Nat) (spans : List Span) :
    Except Fault (List Span × TilingCounts) := do
  let covered ← cover length spans
  let joined ← coalesce covered
  return (joined, ⟨spans.length, covered.length, joined.length⟩)

/-- Covers a text of a length with spans, no two verbatim ones next to each other. -/
def tile (length : Nat) (spans : List Span) : Except Fault (List Span) :=
  (tileCounted length spans).map (·.1)

end Span

end ExpectFile
