import ExpectFile.Proofs.Extent.Tiling
import ExpectFile.Proofs.Outcome
import ExpectFile.Span
import Mathlib.Data.List.Chain

/-!
# Tilings by spans

Spans that are recorded in order can be completed to a tiling of the text, and only such spans can.
The two passes of `Span.tile` meet at `Extent.Tiles`: covering makes a tiling of an ordered list,
and joining verbatim neighbours keeps a tiling a tiling.

* **`coverFrom_of_ordered`**, **`ordered_of_coverFrom`** — gaps can be filled iff nothing overlaps.
* **`coalesce_of_tiles`** — on a tiling, joining never meets an extent that is not one.
* **`tileCounted_of_ordered`**, **`ordered_of_tileCounted`** — both passes together.

Neither pass touches a span that is not verbatim: `marks` stays what it was.
-/

namespace ExpectFile.Span

open Extent Outcome

/-- Whether the text of a span is copied. -/
def isVerbatim : Span → Bool
  | verbatim _ => true
  | rendered _ _ => false
  | dropped _ => false

/-- The spans that are not copies of the text, in their order. -/
def marks (spans : List Span) : List Span := spans.filter fun span => !span.isVerbatim

/-- No two neighbours are both verbatim. -/
def Coalesced (spans : List Span) : Prop :=
  spans.IsChain fun first second => ¬(first.isVerbatim ∧ second.isVerbatim)

@[simp] theorem marks_verbatim (e : Extent) (spans : List Span) :
    marks (verbatim e :: spans) = marks spans := rfl

theorem marks_cons_mark {span : Span} (hspan : span.isVerbatim = false) (spans : List Span) :
    marks (span :: spans) = span :: marks spans := by
  unfold marks
  rw [List.filter_cons_of_pos (by rw [hspan]; rfl)]

theorem marks_append (first second : List Span) :
    marks (first ++ second) = marks first ++ marks second := List.filter_append ..

/-- The only distinction the passes make. -/
theorem verbatim_or_mark (span : Span) : (∃ e, span = verbatim e) ∨ span.isVerbatim = false := by
  cases span with
  | verbatim e => exact Or.inl ⟨e, rfl⟩
  | rendered e block => exact Or.inr rfl
  | dropped e => exact Or.inr rfl

/-- A span that is not verbatim can stand in front of anything. -/
theorem Coalesced.cons_mark {span : Span} {spans : List Span} (h : Coalesced spans)
    (hspan : span.isVerbatim = false) : Coalesced (span :: spans) := by
  refine List.IsChain.cons h fun next _ hboth => ?_
  rw [hspan] at hboth
  exact absurd hboth.1 Bool.false_ne_true

/-- A verbatim span can stand in front of a span that is not. -/
theorem Coalesced.cons_verbatim {span : Span} {spans : List Span} (e : Extent)
    (h : Coalesced (span :: spans)) (hspan : span.isVerbatim = false) :
    Coalesced (verbatim e :: span :: spans) := by
  refine List.isChain_cons_cons.mpr ⟨fun hboth => ?_, h⟩
  rw [hspan] at hboth
  exact absurd hboth.2 Bool.false_ne_true

/-! ## Filling gaps -/

/-- Between extents in order, the filler tiles the gap, and there is nothing else in it. -/
theorem gap_of_le {previous next : Extent} (h : previous.stop ≤ next.start) :
    ∃ filler, gap previous next = .ok filler
      ∧ Tiles previous.stop (filler.map extent) next.start ∧ marks filler = [] := by
  unfold gap
  by_cases hlt : previous.stop < next.start
  · rw [dif_pos hlt]
    exact ⟨_, rfl, ⟨rfl, rfl⟩, rfl⟩
  · rw [dif_neg hlt, if_neg (by omega)]
    exact ⟨[], rfl, Nat.le_antisymm h (by omega), rfl⟩

/-- Extents that overlap are reported. -/
theorem gap_of_lt {previous next : Extent} (h : next.start < previous.stop) :
    gap previous next = .error (.overlap previous next) := by
  unfold gap
  rw [dif_neg (by omega), if_pos h]

/-- Where there is a filler, the extents are in order. -/
theorem le_of_gap {previous next : Extent} {filler : List Span}
    (h : gap previous next = .ok filler) : previous.stop ≤ next.start := by
  by_contra hlt
  rw [gap_of_lt (by omega)] at h
  exact absurd h nofun

/-- **Ordered spans can be completed.** The result tiles the stretch between the two boundaries,
and all that is new in it is verbatim. Induction on the spans, the boundary moving along. -/
theorem coverFrom_of_ordered {final previous : Extent} {spans : List Span}
    (h : Ordered previous.stop (spans.map extent) final.start) :
    ∃ covered, coverFrom final previous spans = .ok covered
      ∧ Tiles previous.stop (covered.map extent) final.start ∧ marks covered = marks spans := by
  induction spans generalizing previous with
  | nil =>
    obtain ⟨filler, hgap, htiles, hmarks⟩ := gap_of_le h
    exact ⟨filler, hgap, htiles, hmarks⟩
  | cons span rest ih =>
    obtain ⟨filler, hgap, hfiller, hnone⟩ := gap_of_le h.1
    obtain ⟨others, hothers, htiles, hmarks⟩ := ih h.2
    refine ⟨filler ++ span :: others, ?_, ?_, ?_⟩
    · rw [coverFrom, hgap, hothers]
      rfl
    · rw [List.map_append, List.map_cons]
      exact hfiller.append ⟨rfl, htiles⟩
    · rw [marks_append, hnone, List.nil_append]
      rcases span.verbatim_or_mark with ⟨e, rfl⟩ | hspan
      · exact hmarks
      · rw [marks_cons_mark hspan, marks_cons_mark hspan, hmarks]

/-- Only ordered spans can be completed. -/
theorem ordered_of_coverFrom {final previous : Extent} {spans covered : List Span}
    (h : coverFrom final previous spans = .ok covered) :
    Ordered previous.stop (spans.map extent) final.start := by
  induction spans generalizing previous covered with
  | nil => exact le_of_gap h
  | cons span rest ih =>
    rw [coverFrom, bind_eq_ok] at h
    obtain ⟨filler, hgap, h⟩ := h
    obtain ⟨others, hothers, -⟩ := bind_eq_ok.mp h
    exact ⟨le_of_gap hgap, ih hothers⟩

/-! ## Joining neighbours -/

/-- In a tiling, the extent of a verbatim neighbour continues the current one. -/
theorem ofBounds_of_touching {current next : Extent} (h : next.start = current.stop) :
    Extent.ofBounds current.start next.stop
      = .ok ⟨current.start, next.stop, by
          have := current.start_le_stop
          have := next.start_le_stop
          omega⟩ :=
  ofBounds_natCast _

/-- A span that is not verbatim ends the run in front of it and starts none. -/
theorem coalesceFrom_cons_mark {span : Span} (hspan : span.isVerbatim = false) (current : Extent)
    (rest : List Span) :
    coalesceFrom current (span :: rest)
      = (coalesce rest).map fun others => verbatim current :: span :: others := by
  cases span with
  | verbatim e => exact absurd hspan.symm Bool.false_ne_true
  | rendered e block => rfl
  | dropped e => rfl

theorem coalesce_cons_mark {span : Span} (hspan : span.isVerbatim = false) (rest : List Span) :
    coalesce (span :: rest) = (coalesce rest).map (span :: ·) := by
  cases span with
  | verbatim e => exact absurd hspan.symm Bool.false_ne_true
  | rendered e block => rfl
  | dropped e => rfl

theorem coalesce_cons_verbatim (e : Extent) (rest : List Span) :
    coalesce (verbatim e :: rest) = coalesceFrom e rest := rfl

/-- **Joining keeps a tiling.** No two verbatim spans are left next to each other, and the other
spans stay as they are. The two functions call each other, so their laws are shown together; the
run that is being joined is at `current`. -/
theorem coalesce_of_tiles (spans : List Span) :
    (∀ {current : Extent} {stop : Nat}, Tiles current.stop (spans.map extent) stop →
      ∃ joined, coalesceFrom current spans = .ok joined
        ∧ Tiles current.start (joined.map extent) stop ∧ marks joined = marks spans
        ∧ Coalesced joined)
    ∧ ∀ {start stop : Nat}, Tiles start (spans.map extent) stop →
      ∃ joined, coalesce spans = .ok joined
        ∧ Tiles start (joined.map extent) stop ∧ marks joined = marks spans
        ∧ Coalesced joined := by
  induction spans with
  | nil =>
    refine ⟨fun {current stop} h => ?_, fun h => ⟨[], rfl, h, rfl, .nil⟩⟩
    exact ⟨[verbatim current], rfl, ⟨rfl, h⟩, rfl, .singleton _⟩
  | cons span rest ih =>
    obtain ⟨ihfrom, ihall⟩ := ih
    rcases span.verbatim_or_mark with ⟨e, rfl⟩ | hspan
    · refine ⟨fun {current stop} h => ?_, fun {start stop} h => ?_⟩
      · -- the run grows by `e`, which starts where it stops
        have htouch : e.start = current.stop := h.1
        rw [coalesceFrom, ofBounds_of_touching htouch]
        exact ihfrom h.2
      · obtain ⟨rfl, hrest⟩ := h
        rw [coalesce_cons_verbatim]
        exact ihfrom hrest
    · refine ⟨fun {current stop} h => ?_, fun {start stop} h => ?_⟩
      · obtain ⟨joined, hjoined, htiles, hmarks, hapart⟩ := ihall h.2
        refine ⟨verbatim current :: span :: joined, ?_, ⟨rfl, h.1, htiles⟩, ?_,
          (hapart.cons_mark hspan).cons_verbatim current hspan⟩
        · rw [coalesceFrom_cons_mark hspan, hjoined]
          rfl
        · rw [marks_verbatim, marks_cons_mark hspan, marks_cons_mark hspan, hmarks]
      · obtain ⟨joined, hjoined, htiles, hmarks, hapart⟩ := ihall h.2
        refine ⟨span :: joined, ?_, ⟨h.1, htiles⟩, ?_, hapart.cons_mark hspan⟩
        · rw [coalesce_cons_mark hspan, hjoined]
          rfl
        · rw [marks_cons_mark hspan, marks_cons_mark hspan, hmarks]

/-! ## Both passes -/

/-- **Ordered spans within the text can be tiled.** -/
theorem tileCounted_of_ordered {length : Nat} {spans : List Span}
    (h : Ordered 0 (spans.map extent) length) :
    ∃ tiles counts, tileCounted length spans = .ok (tiles, counts)
      ∧ Tiles 0 (tiles.map extent) length ∧ marks tiles = marks spans ∧ Coalesced tiles := by
  have hbounds : Ordered (Extent.empty 0).stop (spans.map extent) (Extent.empty length).start := h
  obtain ⟨covered, hcover, hcovered, hmarks⟩ := coverFrom_of_ordered hbounds
  obtain ⟨tiles, hjoin, htiles, hsame, hapart⟩ := (coalesce_of_tiles covered).2 hcovered
  refine ⟨tiles, ⟨spans.length, covered.length, tiles.length⟩, ?_, htiles, hsame.trans hmarks,
    hapart⟩
  rw [tileCounted, cover, hcover]
  show coalesce covered >>= _ = _
  rw [hjoin]
  rfl

/-- Spans that can be tiled are ordered and end with the text. -/
theorem ordered_of_tileCounted {length : Nat} {spans : List Span}
    {result : List Span × TilingCounts} (h : tileCounted length spans = .ok result) :
    Ordered 0 (spans.map extent) length := by
  obtain ⟨covered, hcover, -⟩ := bind_eq_ok.mp h
  exact ordered_of_coverFrom hcover

end ExpectFile.Span
