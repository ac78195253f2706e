import ExpectFile.Proofs.Span.Tiling

/-!
# How a tiling fails

A tiling can fail in one way only: two neighbouring extents overlap, the end of the text counted as
the last extent. It then reports the first two that do.

* **`not_apart_iff`** — neighbours overlap somewhere iff some are the first to do so.
* **`coverFrom_eq_error_iff`** — covering stops at the first overlap, by induction on the spans.
* **`tileCounted_eq_error_iff`** — what has been covered can be joined, so this is all there is.
-/

namespace ExpectFile

open Outcome

namespace Extent

/-! ## Neighbours -/

/-- No extent of the list stops behind the start of the next one. -/
def Apart (extents : List Extent) : Prop :=
  extents.IsChain fun previous next => previous.stop ≤ next.start

/-- `FirstOverlap extents previous next`: these two are the first neighbours in the list of which
the one stops behind the start of the other. -/
inductive FirstOverlap : List Extent → Extent → Extent → Prop where
  | here {previous next : Extent} {rest : List Extent} (h : next.start < previous.stop) :
      FirstOverlap (previous :: next :: rest) previous next
  | later {first second previous next : Extent} {rest : List Extent}
      (h : first.stop ≤ second.start) (hrest : FirstOverlap (second :: rest) previous next) :
      FirstOverlap (first :: second :: rest) previous next

/-- A list that is apart has no first overlap, and a list that is not has one. Induction on the
list, two members at a time. -/
theorem not_apart_iff {extents : List Extent} :
    ¬Apart extents ↔ ∃ previous next, FirstOverlap extents previous next := by
  induction extents with
  | nil =>
    have hapart : Apart [] := .nil
    refine ⟨fun h => absurd hapart h, ?_⟩
    rintro ⟨previous, next, h⟩
    cases h
  | cons first rest ih =>
    cases rest with
    | nil =>
      have hapart : Apart [first] := .singleton first
      refine ⟨fun h => absurd hapart h, ?_⟩
      rintro ⟨previous, next, h⟩
      cases h
    | cons second others =>
      have hstep : Apart (first :: second :: others)
          ↔ first.stop ≤ second.start ∧ Apart (second :: others) := List.isChain_cons_cons
      rw [hstep]
      -- two members overlap at once, or the first overlap is farther on
      by_cases hle : first.stop ≤ second.start
      · rw [and_iff_right hle, ih]
        constructor
        · rintro ⟨previous, next, h⟩
          exact ⟨previous, next, .later hle h⟩
        · rintro ⟨previous, next, h⟩
          cases h with
          | here hlt => omega
          | later _ hrest => exact ⟨previous, next, hrest⟩
      · constructor
        · intro _
          exact ⟨first, second, .here (by omega)⟩
        · intro _ hboth
          exact hle hboth.1

/-- In front of a list, the start of the text makes no difference: nothing begins before it. -/
theorem firstOverlap_empty_zero_cons {extents : List Extent} {previous next : Extent} :
    FirstOverlap (Extent.empty 0 :: extents) previous next
      ↔ FirstOverlap extents previous next := by
  constructor
  · intro h
    cases h with
    | here hlt => exact absurd hlt (Nat.not_lt_zero _)
    | later _ hrest => exact hrest
  · intro h
    cases h with
    | here hlt => exact .later (Nat.zero_le _) (.here hlt)
    | later hle hrest => exact .later (Nat.zero_le _) (.later hle hrest)

end Extent

namespace Span

open Extent

/-! ## Both passes -/

theorem gap_eq_error_iff {previous next : Extent} {fault : Fault} :
    gap previous next = .error fault
      ↔ next.start < previous.stop ∧ fault = .overlap previous next := by
  by_cases hlt : next.start < previous.stop
  · rw [gap_of_lt hlt, and_iff_right hlt, Except.error.injEq, eq_comm]
  · have hle : previous.stop ≤ next.start := by omega
    obtain ⟨filler, hgap, -⟩ := gap_of_le hle
    simp [hgap, hlt]

/-- **Covering reports the first overlap.** Induction on the spans, the boundary moving along. -/
theorem coverFrom_eq_error_iff {final previous : Extent} {spans : List Span} {fault : Fault} :
    coverFrom final previous spans = .error fault
      ↔ ∃ first second, FirstOverlap (previous :: (spans.map extent ++ [final])) first second
          ∧ fault = .overlap first second := by
  induction spans generalizing previous with
  | nil =>
    rw [coverFrom, gap_eq_error_iff]
    constructor
    · rintro ⟨hlt, rfl⟩
      exact ⟨previous, final, .here hlt, rfl⟩
    · rintro ⟨first, second, h, rfl⟩
      cases h with
      | here hlt => exact ⟨hlt, rfl⟩
      | later _ hrest => cases hrest
  | cons span rest ih =>
    rw [coverFrom, bind_eq_error, gap_eq_error_iff]
    constructor
    · rintro (⟨hlt, rfl⟩ | ⟨filler, hgap, hothers⟩)
      · exact ⟨previous, span.extent, .here hlt, rfl⟩
      · have hrest : coverFrom final span.extent rest = .error fault :=
          bind_pure_eq_error.mp hothers
        obtain ⟨first, second, h, rfl⟩ := ih.mp hrest
        exact ⟨first, second, .later (le_of_gap hgap) h, rfl⟩
    · rintro ⟨first, second, h, rfl⟩
      cases h with
      | here hlt => exact Or.inl ⟨hlt, rfl⟩
      | later hle hrest =>
        -- there is a filler here, so the fault comes from the spans behind
        obtain ⟨filler, hgap, -⟩ := gap_of_le hle
        have hothers : coverFrom final span.extent rest = .error (.overlap first second) :=
          ih.mpr ⟨first, second, hrest, rfl⟩
        exact Or.inr ⟨filler, hgap, bind_pure_eq_error.mpr hothers⟩

/-- **A tiling fails with the first overlap and in no other way.** -/
theorem tileCounted_eq_error_iff {length : Nat} {spans : List Span} {fault : Fault} :
    tileCounted length spans = .error fault
      ↔ ∃ first second, FirstOverlap (spans.map extent ++ [Extent.empty length]) first second
          ∧ fault = .overlap first second := by
  have hcover : cover length spans = .error fault
      ↔ ∃ first second, FirstOverlap (spans.map extent ++ [Extent.empty length]) first second
          ∧ fault = .overlap first second := by
    unfold cover
    simp only [coverFrom_eq_error_iff, firstOverlap_empty_zero_cons]
  rw [← hcover]
  constructor
  · intro h
    rcases bind_eq_error.mp h with hfail | ⟨covered, hcovered, -⟩
    · exact hfail
    · -- what can be covered is ordered, and what is ordered can be tiled
      obtain ⟨tiles, counts, htile, -⟩ := tileCounted_of_ordered (ordered_of_coverFrom hcovered)
      have hok : tileCounted length spans = .ok (tiles, counts) := htile
      rw [h] at hok
      exact absurd hok nofun
  · intro h
    exact bind_eq_error.mpr (Or.inl h)

end Span

end ExpectFile
