import ExpectFile.Proofs.Span.Faults

/-!
# Canonical covers

What a tiling results in is a cover of the text in a form of its own: no gap is left in it, and no
two verbatim spans touch. A list in this form is its own tiling, since there is nothing to fill and
nothing to join.

* **`coverFrom_of_tiles`** — where there is no gap, covering adds nothing.
* **`coalesce_of_coalesced`** — where no verbatim spans touch, joining leaves the list alone.
* **`eq_nil_of_tileCounted`** — no span is lost: an empty cover is one of nothing.
* **`tile_canonical`** — a queue of spans is refused for an overlap, or has a cover in this form.
-/

namespace ExpectFile.Span

open Extent Outcome

/-! ## What is left alone -/

/-- Extents that touch leave no gap. -/
theorem gap_of_touching {previous next : Extent} (h : next.start = previous.stop) :
    gap previous next = .ok [] := by
  have hgap : ¬previous.stop < next.start := by omega
  have hoverlap : ¬next.start < previous.stop := by omega
  unfold gap
  rw [dif_neg hgap, if_neg hoverlap]

/-- **Covering adds nothing to a tiling.** Induction on the spans, the boundary moving along. -/
theorem coverFrom_of_tiles {final previous : Extent} {spans : List Span}
    (h : Tiles previous.stop (spans.map extent) final.start) :
    coverFrom final previous spans = .ok spans := by
  induction spans generalizing previous with
  | nil =>
    have hend : previous.stop = final.start := h
    exact gap_of_touching hend.symm
  | cons span rest ih =>
    obtain ⟨htouch, hrest⟩ := h
    rw [coverFrom, gap_of_touching htouch, ih hrest]
    rfl

/-- What follows the first span of a coalesced list is coalesced. -/
theorem Coalesced.of_cons {span : Span} {rest : List Span} (h : Coalesced (span :: rest)) :
    Coalesced rest := List.IsChain.of_cons h

/-- What follows a verbatim span of a coalesced list is no verbatim span. -/
theorem Coalesced.isVerbatim_second {e : Extent} {span : Span} {rest : List Span}
    (h : Coalesced (verbatim e :: span :: rest)) : span.isVerbatim = false := by
  have hpair : ¬((verbatim e).isVerbatim ∧ span.isVerbatim) := (List.isChain_cons_cons.mp h).1
  exact Bool.eq_false_iff.mpr fun hspan => hpair ⟨rfl, hspan⟩

/-- **Joining leaves a coalesced list alone.** The run that is being joined consists of one span,
because what follows it ends it; so the two functions are treated together again. -/
theorem coalesce_of_coalesced (spans : List Span) :
    (∀ {current : Extent}, Coalesced (verbatim current :: spans) →
      coalesceFrom current spans = .ok (verbatim current :: spans))
    ∧ (Coalesced spans → coalesce spans = .ok spans) := by
  induction spans with
  | nil => exact ⟨fun _ => rfl, fun _ => rfl⟩
  | cons span rest ih =>
    obtain ⟨ihfrom, ihall⟩ := ih
    refine ⟨fun {current} h => ?_, fun h => ?_⟩
    · have hspan : span.isVerbatim = false := h.isVerbatim_second
      rw [coalesceFrom_cons_mark hspan, ihall h.of_cons.of_cons]
      rfl
    · rcases span.verbatim_or_mark with ⟨e, rfl⟩ | hspan
      · rw [coalesce_cons_verbatim, ihfrom h]
      · rw [coalesce_cons_mark hspan, ihall h.of_cons]
        rfl

/-- **A cover in the canonical form is its own tiling.** -/
theorem tile_of_tiles {length : Nat} {tiles : List Span}
    (htiles : Tiles 0 (tiles.map extent) length) (hapart : Coalesced tiles) :
    tile length tiles = .ok tiles := by
  have hcover : cover length tiles = .ok tiles := coverFrom_of_tiles htiles
  have hjoin : coalesce tiles = .ok tiles := (coalesce_of_coalesced tiles).2 hapart
  unfold tile tileCounted
  rw [hcover]
  show (coalesce tiles >>= fun joined => _).map _ = _
  rw [hjoin]
  rfl

/-! ## Nothing is lost -/

/-- A span that a run has begun with stays. -/
theorem coalesceFrom_ne_nil {current : Extent} {spans : List Span} :
    coalesceFrom current spans ≠ .ok [] := by
  induction spans generalizing current with
  | nil => exact nofun
  | cons span rest ih =>
    rcases span.verbatim_or_mark with ⟨e, rfl⟩ | hspan
    · intro h
      rw [coalesceFrom] at h
      obtain ⟨joined, -, hrest⟩ := bind_eq_ok.mp h
      exact ih hrest
    · intro h
      rw [coalesceFrom_cons_mark hspan] at h
      obtain ⟨others, -, hcons⟩ := map_eq_ok.mp h
      exact List.cons_ne_nil _ _ hcons

/-- Joining makes nothing of nothing alone. -/
theorem eq_nil_of_coalesce {spans : List Span} (h : coalesce spans = .ok []) : spans = [] := by
  cases spans with
  | nil => rfl
  | cons span rest =>
    rcases span.verbatim_or_mark with ⟨e, rfl⟩ | hspan
    · exact absurd h coalesceFrom_ne_nil
    · rw [coalesce_cons_mark hspan] at h
      obtain ⟨others, -, hcons⟩ := map_eq_ok.mp h
      exact absurd hcons (List.cons_ne_nil _ _)

/-- Neither does covering. -/
theorem eq_nil_of_coverFrom {final previous : Extent} {spans : List Span}
    (h : coverFrom final previous spans = .ok []) : spans = [] := by
  cases spans with
  | nil => rfl
  | cons span rest =>
    rw [coverFrom, bind_eq_ok] at h
    obtain ⟨filler, -, h⟩ := h
    obtain ⟨others, -, hcons⟩ := bind_eq_ok.mp h
    have hall : filler ++ span :: others = [] := Except.ok.inj hcons
    exact absurd (List.append_eq_nil_iff.mp hall).2 (List.cons_ne_nil _ _)

/-- An empty cover is one of no spans. -/
theorem eq_nil_of_tileCounted {length : Nat} {spans : List Span} {counts : TilingCounts}
    (h : tileCounted length spans = .ok ([], counts)) : spans = [] := by
  obtain ⟨covered, hcover, h⟩ := bind_eq_ok.mp h
  obtain ⟨joined, hjoin, hpair⟩ := bind_eq_ok.mp h
  obtain rfl : joined = [] := congrArg Prod.fst (Except.ok.inj hpair)
  obtain rfl : covered = [] := eq_nil_of_coalesce hjoin
  exact eq_nil_of_coverFrom hcover

/-! ## The canonical form -/

/-- What can be covered can be joined: covering leaves a tiling, and on a tiling no extent is met
that is not one. -/
theorem exists_coalesce_of_cover {length : Nat} {spans covered : List Span}
    (h : cover length spans = .ok covered) : ∃ joined, coalesce covered = .ok joined := by
  have hordered : Ordered 0 (spans.map extent) length := ordered_of_coverFrom h
  have hbounds : Ordered (Extent.empty 0).stop (spans.map extent) (Extent.empty length).start :=
    hordered
  obtain ⟨same, hsame, htiles, -⟩ := coverFrom_of_ordered hbounds
  obtain rfl : same = covered := Except.ok.inj (hsame.symm.trans h)
  obtain ⟨joined, hjoin, -⟩ := (coalesce_of_tiles same).2 htiles
  exact ⟨joined, hjoin⟩

/-- **The cover of a queue of spans is canonical.** Whatever the spans are, covering them is the one
step that can fail: what has been covered can be joined. The queue is either refused, and then for
an overlap, or its cover runs from the start of the text to its end without a gap, is empty only if
there is nothing to cover, has the spans that are not verbatim as they were queued, no two verbatim
spans next to each other, and is its own cover. -/
theorem tile_canonical (length : Nat) (spans : List Span) :
    (∀ covered, cover length spans = .ok covered → ∃ joined, coalesce covered = .ok joined)
      ∧ ((∃ previous next, tile length spans = .error (.overlap previous next))
        ∨ ∃ tiles, tile length spans = .ok tiles
          ∧ Tiles 0 (tiles.map extent) length
          ∧ (tiles = [] ↔ spans = [] ∧ length = 0)
          ∧ marks tiles = marks spans
          ∧ Coalesced tiles
          ∧ tile length tiles = .ok tiles) := by
  refine ⟨fun covered => exists_coalesce_of_cover, ?_⟩
  cases hresult : tileCounted length spans with
  | error fault =>
    obtain ⟨previous, next, -, rfl⟩ := tileCounted_eq_error_iff.mp hresult
    exact Or.inl ⟨previous, next, map_eq_error.mpr hresult⟩
  | ok result =>
    obtain ⟨tiles, counts, hok, htiles, hmarks, hapart⟩ :=
      tileCounted_of_ordered (ordered_of_tileCounted hresult)
    refine Or.inr ⟨tiles, map_eq_ok.mpr ⟨_, hok, rfl⟩, htiles, ?_, hmarks, hapart,
      tile_of_tiles htiles hapart⟩
    constructor
    · rintro rfl
      have hlength : 0 = length := htiles
      exact ⟨eq_nil_of_tileCounted hok, hlength.symm⟩
    · rintro ⟨rfl, rfl⟩
      have hempty : tileCounted 0 [] = .ok ([], ⟨0, 0, 0⟩) := rfl
      exact congrArg Prod.fst (Except.ok.inj (hok.symm.trans hempty))

/-- The gap in front is filled, and the one at the end is joined to the span before it. -/
example : tile 5 [.dropped ⟨1, 2, by omega⟩, .verbatim ⟨2, 3, by omega⟩]
    = .ok [.verbatim ⟨0, 1, by omega⟩, .dropped ⟨1, 2, by omega⟩, .verbatim ⟨2, 5, by omega⟩] :=
  rfl

end ExpectFile.Span
