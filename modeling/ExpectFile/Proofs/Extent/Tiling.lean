import ExpectFile.Fault
import Mathlib.Data.List.Basic

/-!
# Ranges in order

Two ways for a list of extents to run from one offset to another. `Extent.Ordered` allows gaps: each
extent starts at or behind the stop of the one before it. `Extent.Tiles` does not: each starts
exactly there, so the extents cut the text up and lose nothing.

* **`Tiles.flatMap_cut`** — the texts of a tiling, written one after the other, are the text.
* **`Tiles.countP_holds`** — every offset of a tiled stretch lies in exactly one of its extents.
* **`Interleaves`** — two lists merged into one, each of them in its own order.
-/

namespace ExpectFile

/-- `Interleaves left right merged`: `merged` takes the members of both lists, in the order of
each. -/
inductive Interleaves {α : Type} : List α → List α → List α → Prop where
  | nil : Interleaves [] [] []
  | left (x : α) {left right merged : List α} (h : Interleaves left right merged) :
      Interleaves (x :: left) right (x :: merged)
  | right (x : α) {left right merged : List α} (h : Interleaves left right merged) :
      Interleaves left (x :: right) (x :: merged)

namespace Extent

/-- Whether an offset lies in an extent. -/
def holds (e : Extent) (offset : Nat) : Bool := e.start ≤ offset && offset < e.stop

/-- The extents run from `start` to `stop`, and none begins before the one in front of it ends. -/
def Ordered : (start : Nat) → List Extent → (stop : Nat) → Prop
  | start, [], stop => start ≤ stop
  | start, e :: rest, stop => start ≤ e.start ∧ Ordered e.stop rest stop

/-- The extents run from `start` to `stop` without a gap. -/
def Tiles : (start : Nat) → List Extent → (stop : Nat) → Prop
  | start, [], stop => start = stop
  | start, e :: rest, stop => e.start = start ∧ Tiles e.stop rest stop

/-! ## Bounds -/

/-- Two offsets in order bound an extent. -/
theorem ofBounds_natCast {start stop : Nat} (h : start ≤ stop) :
    Extent.ofBounds start stop = .ok ⟨start, stop, h⟩ := by
  unfold Extent.ofBounds
  rw [ofBounds?_natCast ⟨start, stop, h⟩]

/-- The bounds of an extent are the numbers that it was made of. -/
theorem bounds_of_ofBounds {start stop : Int} {e : Extent}
    (h : Extent.ofBounds start stop = .ok e) : (e.start : Int) = start ∧ (e.stop : Int) = stop := by
  unfold Extent.ofBounds ofBounds? at h
  by_cases hbounds : 0 ≤ start ∧ start ≤ stop
  · rw [dif_pos hbounds] at h
    cases h
    have hstop : 0 ≤ stop := by omega
    exact ⟨Int.toNat_of_nonneg hbounds.1, Int.toNat_of_nonneg hstop⟩
  · rw [dif_neg hbounds] at h
    exact absurd h nofun

/-- An extent within a text can be cut out of it. -/
theorem slice_eq_ok {e : Extent} {contents : String} (h : e.stop ≤ contents.length) :
    e.slice contents = .ok (String.ofList (e.cut contents.toList)) := by
  unfold slice slice?
  rw [if_pos h]

/-! ## Order -/

theorem Ordered.le {start stop : Nat} {extents : List Extent} (h : Ordered start extents stop) :
    start ≤ stop := by
  induction extents generalizing start with
  | nil => exact h
  | cons e rest ih =>
    have hstop : e.stop ≤ stop := ih h.2
    have hle : e.start ≤ e.stop := e.start_le_stop
    have hstart : start ≤ e.start := h.1
    omega

/-- An earlier start is a start as well. -/
theorem Ordered.mono {start earlier stop : Nat} {extents : List Extent}
    (h : Ordered start extents stop) (hle : earlier ≤ start) : Ordered earlier extents stop := by
  cases extents with
  | nil => exact Nat.le_trans hle h
  | cons e rest => exact ⟨Nat.le_trans hle h.1, h.2⟩

/-- Members can be taken out of an ordered list. -/
theorem Ordered.sublist {start stop : Nat} {some all : List Extent} (hsub : some.Sublist all)
    (h : Ordered start all stop) : Ordered start some stop := by
  induction hsub generalizing start with
  | slnil => exact h
  | cons e _ ih =>
    have hle : e.start ≤ e.stop := e.start_le_stop
    exact ih (h.2.mono (Nat.le_trans h.1 hle))
  | cons_cons e _ ih => exact ⟨h.1, ih h.2⟩

/-- Nothing in an ordered list reaches beyond its end. -/
theorem Ordered.stop_le {start stop : Nat} {extents : List Extent} {e : Extent}
    (h : Ordered start extents stop) (he : e ∈ extents) : e.stop ≤ stop := by
  induction extents generalizing start with
  | nil => exact absurd he List.not_mem_nil
  | cons d rest ih =>
    rcases List.mem_cons.mp he with rfl | hrest
    · exact h.2.le
    · exact ih h.2 hrest

/-- No extent in an ordered list starts in front of its start. -/
theorem Ordered.le_start {start stop : Nat} {extents : List Extent} {e : Extent}
    (h : Ordered start extents stop) (he : e ∈ extents) : start ≤ e.start := by
  induction extents generalizing start with
  | nil => exact absurd he List.not_mem_nil
  | cons d rest ih =>
    have hle : d.start ≤ d.stop := d.start_le_stop
    rcases List.mem_cons.mp he with rfl | hrest
    · exact h.1
    · exact Nat.le_trans (Nat.le_trans h.1 hle) (ih h.2 hrest)

/-- An ordered list can be parted anywhere. -/
theorem Ordered.of_append {start stop : Nat} {first second : List Extent}
    (h : Ordered start (first ++ second) stop) :
    ∃ middle, Ordered start first middle ∧ Ordered middle second stop := by
  induction first generalizing start with
  | nil => exact ⟨start, Nat.le_refl start, h⟩
  | cons e rest ih =>
    obtain ⟨middle, hfirst, hsecond⟩ := ih h.2
    exact ⟨middle, ⟨h.1, hfirst⟩, hsecond⟩

/-! ## Tilings -/

theorem Tiles.ordered {start stop : Nat} {extents : List Extent} (h : Tiles start extents stop) :
    Ordered start extents stop := by
  induction extents generalizing start with
  | nil => exact Nat.le_of_eq h
  | cons e rest ih => exact ⟨Nat.le_of_eq h.1.symm, ih h.2⟩

/-- Two tilings that meet make one. -/
theorem Tiles.append {start middle stop : Nat} {first second : List Extent}
    (hfirst : Tiles start first middle) (hsecond : Tiles middle second stop) :
    Tiles start (first ++ second) stop := by
  induction first generalizing start with
  | nil =>
    obtain rfl : start = middle := hfirst
    exact hsecond
  | cons e rest ih => exact ⟨hfirst.1, ih hfirst.2⟩

/-- The text between two offsets, cut at an offset between them. -/
theorem take_drop_append {α : Type} (text : List α) {start middle stop : Nat}
    (hstart : start ≤ middle) (hstop : middle ≤ stop) :
    (text.drop start).take (middle - start) ++ (text.drop middle).take (stop - middle)
      = (text.drop start).take (stop - start) := by
  rw [show stop - start = (middle - start) + (stop - middle) from by omega, List.take_add,
    List.drop_drop, show start + (middle - start) = middle from by omega]

/-- The texts of a tiling, one after the other, are the text that is tiled. -/
theorem Tiles.flatMap_cut {start stop : Nat} {extents : List Extent} (text : List Char)
    (h : Tiles start extents stop) :
    extents.flatMap (·.cut text) = (text.drop start).take (stop - start) := by
  induction extents generalizing start with
  | nil =>
    obtain rfl : start = stop := h
    rw [Nat.sub_self, List.take_zero, List.flatMap_nil]
  | cons e rest ih =>
    obtain ⟨rfl, hrest⟩ := h
    rw [List.flatMap_cons, ih hrest]
    exact take_drop_append text e.start_le_stop hrest.ordered.le

/-- No offset in front of a tiled stretch lies in one of its extents. -/
theorem Tiles.countP_holds_of_lt {start stop offset : Nat} {extents : List Extent}
    (h : Tiles start extents stop) (hlt : offset < start) :
    extents.countP (·.holds offset) = 0 := by
  induction extents generalizing start with
  | nil => rfl
  | cons e rest ih =>
    obtain ⟨rfl, hrest⟩ := h
    have hle : e.start ≤ e.stop := e.start_le_stop
    rw [List.countP_cons, ih hrest (by omega), if_neg (by simp [holds]; omega)]

/-- Every offset of a tiled stretch lies in exactly one of its extents. -/
theorem Tiles.countP_holds {start stop offset : Nat} {extents : List Extent}
    (h : Tiles start extents stop) (hstart : start ≤ offset) (hstop : offset < stop) :
    extents.countP (·.holds offset) = 1 := by
  induction extents generalizing start with
  | nil =>
    have heq : start = stop := h
    omega
  | cons e rest ih =>
    obtain ⟨rfl, hrest⟩ := h
    rw [List.countP_cons]
    by_cases hhere : offset < e.stop
    · rw [hrest.countP_holds_of_lt hhere, if_pos (by simp [holds]; omega)]
    · rw [ih hrest (by omega), if_neg (by simp [holds]; omega)]

end Extent

end ExpectFile
