import ExpectFile.Proofs.Partition.Assembly

/-!
# Nothing is lost

The blocks of a partition and the places of the markers that vanish make up the whole file. Both
lists are in the order of the text, and merged they are a tiling of it.

* **`assembled_interleaves`** — the merge, by induction on the patches: in front of each there is
  the code since the last one, and the patch itself is a block or a place that vanishes.
* **`slice?_of_mem_assembled`** — a block of code is not empty and holds what stands in its extent.
* **`filter_assembled`** — the other blocks are the blocks of the patches.
-/

namespace ExpectFile

open Extent Outcome

/-! ## Merging -/

theorem Interleaves.nil_right {α : Type} (xs : List α) : Interleaves xs [] xs := by
  induction xs with
  | nil => exact .nil
  | cons x xs ih => exact .left x ih

/-- A list that comes first on the left comes first in the merge. -/
theorem Interleaves.append_left {α : Type} (xs : List α) {left right merged : List α}
    (h : Interleaves left right merged) : Interleaves (xs ++ left) right (xs ++ merged) := by
  induction xs with
  | nil => exact h
  | cons x xs ih => exact .left x ih

/-! ## Code between two offsets -/

theorem tiles_codeBetween {start stop : Nat} (contents : String) (h : start ≤ stop) :
    Tiles start ((codeBetween contents start stop).map (·.extent)) stop := by
  unfold codeBetween
  by_cases hlt : start < stop
  · rw [dif_pos hlt]
    exact ⟨rfl, rfl⟩
  · rw [dif_neg hlt]
    exact Nat.le_antisymm h (by omega)

theorem kind_of_mem_codeBetween {contents : String} {start stop : Nat} {block : Block}
    (h : block ∈ codeBetween contents start stop) : block.kind = .code := by
  unfold codeBetween at h
  by_cases hlt : start < stop
  · rw [dif_pos hlt, List.mem_singleton] at h
    rw [h]
  · rw [dif_neg hlt] at h
    exact absurd h List.not_mem_nil

theorem slice?_of_mem_codeBetween {contents : String} {start stop : Nat} {block : Block}
    (h : block ∈ codeBetween contents start stop) (hstop : stop ≤ contents.length) :
    block.extent.start < block.extent.stop
      ∧ block.extent.slice? contents = some block.text := by
  unfold codeBetween at h
  by_cases hlt : start < stop
  · rw [dif_pos hlt, List.mem_singleton] at h
    subst h
    refine ⟨hlt, ?_⟩
    rw [Extent.slice?, if_pos hstop]
  · rw [dif_neg hlt] at h
    exact absurd h List.not_mem_nil

/-! ## Assembled blocks -/

/-- **The blocks and the places that vanish tile the text.** -/
theorem assembled_interleaves {contents : String} {start : Nat} {patches : List Patch}
    (h : Ordered start (patches.map Patch.extent) contents.length) :
    ∃ pieces, Interleaves ((assembled contents start patches).map (·.extent))
        ((patches.filter (·.block?.isNone)).map Patch.extent) pieces
      ∧ Tiles start pieces contents.length := by
  induction patches generalizing start with
  | nil =>
    rw [assembled]
    exact ⟨_, Interleaves.nil_right _, tiles_codeBetween contents h⟩
  | cons patch rest ih =>
    obtain ⟨pieces, hmerge, htiles⟩ := ih h.2
    have hfront : Tiles start
        ((codeBetween contents start patch.extent.start).map (·.extent)) patch.extent.start :=
      tiles_codeBetween contents h.1
    refine ⟨(codeBetween contents start patch.extent.start).map (·.extent)
      ++ patch.extent :: pieces, ?_, hfront.append ⟨rfl, htiles⟩⟩
    rw [assembled, List.append_assoc, List.map_append]
    refine Interleaves.append_left _ ?_
    -- the patch is a block on the left or a vanishing place on the right
    cases hblock : patch.block? with
    | none =>
      rw [List.filter_cons_of_pos (by rw [hblock]; rfl), List.map_cons]
      exact .right patch.extent hmerge
    | some block =>
      rw [List.filter_cons_of_neg (by rw [hblock]; exact Bool.false_ne_true),
        Option.toList_some, List.singleton_append, List.map_cons,
        Patch.extent_of_block? hblock]
      exact .left patch.extent hmerge

/-- **Code is copied.** A block of code holds at least one character, and its text is what stands
in its extent. -/
theorem slice?_of_mem_assembled {contents : String} {start : Nat} {patches : List Patch}
    {block : Block} (h : Ordered start (patches.map Patch.extent) contents.length)
    (hmem : block ∈ assembled contents start patches) (hcode : block.kind = .code) :
    block.extent.start < block.extent.stop
      ∧ block.extent.slice? contents = some block.text := by
  induction patches generalizing start with
  | nil => exact slice?_of_mem_codeBetween hmem (Nat.le_refl _)
  | cons patch rest ih =>
    have hinside : patch.extent.start ≤ contents.length :=
      Nat.le_trans patch.extent.start_le_stop h.2.le
    rw [assembled, List.mem_append, List.mem_append] at hmem
    rcases hmem with (hfront | hpatch) | hrest
    · exact slice?_of_mem_codeBetween hfront hinside
    · rw [Option.mem_toList] at hpatch
      exact absurd hcode (Patch.kind_of_block? hpatch)
    · exact ih h.2 hrest

theorem filter_codeBetween (contents : String) (start stop : Nat) :
    (codeBetween contents start stop).filter (fun block => decide (block.kind ≠ .code)) = [] := by
  rw [List.filter_eq_nil_iff]
  intro block hmem
  rw [decide_eq_true_eq, not_not]
  exact kind_of_mem_codeBetween hmem

/-- **The blocks that are not code are the blocks of the patches**, in their order. -/
theorem filter_assembled (contents : String) (start : Nat) (patches : List Patch) :
    (assembled contents start patches).filter (fun block => decide (block.kind ≠ .code))
      = patches.filterMap Patch.block? := by
  induction patches generalizing start with
  | nil =>
    rw [assembled, filter_codeBetween]
    rfl
  | cons patch rest ih =>
    rw [assembled, List.filter_append, List.filter_append, filter_codeBetween, ih,
      List.nil_append]
    cases hblock : patch.block? with
    | none =>
      rw [List.filterMap_cons_none hblock]
      rfl
    | some block =>
      have hkind : decide (block.kind ≠ .code) = true :=
        decide_eq_true (Patch.kind_of_block? hblock)
      rw [List.filterMap_cons_some hblock, Option.toList_some, List.filter_cons, if_pos hkind]
      rfl

/-! ## Partitions -/

/-- **A partition is complete.** Its blocks and the places of the markers that vanish, each list in
its order, are a tiling of the text: what stands in them, one after the other, is the text, and
every character is in exactly one of them. A block of code is not empty and holds what stands in its
extent. The other blocks are those of the directives and of the assertions with a rendering, one for
each, in order. -/
theorem partition_complete {v : Vocabulary} {render : Rendering} {contents : String}
    {phrases : List Phrase} {blocks : List Block}
    (h : partition v render contents phrases = .ok blocks) :
    (∃ pieces, Interleaves (blocks.map (·.extent))
        (((patches v render contents phrases).filter (·.block?.isNone)).map Patch.extent) pieces
      ∧ Tiles 0 pieces contents.length
      ∧ pieces.flatMap (·.cut contents.toList) = contents.toList
      ∧ ∀ offset < contents.length, pieces.countP (·.holds offset) = 1)
    ∧ (∀ block ∈ blocks, block.kind = .code →
        block.extent.start < block.extent.stop
          ∧ block.extent.slice? contents = some block.text)
    ∧ blocks.filter (fun block => decide (block.kind ≠ .code))
        = (patches v render contents phrases).filterMap Patch.block? := by
  obtain ⟨-, hordered, rfl⟩ := partition_eq_ok_iff.mp h
  have hpatches : Ordered 0 ((patches v render contents phrases).map Patch.extent)
      contents.length := ordered_patches hordered
  obtain ⟨pieces, hmerge, htiles⟩ := assembled_interleaves hpatches
  refine ⟨⟨pieces, hmerge, htiles, ?_, fun offset hoffset => ?_⟩, fun block hmem hcode => ?_, ?_⟩
  · rw [htiles.flatMap_cut contents.toList, List.drop_zero, Nat.sub_zero]
    exact List.take_of_length_le (Nat.le_of_eq String.length_toList)
  · exact htiles.countP_holds (Nat.zero_le offset) hoffset
  · exact slice?_of_mem_assembled hpatches hmem hcode
  · exact filter_assembled contents 0 _

/-- In the sample, the part declaration and the assertion to be filled in vanish. -/
theorem partition_complete_sample :
    partition .standard Expectation.recorded Sample.text Sample.phrases = .ok Sample.blocks
      ∧ ∃ pieces, Interleaves (Sample.blocks.map (·.extent))
          [.ofLength 0 9, .ofLength 28 8] pieces
        ∧ Tiles 0 pieces 45 := by
  obtain ⟨⟨pieces, hmerge, htiles, -⟩, -⟩ := partition_complete Sample.partition_eq_blocks
  exact ⟨Sample.partition_eq_blocks, pieces, hmerge, htiles⟩

end ExpectFile
