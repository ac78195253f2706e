import ExpectFile.Proofs.Partition.Faults
import ExpectFile.Proofs.Source.Agreement

/-!
# What a rendering decides

A partition under one rendering and a partition under another differ in the blocks of assertions and
in nothing else. An assertion that one of them drops and the other shows is the same boundary for
the code around it: both patches stand in the same place, and code is cut at patches, whether they
have a block or not.

* **`Patch.Alike`** — patches that differ in the rendering of an assertion at most;
  **`patches_alike`** — those of one file under two renderings.
* **`filter_assembled_of_alike`** — alike patches have the same blocks around assertions.
-/

namespace ExpectFile

variable {v : Vocabulary} {contents : String} {phrases : List Phrase} {first second : Rendering}

/-! ## Blocks that are no assertions -/

/-- Whether a block is code or a directive. -/
def Block.isNoAssertion (block : Block) : Bool := decide (block.kind ≠ .assertion)

/-- Patches in one place with one block, assertions apart: of these, one may be shown and the other
dropped. -/
structure Patch.Alike (patch other : Patch) : Prop where
  extent_eq : patch.extent = other.extent
  block_eq : patch.block?.toList.filter Block.isNoAssertion
    = other.block?.toList.filter Block.isNoAssertion

/-- A marker has alike patches under any two renderings. -/
theorem Patch.alike_ofMarker (first second : Rendering) (extent : Extent) (marker : Marker) :
    Alike (ofMarker first extent marker) (ofMarker second extent marker) := by
  constructor
  · rw [extent_ofMarker, extent_ofMarker]
  · cases marker with
    | assertion content =>
      rw [ofMarker, ofMarker]
      cases first content <;> cases second content <;> rfl
    | directive name text _ => rfl
    | part name label _ => rfl

/-- **A file has alike patches under any two renderings**, one for each of its markers. -/
theorem patches_alike (v : Vocabulary) (first second : Rendering) (contents : String)
    (phrases : List Phrase) :
    List.Forall₂ Patch.Alike (patches v first contents phrases)
      (patches v second contents phrases) := by
  unfold patches
  induction phrases.flatMap (·.statements) with
  | nil => exact .nil
  | cons statement rest ih =>
    rw [List.filterMap_cons, List.filterMap_cons]
    unfold Statement.patch? at ih ⊢
    cases statement.marker? v (some contents) with
    | error fault => exact ih
    | ok found =>
      cases found with
      | none => exact ih
      | some marker => exact .cons (Patch.alike_ofMarker first second _ marker) ih

/-- **Alike patches have the same blocks around assertions.** Induction on the patches: code runs up
to the next patch, and alike patches start and stop together. -/
theorem filter_assembled_of_alike {these those : List Patch}
    (h : List.Forall₂ Patch.Alike these those) (contents : String) (start : Nat) :
    (assembled contents start these).filter Block.isNoAssertion
      = (assembled contents start those).filter Block.isNoAssertion := by
  induction h generalizing start with
  | nil => rfl
  | @cons patch other these those halike _ ih =>
    simp only [assembled, List.filter_append]
    rw [halike.extent_eq, halike.block_eq, ih]

/-! ## Assertions -/

/-- **The blocks of assertions are the renderings**, each in the place of its assertion. -/
theorem filterMap_ofKind?_assertion {render : Rendering} {blocks : List Block}
    (h : partition v render contents phrases = .ok blocks) :
    blocks.filterMap (Block.ofKind? .assertion)
      = ((phrases.flatMap (·.statements)).filterMap
          (Statement.assertion? v (some contents))).filterMap (Assertion.rendered? render) := by
  obtain ⟨hread, -, -⟩ := partition_eq_ok_iff.mp h
  have hkind : BlockKind.assertion ≠ .code := nofun
  rw [filterMap_ofKind?_partition hkind h, List.filterMap_filterMap]
  refine List.filterMap_congr fun statement hmem => ?_
  obtain ⟨found, hfound⟩ := hread statement hmem
  exact Statement.shown?_assertion hfound (some contents)

/-! ## Two partitions -/

/-- Which fault a partition reports, if any, does not depend on the rendering. -/
theorem partition_eq_error_congr {fault : Fault}
    (h : partition v first contents phrases = .error fault) (second : Rendering) :
    partition v second contents phrases = .error fault :=
  partition_eq_error_iff.mpr (partition_eq_error_iff.mp h)

/-- **A rendering decides the blocks of assertions alone.** Under any two renderings a file fails
with the same fault, or can be partitioned under both. Then the blocks that are no assertions are
the very same, in kind, text and place; and the blocks of assertions are, under either rendering,
the assertions that it renders to a text, in order, with this text and in the place of the
assertion. -/
theorem partition_renderings (v : Vocabulary) (contents : String) (phrases : List Phrase)
    (first second : Rendering) :
    (∃ fault, partition v first contents phrases = .error fault
        ∧ partition v second contents phrases = .error fault)
      ∨ ∃ blocks others, partition v first contents phrases = .ok blocks
        ∧ partition v second contents phrases = .ok others
        ∧ blocks.filter Block.isNoAssertion = others.filter Block.isNoAssertion
        ∧ blocks.filterMap (Block.ofKind? .assertion)
          = ((phrases.flatMap (·.statements)).filterMap
              (Statement.assertion? v (some contents))).filterMap (Assertion.rendered? first)
        ∧ others.filterMap (Block.ofKind? .assertion)
          = ((phrases.flatMap (·.statements)).filterMap
              (Statement.assertion? v (some contents))).filterMap
                (Assertion.rendered? second) := by
  cases hfirst : partition v first contents phrases with
  | error fault => exact Or.inl ⟨fault, rfl, partition_eq_error_congr hfirst second⟩
  | ok blocks =>
    -- what is read and where it stands is all that success depends on
    obtain ⟨hread, hordered, hblocks⟩ := partition_eq_ok_iff.mp hfirst
    have hsecond : partition v second contents phrases
        = .ok (assembled contents 0 (patches v second contents phrases)) :=
      partition_of_ordered hread hordered
    refine Or.inr ⟨blocks, _, rfl, hsecond, ?_, filterMap_ofKind?_assertion hfirst,
      filterMap_ofKind?_assertion hsecond⟩
    rw [hblocks]
    exact filter_assembled_of_alike (patches_alike v first second contents phrases) contents 0

/-- Without its assertions, the sample has the same code on either side of where they stood. -/
example : (partition .standard (fun _ => none) Sample.text Sample.phrases).toOption
    = some [⟨.code, "\nx = 1\n", .ofLength 9 7⟩, ⟨.code, "\n", .ofLength 27 1⟩,
        ⟨.code, "\n", .ofLength 36 1⟩, ⟨.directive, "t", .ofLength 37 8⟩] := rfl

end ExpectFile
