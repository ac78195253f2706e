import ExpectFile.Output
import ExpectFile.Proofs.Partition.Assembly

/-!
# Printing in place

A partition that is printed back is the file with the places of its markers overwritten. Nothing
else changes: `substituted` goes through the text once and copies what lies between the places.

* **`flatMap_block_codeBetween`** — code prints as it stands.
* **`flatMap_block_assembled`** — the printed blocks, by induction on the patches.
-/

namespace ExpectFile

open Extent Outcome

/-- A text from an offset on, with the texts of some ranges replaced. The ranges are in order. -/
def substituted (text : List Char) : (start : Nat) → List (Extent × List Char) → List Char
  | start, [] => text.drop start
  | start, (e, replacement) :: rest =>
    (text.drop start).take (e.start - start) ++ replacement ++ substituted text e.stop rest

/-- What a patch prints as: a call with its text as the argument, or nothing. -/
def Patch.printed (names : Reprint.Names) : Patch → List Char
  | directive _ text =>
    names.directive.toList ++ ['('] ++ Reprint.literal text.toList ++ [')']
  | assertion _ text =>
    names.assertion.toList ++ ['('] ++ Reprint.literal text.toList ++ [')']
  | removal _ => []

/-- The replacements that the patches of a file ask for. -/
def replacements (names : Reprint.Names) (patches : List Patch) : List (Extent × List Char) :=
  patches.map fun patch => (patch.extent, patch.printed names)

theorem flatMap_block_codeBetween (names : Reprint.Names) (contents : String)
    (start stop : Nat) :
    (codeBetween contents start stop).flatMap (Reprint.block names)
      = (contents.toList.drop start).take (stop - start) := by
  unfold codeBetween
  by_cases hlt : start < stop
  · rw [dif_pos hlt, List.flatMap_singleton]
    exact String.toList_ofList
  · rw [dif_neg hlt, show stop - start = 0 from by omega, List.take_zero]
    rfl

theorem flatMap_block_block? (names : Reprint.Names) (patch : Patch) :
    patch.block?.toList.flatMap (Reprint.block names) = patch.printed names := by
  cases patch with
  | directive e text =>
    show Reprint.call names.directive text ++ [] = _
    rw [List.append_nil, Reprint.call, Patch.printed]
    simp only [List.append_assoc, List.cons_append, List.nil_append]
  | assertion e text =>
    show Reprint.call names.assertion text ++ [] = _
    rw [List.append_nil, Reprint.call, Patch.printed]
    simp only [List.append_assoc, List.cons_append, List.nil_append]
  | removal e => rfl

/-- **The blocks print as the text with the patches in place.** -/
theorem flatMap_block_assembled (names : Reprint.Names) (contents : String) (start : Nat)
    (patches : List Patch) :
    (assembled contents start patches).flatMap (Reprint.block names)
      = substituted contents.toList start (replacements names patches) := by
  induction patches generalizing start with
  | nil =>
    rw [assembled, flatMap_block_codeBetween, replacements, List.map_nil, substituted]
    refine List.take_of_length_le ?_
    rw [List.length_drop, String.length_toList]
  | cons patch rest ih =>
    rw [assembled, List.flatMap_append, List.flatMap_append, flatMap_block_codeBetween,
      flatMap_block_block?, ih]
    rfl

/-- **Printing is substitution in place.** The printed text is the file with the place of every
directive and of every assertion with a rendering overwritten by a call, and the places of part
declarations and of the other assertions emptied. The places are in order and within the text, so
what lies outside of them is copied once; a file without markers is printed as it is. -/
theorem reprint_eq_substituted {v : Vocabulary} {render : Rendering} {contents : String}
    {phrases : List Phrase} {blocks : List Block} (names : Reprint.Names)
    (h : partition v render contents phrases = .ok blocks) :
    (Output.reprint names blocks).content
        = String.ofList (substituted contents.toList 0
            (replacements names (patches v render contents phrases)))
      ∧ Ordered 0 ((patches v render contents phrases).map Patch.extent) contents.length
      ∧ ((∀ statement ∈ phrases.flatMap (·.statements),
            statement.marker? v (some contents) = .ok none) →
          (Output.reprint names blocks).content = contents) := by
  obtain ⟨-, hordered, rfl⟩ := partition_eq_ok_iff.mp h
  have hprinted : (Output.reprint names
      (assembled contents 0 (patches v render contents phrases))).content
        = String.ofList (substituted contents.toList 0
            (replacements names (patches v render contents phrases))) :=
    congrArg String.ofList (flatMap_block_assembled names contents 0 _)
  refine ⟨hprinted, ordered_patches hordered, fun hcode => ?_⟩
  have hnone : patches v render contents phrases = [] := by
    unfold patches
    rw [List.filterMap_eq_nil_iff]
    intro statement hmem
    rw [Statement.patch?, hcode statement hmem]
  rw [hprinted, hnone]
  exact String.ofList_toList

/-- The sample is printed with two calls, the assertion under its new name, and with nothing in the
places of the part declaration and of the assertion to be filled in. -/
theorem reprint_eq_substituted_sample :
    partition .standard Expectation.recorded Sample.text Sample.phrases = .ok Sample.blocks
      ∧ (Output.reprint ⟨"org", "check"⟩ Sample.blocks).content
        = "\nx = 1\ncheck(\"\"\"1\"\"\")\n\norg(\"\"\"t\"\"\")" :=
  ⟨Sample.partition_eq_blocks,
    (reprint_eq_substituted ⟨"org", "check"⟩ Sample.partition_eq_blocks).1.trans rfl⟩

end ExpectFile
