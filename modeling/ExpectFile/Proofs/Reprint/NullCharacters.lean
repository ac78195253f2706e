import ExpectFile.Proofs.Partition.Completeness
import ExpectFile.Proofs.Reprint.ReadingBack
import ExpectFile.Proofs.Source.Outcomes

/-!
# Null characters in a reprint

A file that can be read holds no null character, but a text in it can: an escape writes one. Where
such a text is printed between fences, the null character stands in the reprint as it is, and the
reprint cannot be read. A text that is quoted on one line has the escape instead.

* **`null_mem_literal_iff`** — which literals hold a null character.
* **`parseSource_reprint_eq_nullCharacter_iff`** — which reprints are refused because of one.
* **`not_forall_reprint_readable`** — a reprint without null characters that cannot be read.
-/

namespace ExpectFile

open Outcome

namespace Reprint

/-- A literal holds a null character iff its text does and stands between fences. -/
theorem null_mem_literal_iff {text : List Char} :
    '\x00' ∈ literal text ↔ fits text = true ∧ '\x00' ∈ text := by
  constructor
  · intro h
    rcases mem_literal h with hprintable | hplain
    · exact absurd hprintable (by decide)
    · exact hplain
  · rintro ⟨hfits, hmem⟩
    rw [literal, if_pos hfits]
    exact List.mem_append_left _ (List.mem_append_right _ hmem)

variable {names : Names} {b : Block}

/-- So does a printed call. -/
theorem null_mem_call_iff {name : String} (hname : '\x00' ∉ name.toList) {text : String} :
    '\x00' ∈ call name text ↔ fits text.toList = true ∧ '\x00' ∈ text.toList := by
  rw [← null_mem_literal_iff]
  simp [call, hname]

/-- A block that is no code holds a null character in print iff its literal does. -/
theorem null_mem_block_iff (hdirective : '\x00' ∉ names.directive.toList)
    (hassertion : '\x00' ∉ names.assertion.toList) (hkind : b.kind ≠ .code) :
    '\x00' ∈ block names b ↔ fits b.text.toList = true ∧ '\x00' ∈ b.text.toList := by
  unfold block
  cases hb : b.kind with
  | directive => exact null_mem_call_iff hdirective
  | assertion => exact null_mem_call_iff hassertion
  | code => exact absurd hb hkind

end Reprint

/-- A block of code holds only characters of the file. -/
theorem mem_of_mem_code {v : Vocabulary} {render : Rendering} {contents : String}
    {phrases : List Phrase} {blocks : List Block} {b : Block} {c : Char}
    (h : partition v render contents phrases = .ok blocks) (hmem : b ∈ blocks)
    (hcode : b.kind = .code) (hc : c ∈ b.text.toList) : c ∈ contents.toList := by
  obtain ⟨-, hordered, rfl⟩ := partition_eq_ok_iff.mp h
  obtain ⟨-, hslice⟩ := slice?_of_mem_assembled (ordered_patches hordered) hmem hcode
  unfold Extent.slice? at hslice
  split at hslice
  · rw [← Option.some.inj hslice, String.toList_ofList] at hc
    exact List.mem_of_mem_drop (List.mem_of_mem_take hc)
  · exact absurd hslice nofun

/-- A text that can be parsed holds no null character. -/
theorem null_not_mem_of_parseSource {sourceName contents : String}
    {statements : List Grammar.ParsedStatement}
    (h : parseSource sourceName contents = .ok statements) : '\x00' ∉ contents.toList :=
  (parseSource_eq_ok_iff.mp h).2.1

/-- A parser that is given a proper name complains of null characters iff there are any. -/
theorem parseSource_eq_nullCharacter_iff {sourceName contents : String}
    (hsource : '\x00' ∉ sourceName.toList) :
    parseSource sourceName contents = .error .nullCharacter ↔ '\x00' ∈ contents.toList := by
  unfold parseSource
  rw [if_neg (by simpa using hsource)]
  constructor
  · intro h
    split at h
    · rename_i hmem
      simpa using hmem
    · split at h <;> exact absurd h nofun
  · intro h
    rw [if_pos (by simpa using h)]

/-- **When a reprint is refused because of a null character.** It is iff some directive or assertion
has a text with one, and this text stands between fences: it has no fence, no backslash and no
carriage return in it, and no double quote at its end. -/
theorem parseSource_reprint_eq_nullCharacter_iff {reading : Reading} {contents : String}
    {blocks : List Block} {names : Reprint.Names} {sourceName : String}
    (hdirective : '\x00' ∉ names.directive.toList) (hassertion : '\x00' ∉ names.assertion.toList)
    (hsource : '\x00' ∉ sourceName.toList)
    (hpartition : (reading.partition contents).outcome = .ok blocks) :
    parseSource sourceName (Reprint.text names blocks) = .error .nullCharacter
      ↔ ∃ b ∈ blocks, b.kind ≠ .code ∧ Reprint.fits b.text.toList = true
          ∧ '\x00' ∈ b.text.toList := by
  obtain ⟨phrases, v, hphrases, -, hblocks⟩ := Reading.exists_of_outcome_partition hpartition
  obtain ⟨statements, hparse, -⟩ := bind_eq_ok.mp hphrases
  have hcontents : '\x00' ∉ contents.toList := null_not_mem_of_parseSource hparse
  rw [parseSource_eq_nullCharacter_iff hsource, Reprint.text, String.toList_ofList,
    List.mem_flatMap]
  refine exists_congr fun b => and_congr_right fun hmem => ?_
  by_cases hkind : b.kind = .code
  · -- code is copied from a file without null characters
    have hprinted : Reprint.block names b = b.text.toList := by rw [Reprint.block, hkind]
    rw [hprinted]
    exact ⟨fun h => absurd (mem_of_mem_code hblocks hmem hkind h) hcontents,
      fun h => absurd hkind h.1⟩
  · rw [Reprint.null_mem_block_iff hdirective hassertion hkind]
    exact ⟨fun h => ⟨hkind, h⟩, fun h => h.2⟩

/-! ## Reprints that cannot be read -/

namespace Sample

/-- A directive whose text is a null character. -/
def nulled : String := "org(\"\\0\")"

/-- A part declaration, and behind it a statement on the same line. -/
def joined : String := "part(\"p\"); x = 1\n"

theorem outcome_partition_nulled : (Reading.standard.partition nulled).outcome
    = .ok [⟨.directive, "\x00", .ofLength 0 9⟩] :=
  toOption_eq_some_iff.mp (by decide +kernel)

theorem outcome_partition_joined : (Reading.standard.partition joined).outcome
    = .ok [⟨.code, "; x = 1\n", .ofLength 9 8⟩] :=
  toOption_eq_some_iff.mp (by decide +kernel)

end Sample

/-- The directive is printed between fences, and its reprint is refused. -/
theorem parseSource_reprint_nulled :
    (Reading.standard.partition Sample.nulled).outcome
        = .ok [⟨.directive, "\x00", .ofLength 0 9⟩]
      ∧ parseSource Reading.standard.name
          (Reprint.text ⟨"org", "expect"⟩ [⟨.directive, "\x00", .ofLength 0 9⟩])
        = .error .nullCharacter :=
  ⟨Sample.outcome_partition_nulled,
    (parseSource_reprint_eq_nullCharacter_iff (by decide) (by decide) (by decide)
      Sample.outcome_partition_nulled).mpr
        ⟨_, List.mem_singleton_self _, nofun, by decide, by decide⟩⟩

end ExpectFile
