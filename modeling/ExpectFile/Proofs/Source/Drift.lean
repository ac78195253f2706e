import ExpectFile.Proofs.Diff.Hunks
import ExpectFile.Proofs.Source.Safety

/-!
# Sources that print as they stand

The difference between a source and what its blocks print as is shown to a reader, who takes an
empty one to say that nothing was lost. It says so, and a difference that is not empty says that
something was.

* **`Reading.difference_eq_empty_iff`** — an empty difference is one between equal texts.
* **`Reading.outcome_drift`** — what is compared once a source has blocks.
* **`drift_eq_empty_iff`** — a source that does not drift.
-/

namespace ExpectFile

namespace Reading

variable {reading : Reading}

/-- **An empty difference** is one between equal texts, under any name. -/
theorem difference_eq_empty_iff (original rendered : String) :
    reading.difference original rendered = "" ↔ original = rendered := by
  unfold difference
  rw [← String.toList_inj, String.toList_ofList, String.toList_empty, Diff.unified_eq_nil_iff,
    String.toList_inj]

/-- A source with blocks is compared with what they print as. -/
theorem outcome_drift {contents : String} {blocks : List Block}
    (h : (reading.partition contents).outcome = .ok blocks) :
    (reading.drift contents).outcome
      = .ok (reading.difference contents
          (Reprint.text (.ofChoice reading.settings "" "") blocks)) := by
  unfold drift
  rw [Noted.outcome_bind_of_ok h]
  dsimp only
  -- a note is taken of a difference, and changes nothing about it
  split <;> rfl

end Reading

/-- **An empty difference says that nothing was lost, and nothing else does.** Two texts have an
empty difference just if they are equal, whatever the name of their source. So a source that has
blocks has a difference from what they print as, and it is empty just if that is the source,
character for character. -/
theorem drift_eq_empty_iff (reading : Reading) :
    (∀ original rendered, reading.difference original rendered = "" ↔ original = rendered)
      ∧ ∀ contents blocks, (reading.partition contents).outcome = .ok blocks →
        ∃ found, (reading.drift contents).outcome = .ok found
          ∧ (found = "" ↔ Reprint.text (.ofChoice reading.settings "" "") blocks = contents) := by
  refine ⟨Reading.difference_eq_empty_iff, fun contents blocks hblocks => ?_⟩
  refine ⟨_, Reading.outcome_drift hblocks, ?_⟩
  rw [Reading.difference_eq_empty_iff]
  exact eq_comm

namespace Sample

/-- What the blocks of a text print as. -/
def printed (contents : String) : Option String :=
  (reading.partition contents).outcome.toOption.map
    (Reprint.text (.ofChoice reading.settings "" ""))

end Sample

/-- Code prints as it stands, and has no difference. A call whose text is quoted another way is
printed with three quotes, and has one. -/
theorem drift_eq_empty_iff_sample :
    Sample.printed "x\n" = some "x\n" ∧ (Sample.reading.drift "x\n").outcome = .ok ""
      ∧ Sample.printed "org('t')\n" = some "org(\"\"\"t\"\"\")\n"
      ∧ ∃ found, (Sample.reading.drift "org('t')\n").outcome = .ok found ∧ found ≠ "" := by
  have hsame : Sample.printed "x\n" = some "x\n" := by decide +kernel
  have hother : Sample.printed "org('t')\n" = some "org(\"\"\"t\"\"\")\n" := by decide +kernel
  have hblocks : ∀ {contents text}, Sample.printed contents = some text →
      ∃ blocks, (Sample.reading.partition contents).outcome = .ok blocks
        ∧ Reprint.text (.ofChoice Sample.reading.settings "" "") blocks = text := by
    intro contents text h
    unfold Sample.printed at h
    cases houtcome : (Sample.reading.partition contents).outcome with
    | error fault =>
      rw [houtcome] at h
      exact absurd h nofun
    | ok blocks =>
      rw [houtcome] at h
      exact ⟨blocks, rfl, Option.some.inj h⟩
  obtain ⟨-, hdrift⟩ := drift_eq_empty_iff Sample.reading
  refine ⟨hsame, ?_, hother, ?_⟩
  · obtain ⟨blocks, houtcome, htext⟩ := hblocks hsame
    obtain ⟨found, hfound, hempty⟩ := hdrift _ blocks houtcome
    rw [hfound, hempty.mpr htext]
  · obtain ⟨blocks, houtcome, htext⟩ := hblocks hother
    obtain ⟨found, hfound, hempty⟩ := hdrift _ blocks houtcome
    refine ⟨found, hfound, fun hnone => ?_⟩
    have hequal := htext.symm.trans (hempty.mp hnone)
    exact absurd hequal (by decide)

end ExpectFile
