import ExpectFile.Proofs.Grammar.Printing
import ExpectFile.Proofs.Marker.Reading

/-!
# Readings with and without a text to quote from

A fault of a marker quotes the statement: from the text, or, where there is none, as the printer
writes it. Either can fail, and then the reading fails with that fault in place of its own. None of
these faults is about the bounds of an extent.

* **`fault_of_excerpt_eq_error`** — why a statement cannot be quoted.
* **`Reads.ofMarker_or_excerpt`** — why it cannot be read.
-/

namespace ExpectFile.Statement

variable {statement : Statement} {v : Vocabulary} {contents : Option String} {fault : Fault}

/-- **A statement that cannot be quoted** lies outside the text, or cannot be printed. -/
theorem fault_of_excerpt_eq_error (h : statement.excerpt contents = .error fault) :
    Fault.OfPrinting fault
      ∨ ∃ text, contents = some text ∧ fault = .outsideText statement.extent text.length := by
  unfold excerpt at h
  split at h
  · rename_i text
    right
    unfold Extent.slice at h
    split at h
    · cases h
    · exact ⟨text, rfl, (Except.error.inj h).symm⟩
  · rename_i expression _
    exact Or.inl (Grammar.failsOnly_text expression fault h)
  · cases h

/-- **A statement that cannot be read** is no proper marker, or cannot be quoted. -/
theorem Reads.ofMarker_or_excerpt (h : statement.Reads contents (.error fault)) :
    Fault.OfMarker fault ∨ statement.excerpt contents = .error fault := by
  cases h with
  | conflicting excerpt _ => exact Or.inl (.conflicting excerpt)
  | unquotable _ hexcerpt => exact Or.inr hexcerpt
  | malformed name what =>
    unfold Statement.malformed
    split
    · rename_i excerpt _
      exact Or.inl (.malformed name what excerpt)
    · rename_i found hexcerpt
      exact Or.inr hexcerpt

/-- Reading a statement makes no extent. -/
theorem marker?_ne_invalidExtent (low high : Int) :
    statement.marker? v contents ≠ .error (.invalidExtent low high) := by
  intro h
  have hreads := reads_marker? statement v contents
  rw [h] at hreads
  rcases hreads.ofMarker_or_excerpt with hmarker | hexcerpt
  · cases hmarker
  · rcases fault_of_excerpt_eq_error hexcerpt with hprinting | ⟨text, -, houtside⟩
    · cases hprinting
    · cases houtside

end ExpectFile.Statement
