import ExpectFile.Proofs.Reprint.Substituting
import ExpectFile.Proofs.Marker.Classification
import ExpectFile.Proofs.Partition.Completeness
import ExpectFile.Proofs.Reprint.ReadingBack
import ExpectFile.Proofs.Source.Outcomes

/-!
# What a statement records

A patch of a partition records a kind of block and a text. Where the statement stands makes no
difference to that, so it is a function of its expression.

* **`Statement.marker?_moved`** — the same statement elsewhere has the same marker.
* **`Statement.patch?_cases`** — the patch of a statement that can be read.
-/

namespace ExpectFile

open Grammar Outcome Extent

/-! ## What a statement records -/

/-- A marker in another place. -/
def Marker.moved (extent : Extent) : Marker → Marker
  | .assertion content => .assertion { content with extent }
  | .directive name text _ => .directive name text extent
  | .part name label _ => .part name label extent

/-- What a patch records: a kind of block and a text, or nothing. -/
def Patch.record? (patch : Patch) : Option (BlockKind × String) :=
  patch.block?.map fun block => (block.kind, block.text)

/-- What a marker records, wherever it stands. -/
theorem Patch.record?_moved (marker : Marker) (extent extent' : Extent) :
    (ofMarker Expectation.recorded extent' (marker.moved extent')).record?
      = (ofMarker Expectation.recorded extent marker).record? := by
  cases marker with
  | assertion content =>
    have hsame : Expectation.recorded { content with extent := extent' }
        = Expectation.recorded content := rfl
    rw [Marker.moved, ofMarker, ofMarker, hsame]
    cases Expectation.recorded content <;> rfl
  | directive | part => rfl

namespace Statement

variable {v : Vocabulary} {expression : Option Expr} {contents : String} {statement : Statement}

/-- A statement is read in the same way wherever it stands, where nothing is quoted. -/
theorem marker?_moved (expression : Option Expr) (v : Vocabulary) (line line' : Nat)
    (extent extent' : Extent) :
    marker? ⟨expression, line', extent'⟩ v none
      = (marker? ⟨expression, line, extent⟩ v none).map (Option.map (Marker.moved extent')) := by
  have hexcerpt :
      excerpt ⟨expression, line', extent'⟩ none = excerpt ⟨expression, line, extent⟩ none := by
    cases expression <;> rfl
  have hmalformed : ∀ name what, malformed ⟨expression, line', extent'⟩ none name what
      = malformed ⟨expression, line, extent⟩ none name what := by
    intro name what
    rw [malformed, malformed, hexcerpt]
  have hcall : namedCall? ⟨expression, line', extent'⟩ = namedCall? ⟨expression, line, extent⟩ :=
    rfl
  unfold marker?
  simp only [hcall, hexcerpt, hmalformed]
  split
  · rfl
  split
  · rfl
  split
  · split <;> rfl
  split
  · rfl
  split
  · rfl
  split
  · rfl
  split <;> rfl

/-- Whether a statement calls a name of the vocabulary. -/
def calls (v : Vocabulary) (expression : Option Expr) : Bool :=
  match namedCall? ⟨expression, 0, .empty 0⟩ with
  | some (name, _, _) => v.contains name
  | none => false

/-- What a statement records, wherever it stands. -/
def record? (v : Vocabulary) (expression : Option Expr) : Option (BlockKind × String) :=
  match marker? ⟨expression, 0, .empty 0⟩ v none with
  | .ok (some marker) => (Patch.ofMarker Expectation.recorded (.empty 0) marker).record?
  | _ => none

/-- **What is found of a statement that can be read**: a patch that records what the statement does,
if it calls a name of the vocabulary. -/
theorem patch?_cases {found : Option Marker} (h : statement.marker? v (some contents) = .ok found) :
    calls v statement.expression = false ∧ statement.patch? v Expectation.recorded contents = none
      ∨ calls v statement.expression = true
        ∧ ∃ patch, statement.patch? v Expectation.recorded contents = some patch
          ∧ patch.extent = statement.extent
          ∧ patch.record? = record? v statement.expression := by
  have hsame : namedCall? ⟨statement.expression, 0, .empty 0⟩ = statement.namedCall? := rfl
  cases hcalls : calls v statement.expression with
  | false =>
    have hordinary : statement.marker? v (some contents) = .ok none := by
      unfold calls at hcalls
      rw [hsame] at hcalls
      unfold marker?
      split at hcalls
      next name positional named hcall =>
        rw [hcall]
        simp [hcalls]
      next hcall => rw [hcall]
    refine .inl ⟨rfl, ?_⟩
    unfold patch?
    rw [hordinary]
  | true =>
    unfold calls at hcalls
    rw [hsame] at hcalls
    split at hcalls
    next name positional named hcall =>
      rcases marker?_cases (namedCall?_eq_some_iff.mp hcall)
          (Vocabulary.contains_iff.mp hcalls) with
        ⟨-, herror⟩ | ⟨-, what, -, herror⟩ | ⟨-, -, text, marker, -, hmarker, -⟩
      · exact absurd (h.symm.trans herror) nofun
      · exact absurd (h.symm.trans herror) nofun
      · refine .inr ⟨rfl, Patch.ofMarker Expectation.recorded statement.extent marker, ?_,
          Patch.extent_ofMarker _ _ _, ?_⟩
        · unfold patch?
          rw [hmarker]
        -- the record does not depend on where the statement is, nor on the text it is quoted from
        · have hmoved := marker?_moved statement.expression v statement.line 0 statement.extent
            (.empty 0)
          rw [show (⟨statement.expression, statement.line, statement.extent⟩ : Statement)
            = statement from rfl,
            marker?_eq_ok_congr hmarker none] at hmoved
          unfold record?
          rw [hmoved]
          exact (Patch.record?_moved marker _ _).symm
    next => exact absurd hcalls nofun

end Statement

end ExpectFile
