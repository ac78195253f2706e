import ExpectFile.Output
import ExpectFile.Proofs.Expectation.Trimming
import ExpectFile.Proofs.Marker.Reading
import ExpectFile.Proofs.Phrase.Placement
import ExpectFile.Proofs.Reprint.Calls

/-!
# Printed markers read back

A directive or an assertion that is printed under the names of the settings is read as what it was,
whatever its text: the printed text parses, to one statement that takes up all of it, and the
statement is a marker with that text.

* **`phrasesOf_call`** — a printed call is a statement that takes up the whole text.
* **`read_printed`** — and the marker of its block, where nothing is set.
-/

namespace ExpectFile

open Extent Grammar Outcome

/-! ## One statement -/

/-- **A printed call is read as one statement**, the call that was meant. -/
theorem phrasesOf_call {name sourceName text : String} (hname : Reprint.Callable name)
    (hsource : '\x00' ∉ sourceName.toList) (htext : '\x00' ∉ text.toList) :
    phrasesOf sourceName (String.ofList (Reprint.call name text))
      = .ok [.single (.calling name [text] 1
          (.ofLength 0 (String.ofList (Reprint.call name text)).length))] := by
  have hparse : parseSource sourceName (String.ofList (Reprint.call name text))
      = .ok [⟨some (.call (.name name) [.constant (.text text false)] []), ⟨1, 0⟩,
          Position.afterText ⟨1, 0⟩ (String.ofList (Reprint.call name text)).toList, none⟩] := by
    rw [parseSource_eq_ok_iff, String.toList_ofList]
    exact ⟨hsource, Reprint.null_not_mem_call hname htext, Reprint.parseStatements_call hname text⟩
  have hreturn : '\r' ∉ (String.ofList (Reprint.call name text)).toList := by
    rw [String.toList_ofList]
    exact Reprint.return_not_mem_call hname text
  have hphrases := Phrase.ofParsed_single (String.ofList (Reprint.call name text))
    (some (.call (.name name) [.constant (.text text false)] []))
  rw [lineFeeds_of_not_mem hreturn] at hphrases
  have hextent : Extent.ofLength 0 (String.ofList (Reprint.call name text)).length
      = ⟨0, (String.ofList (Reprint.call name text)).length, Nat.zero_le _⟩ :=
    ext_bounds rfl (Nat.zero_add _)
  rw [hextent]
  unfold phrasesOf
  exact bind_eq_ok.mpr ⟨_, hparse, hphrases⟩

/-! ## Markers -/

/-- The settings when no key is set. -/
def Settings.standard : Settings where
  tolerant := ["expect"]
  exact := ["expect_exact"]
  directives := ["org"]
  parts := ["part"]
  sourceName := "<toplevel>"
  printDirective := "org"
  printAssertion := "expect"

/-- With no key set, the settings are those. -/
theorem Settings.read_nil : Settings.read [] = .ok .standard := rfl

/-- Their names make the vocabulary that nothing is chosen for. -/
theorem Settings.vocabulary_standard : Settings.standard.vocabulary = .ok .standard := rfl

/-- How a text is read when nothing is chosen. -/
def Reading.standard : Reading := ⟨.standard, none, Expectation.recorded, none⟩

/-- So the vocabulary is the same whether names are classified or not. -/
theorem Reading.vocabularyFor_standard (classifies : Bool) :
    (Reading.standard.vocabularyFor classifies).outcome = .ok .standard := by
  cases classifies <;> rfl

namespace Reprint

variable {names : Names} {b : Block}

/-- What a block is printed as. -/
def printed (names : Names) (b : Block) : String := String.ofList (block names b)

/-- A directive is printed as a call. -/
theorem printed_directive (hkind : b.kind = .directive) :
    printed names b = String.ofList (call names.directive b.text) := by
  unfold printed block
  rw [hkind]

/-- So is an assertion, with a name of its own. -/
theorem printed_assertion (hkind : b.kind = .assertion) :
    printed names b = String.ofList (call names.assertion b.text) := by
  unfold printed block
  rw [hkind]

end Reprint

/-- A call by the name of directives, with a text, is a directive. -/
theorem marker?_directive (text : String) (line : Nat) (extent : Extent)
    (contents : Option String) :
    (Statement.calling "org" [text] line extent).marker? .standard contents
      = .ok (some (.directive "org" text extent)) := rfl

/-- A call by the name of assertions, with a text, is a tolerant assertion. -/
theorem marker?_assertion (text : String) (line : Nat) (extent : Extent)
    (contents : Option String) :
    (Statement.calling "expect" [text] line extent).marker? .standard contents
      = .ok (some (.assertion ⟨"expect", .tolerant, some text, extent⟩)) := rfl

/-- **A printed marker reads back as the same marker.** Under the settings with nothing set, the
print of a directive or an assertion is one statement that takes up all of it. For a directive it is
a directive with the same text. For an assertion it is a tolerant assertion with the same text; what
that stands for is the trimmed text, and the text itself if some tolerant assertion stands for it.
-/
theorem read_printed {settings : Settings} {v : Vocabulary}
    (hsettings : Settings.read [] = .ok settings) (hv : settings.vocabulary = .ok v) {b : Block}
    (htext : '\x00' ∉ b.text.toList) {sourceName : String}
    (hsource : '\x00' ∉ sourceName.toList) (contents : Option String) :
    (b.kind = .directive → ∃ statement,
      phrasesOf sourceName (Reprint.printed (.ofChoice settings "" "") b)
          = .ok [.single statement]
        ∧ statement.extent
          = .ofLength 0 (Reprint.printed (.ofChoice settings "" "") b).length
        ∧ statement.marker? v contents
          = .ok (some (.directive settings.printDirective b.text statement.extent)))
      ∧ (b.kind = .assertion → ∃ statement assertion,
        phrasesOf sourceName (Reprint.printed (.ofChoice settings "" "") b)
            = .ok [.single statement]
          ∧ statement.extent
            = .ofLength 0 (Reprint.printed (.ofChoice settings "" "") b).length
          ∧ statement.marker? v contents = .ok (some (.assertion assertion))
          ∧ assertion.strictness = .tolerant
          ∧ assertion.payload = some b.text
          ∧ Expectation.recorded assertion
            = some (String.ofList (Expectation.trimmed b.text.toList))
          ∧ ∀ other : Assertion, other.strictness = .tolerant →
              Expectation.recorded other = some b.text →
              Expectation.recorded assertion = some b.text) := by
  obtain rfl : Settings.standard = settings := Except.ok.inj hsettings
  obtain rfl : Vocabulary.standard = v := Except.ok.inj hv
  constructor
  · intro hkind
    rw [Reprint.printed_directive hkind]
    exact ⟨_, phrasesOf_call Reprint.callable_org hsource htext, rfl,
      marker?_directive b.text 1 _ contents⟩
  · intro hkind
    rw [Reprint.printed_assertion hkind]
    refine ⟨_, _, phrasesOf_call Reprint.callable_expect hsource htext, rfl,
      marker?_assertion b.text 1 _ contents, rfl, rfl, ?_, ?_⟩
    · exact Expectation.recorded_of_tolerant rfl rfl
    -- trimming what has been trimmed changes nothing
    · intro other htolerant hother
      rw [Expectation.recorded_of_tolerant rfl rfl,
        Expectation.trimmed_of_recorded htolerant hother]

/-- Quotation marks at the end and a carriage return are no obstacle, and neither is a backslash. -/
theorem read_printed_sample :
    ∃ statement assertion,
      phrasesOf "sample" "expect('\\r\\\\\"')" = .ok [.single statement]
        ∧ statement.marker? .standard none = .ok (some (.assertion assertion))
        ∧ assertion.payload = some "\r\\\"" := by
  have hsource : '\x00' ∉ "sample".toList := by decide
  have hprinted : Reprint.printed (.ofChoice .standard "" "") ⟨.assertion, "\r\\\"", .empty 0⟩
      = "expect('\\r\\\\\"')" := by decide
  obtain ⟨statement, assertion, hphrases, -, hmarker, -, hpayload, -⟩ :=
    (read_printed Settings.read_nil Settings.vocabulary_standard
      (b := ⟨.assertion, "\r\\\"", .empty 0⟩) (by decide) hsource none).2 rfl
  rw [hprinted] at hphrases
  exact ⟨statement, assertion, hphrases, hmarker, hpayload⟩

end ExpectFile
