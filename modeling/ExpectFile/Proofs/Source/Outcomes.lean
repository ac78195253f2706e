import ExpectFile.Proofs.Outcome
import ExpectFile.Source

/-!
# Readings without their journals

What a reading of a source ends in does not depend on the notes it takes. Once its phrases and its
vocabulary are known, it ends as the partition or the splitting of the phrases does.

* **`Noted.outcome_bind`** — the outcome of a chain, from the outcomes of its links.
* **`outcome_partition`**, **`outcome_split`** — readings and the functions they call.
* **`exists_of_outcome_partition`** — what is known of a reading that has blocks.
-/

namespace ExpectFile

open Outcome

namespace Noted

variable {α β : Type}

theorem outcome_bind (first : Noted α) (next : α → Noted β) :
    (first >>= next).outcome = first.outcome >>= fun value => (next value).outcome := by
  show (first.andThen next).outcome = _
  unfold andThen
  cases first.outcome <;> rfl

/-- What comes before can be left out once it is known to succeed. -/
theorem outcome_bind_of_ok {first : Noted α} {value : α} (h : first.outcome = .ok value)
    (next : α → Noted β) : (first >>= next).outcome = (next value).outcome := by
  rw [outcome_bind, h]
  rfl

/-- The same for a first link that takes no notes. -/
theorem outcome_bind_liftM {first : Except Fault α} {value : α} (h : first = .ok value)
    (next : α → Noted β) : ((liftM first : Noted α) >>= next).outcome = (next value).outcome :=
  outcome_bind_of_ok h next

end Noted

namespace Reading

/-- A reading that can classify statements has a vocabulary in any case. -/
theorem exists_vocabularyFor {reading : Reading} {v : Vocabulary}
    (h : (reading.vocabularyFor true).outcome = .ok v) (classifies : Bool) :
    ∃ used, (reading.vocabularyFor classifies).outcome = .ok used := by
  cases classifies with
  | true => exact ⟨v, h⟩
  | false =>
    unfold vocabularyFor
    cases reading.vocabulary with
    | none => exact ⟨.standard, rfl⟩
    | some given => exact ⟨given, rfl⟩

/-- **The blocks of a reading** are those of its phrases. -/
theorem outcome_partition {reading : Reading} {contents : String} {phrases : List Phrase}
    {v : Vocabulary} (hphrases : phrasesOf reading.name contents = .ok phrases)
    (hvocabulary : (reading.vocabularyFor (phrases.any fun phrase => !phrase.isEmpty)).outcome
      = .ok v) :
    (reading.partition contents).outcome
      = ExpectFile.partition v reading.render contents phrases := by
  unfold partition
  rw [Noted.outcome_bind_liftM hphrases]
  unfold partitionPhrases
  rw [Noted.outcome_bind_of_ok hvocabulary, Noted.outcome_bind]
  unfold ExpectFile.partition
  show partitionCounted v reading.render contents phrases >>= _ = _
  cases partitionCounted v reading.render contents phrases <;> rfl

/-- A reading that has blocks has found phrases and a vocabulary, and the blocks are those of the
phrases. -/
theorem exists_of_outcome_partition {reading : Reading} {contents : String} {blocks : List Block}
    (h : (reading.partition contents).outcome = .ok blocks) :
    ∃ phrases v, phrasesOf reading.name contents = .ok phrases
      ∧ (reading.vocabularyFor (phrases.any fun phrase => !phrase.isEmpty)).outcome = .ok v
      ∧ ExpectFile.partition v reading.render contents phrases = .ok blocks := by
  have hchain := h
  unfold partition at hchain
  rw [Noted.outcome_bind] at hchain
  obtain ⟨phrases, hphrases, hrest⟩ := bind_eq_ok.mp hchain
  unfold partitionPhrases at hrest
  rw [Noted.outcome_bind] at hrest
  obtain ⟨v, hvocabulary, -⟩ := bind_eq_ok.mp hrest
  have hread : phrasesOf reading.name contents = .ok phrases := hphrases
  refine ⟨phrases, v, hread, hvocabulary, ?_⟩
  rw [← outcome_partition hread hvocabulary]
  exact h

/-- **The chunks of a reading** are those of its phrases. -/
theorem outcome_split {reading : Reading} {contents : String} {phrases : List Phrase}
    {v : Vocabulary} (hphrases : phrasesOf reading.name contents = .ok phrases)
    (hvocabulary : (reading.vocabularyFor (phrases.any fun phrase => phrase.only?.isSome)).outcome
      = .ok v) :
    (reading.split contents).outcome
      = ExpectFile.split ⟨reading.name, v, reading.render, some contents⟩ 0 phrases := by
  unfold split
  rw [Noted.outcome_bind_liftM hphrases]
  unfold splitPhrases
  rw [Noted.outcome_bind_of_ok hvocabulary, Noted.outcome_bind]
  show ExpectFile.split _ 0 phrases >>= _ = _
  cases ExpectFile.split ⟨reading.name, v, reading.render, some contents⟩ 0 phrases <;> rfl

end Reading

end ExpectFile
