import ExpectFile.Proofs.Partition.Assembly

/-!
# Ordinary statements are invisible

The blocks of a partition are made from the markers of a file and from its text. Where a parser cuts
the ordinary code into statements, and which of these it hands over at all, cannot be seen in them:
statements can be deleted from a partitioned file, and phrases that are empty then, without any
change to the blocks.

* **`Thinned.without`** — deleting from phrases is deleting from the statements of the file.
* **`Without.filterMap_eq`** — what is read off the members that stay does not change.
-/

namespace ExpectFile

/-! ## Deleting members of a list -/

/-- `Without p all kept`: `kept` is left of `all` when some members are deleted, each of which has
the property. -/
inductive Without {α : Type} (p : α → Prop) : List α → List α → Prop where
  | nil : Without p [] []
  | keep (x : α) {all kept : List α} (h : Without p all kept) : Without p (x :: all) (x :: kept)
  | delete {x : α} {all kept : List α} (hx : p x) (h : Without p all kept) :
      Without p (x :: all) kept

namespace Without

variable {α β : Type} {p : α → Prop} {all kept : List α}

/-- Nothing has to be deleted. -/
theorem refl (all : List α) : Without p all all := by
  induction all with
  | nil => exact .nil
  | cons x rest ih => exact .keep x ih

theorem sublist (h : Without p all kept) : kept.Sublist all := by
  induction h with
  | nil => exact .slnil
  | keep x _ ih => exact .cons_cons x ih
  | delete _ _ ih => exact .cons _ ih

/-- Two lists can be thinned one behind the other. -/
theorem append {more stay : List α} (h : Without p all kept) (hmore : Without p more stay) :
    Without p (all ++ more) (kept ++ stay) := by
  induction h with
  | nil => exact hmore
  | keep x _ ih => exact .keep x ih
  | delete hx _ ih => exact .delete hx ih

/-- A function that has nothing for the deleted members reads the same off both lists. -/
theorem filterMap_eq {f : α → Option β} (hf : ∀ x, p x → f x = none) (h : Without p all kept) :
    kept.filterMap f = all.filterMap f := by
  induction h with
  | nil => rfl
  | keep x _ ih => rw [List.filterMap_cons, List.filterMap_cons, ih]
  | delete hx _ ih => rw [List.filterMap_cons_none (hf _ hx), ih]

end Without

/-! ## Deleting statements from phrases -/

/-- The statement is ordinary code. -/
def Statement.Ordinary (v : Vocabulary) (contents : String) (statement : Statement) : Prop :=
  statement.marker? v (some contents) = .ok none

/-- `Thinned v contents phrases thinner`: ordinary statements have been deleted from the phrases,
and phrases without a statement that is left may have been deleted with them. What is left of a
phrase may be given any extent. -/
inductive Thinned (v : Vocabulary) (contents : String) : List Phrase → List Phrase → Prop where
  | nil : Thinned v contents [] []
  | keep {phrase left : Phrase} {phrases thinner : List Phrase}
      (h : Without (Statement.Ordinary v contents) phrase.statements left.statements)
      (hrest : Thinned v contents phrases thinner) :
      Thinned v contents (phrase :: phrases) (left :: thinner)
  | delete {phrase : Phrase} {phrases thinner : List Phrase}
      (h : Without (Statement.Ordinary v contents) phrase.statements [])
      (hrest : Thinned v contents phrases thinner) :
      Thinned v contents (phrase :: phrases) thinner

section

variable {v : Vocabulary} {render : Rendering} {contents : String} {phrases thinner : List Phrase}

theorem Thinned.refl (phrases : List Phrase) : Thinned v contents phrases phrases := by
  induction phrases with
  | nil => exact .nil
  | cons phrase rest ih => exact .keep (.refl _) ih

/-- The statements of a thinned file are those of the file, less ordinary ones. -/
theorem Thinned.without (h : Thinned v contents phrases thinner) :
    Without (Statement.Ordinary v contents) (phrases.flatMap (·.statements))
      (thinner.flatMap (·.statements)) := by
  induction h with
  | nil => exact .nil
  | keep h _ ih => exact h.append ih
  | delete h _ ih => exact h.append ih

/-- Ordinary code is no place for a patch. -/
theorem Statement.Ordinary.patch?_eq_none {statement : Statement}
    (h : statement.Ordinary v contents) : statement.patch? v render contents = none := by
  unfold Statement.patch?
  rw [h]

/-- So thinning leaves the patches of a file as they are. -/
theorem Thinned.patches_eq (h : Thinned v contents phrases thinner) :
    patches v render contents thinner = patches v render contents phrases :=
  h.without.filterMap_eq fun _ hordinary => hordinary.patch?_eq_none

/-! ## The blocks -/

/-- What remains after thinning can still be partitioned, into the same blocks. -/
theorem Thinned.partition_eq {blocks : List Block} (hthin : Thinned v contents phrases thinner)
    (h : partition v render contents phrases = .ok blocks) :
    partition v render contents thinner = .ok blocks := by
  obtain ⟨hread, hordered, rfl⟩ := partition_eq_ok_iff.mp h
  have hsub : (thinner.flatMap (·.statements)).Sublist (phrases.flatMap (·.statements)) :=
    hthin.without.sublist
  refine partition_eq_ok_iff.mpr ⟨?_, ?_, ?_⟩
  · intro statement hmem
    exact hread statement (hsub.subset hmem)
  · exact hordered.sublist (hsub.map _)
  · rw [hthin.patches_eq]

/-- **Ordinary statements never influence the blocks.** Any of them can be deleted from a file that
can be partitioned, with the phrases that are empty then: the file can still be partitioned, and its
blocks are the very same. So two ways to cut the ordinary code of a file, which agree once ordinary
statements are deleted, lead to the same blocks. -/
theorem partition_eq_of_thinned {blocks : List Block}
    (h : partition v render contents phrases = .ok blocks) :
    (∀ thinner, Thinned v contents phrases thinner →
        partition v render contents thinner = .ok blocks)
      ∧ ∀ other found common, partition v render contents other = .ok found →
          Thinned v contents phrases common → Thinned v contents other common →
            found = blocks := by
  refine ⟨fun thinner hthin => hthin.partition_eq h, ?_⟩
  intro other found common hother hthin hthinother
  have hleft : partition v render contents common = .ok blocks := hthin.partition_eq h
  have hright : partition v render contents common = .ok found := hthinother.partition_eq hother
  rw [hleft] at hright
  exact (Except.ok.inj hright).symm

end

namespace Sample

/-- The markers of the sample file. -/
def onlyMarkers : List Phrase := phrases.take 1 ++ phrases.drop 2

/-- The sample file with its code cut in another way: a phrase of two statements, and a phrase for
the line break behind them, right in front of the assertion. -/
def recut : List Phrase :=
  phrases.take 1
    ++ [⟨.ofLength 10 5, [.plain 2 (.ofLength 10 1), .plain 2 (.ofLength 14 1)]⟩,
      .single (.plain 2 (.ofLength 15 1))]
    ++ phrases.drop 2

theorem thinned_phrases : Thinned .standard text phrases onlyMarkers :=
  have hplain : Statement.Ordinary .standard text (.plain 2 (.ofLength 10 5)) := rfl
  .keep (.refl _) (.delete (.delete hplain .nil) (.refl _))

theorem thinned_recut : Thinned .standard text recut onlyMarkers :=
  have hplain (place : Extent) : Statement.Ordinary .standard text (.plain 2 place) := rfl
  .keep (.refl _) (.delete (.delete (hplain _) (.delete (hplain _) .nil))
    (.delete (.delete (hplain _) .nil) (.refl _)))

end Sample

/-- The sample has the same blocks without its code, and with its code cut in another way. -/
theorem partition_eq_of_thinned_sample :
    partition .standard Expectation.recorded Sample.text Sample.phrases = .ok Sample.blocks
      ∧ partition .standard Expectation.recorded Sample.text Sample.onlyMarkers = .ok Sample.blocks
      ∧ ∃ found, partition .standard Expectation.recorded Sample.text Sample.recut = .ok found
        ∧ found = Sample.blocks := by
  obtain ⟨hthinner, hother⟩ := partition_eq_of_thinned Sample.partition_eq_blocks
  exact ⟨Sample.partition_eq_blocks, hthinner _ Sample.thinned_phrases,
    _, rfl, hother _ _ _ rfl Sample.thinned_phrases Sample.thinned_recut⟩

end ExpectFile
