import ExpectFile.Proofs.Chunk.Segments
import ExpectFile.Proofs.Partition.Completeness

/-!
# The splitter and the partition agree

A file can be split into chunks and partitioned into blocks. The one goes through its phrases, the
other through its statements; where no phrase has more than one statement, both come across the same
markers, in the same order, with the same texts and in the same places.

Each side is brought to one form, a list that is read off the statements one by one:

* **`filterMap_ofKind?_partition`** — the blocks of a kind are what the statements show.
* **`filterMap_expected?_split`**, **`filterMap_directive?_split`** — what the chunks expect, and the
  directives in the code.
* **`shown?_assertion`**, **`shown?_directive`** — statement by statement, the two forms are the same.
-/

namespace ExpectFile

/-! ## What is compared -/

/-- The text and the place of a block of a kind. -/
def Block.ofKind? (kind : BlockKind) (block : Block) : Option (String × Extent) :=
  if block.kind = kind then some (block.text, block.extent) else none

/-- What a chunk expects, and the place of the assertion that says so. -/
def Chunk.expected? (chunk : Chunk) : Option (String × Extent) :=
  chunk.expectation.map fun text => (text, chunk.closing.extent)

/-- The rendering of an assertion, and its place. -/
def Assertion.rendered? (render : Rendering) (assertion : Assertion) : Option (String × Extent) :=
  (render assertion).map fun text => (text, assertion.extent)

namespace Statement

/-- The assertion that a statement is. -/
def assertion? (v : Vocabulary) (contents : Option String) (statement : Statement) :
    Option Assertion :=
  match statement.marker? v contents with
  | .ok (some (.assertion content)) => some content
  | _ => none

/-- The text and the place of the directive that a statement is. -/
def directive? (v : Vocabulary) (contents : Option String) (statement : Statement) :
    Option (String × Extent) :=
  match statement.marker? v contents with
  | .ok (some (.directive _ text extent)) => some (text, extent)
  | _ => none

/-- The text and the place of the block that a partition makes of a statement, if it is of the
kind. -/
def shown? (v : Vocabulary) (render : Rendering) (contents : String) (kind : BlockKind)
    (statement : Statement) : Option (String × Extent) :=
  (statement.patch? v render contents).bind fun patch => patch.block?.bind (Block.ofKind? kind)

end Statement

/-! ## Statement by statement -/

namespace Statement

variable {v : Vocabulary} {render : Rendering} {contents : String} {statement : Statement}
  {found : Option Marker}

/-- The block of an assertion shows its rendering. -/
theorem shown?_assertion (h : statement.marker? v (some contents) = .ok found)
    (other : Option String) :
    statement.shown? v render contents .assertion
      = (statement.assertion? v other).bind (Assertion.rendered? render) := by
  have hother := marker?_eq_ok_congr h other
  cases found with
  | none => simp [shown?, patch?, assertion?, h, hother]
  | some marker =>
    have hplace : marker.extent = statement.extent := marker?_extent h
    cases marker with
    | assertion content =>
      have hcontent : content.extent = statement.extent := hplace
      cases hrender : render content <;>
        simp [shown?, patch?, assertion?, h, hother, Patch.ofMarker, Patch.block?, Block.ofKind?,
          Assertion.rendered?, hrender, hcontent]
    | directive name text extent =>
      simp [shown?, patch?, assertion?, h, hother, Patch.ofMarker, Patch.block?, Block.ofKind?]
    | part name label extent =>
      simp [shown?, patch?, assertion?, h, hother, Patch.ofMarker, Patch.block?]

/-- The block of a directive shows its text. -/
theorem shown?_directive (h : statement.marker? v (some contents) = .ok found)
    (other : Option String) :
    statement.shown? v render contents .directive = statement.directive? v other := by
  have hother := marker?_eq_ok_congr h other
  cases found with
  | none => simp [shown?, patch?, directive?, h, hother]
  | some marker =>
    have hplace : marker.extent = statement.extent := marker?_extent h
    cases marker with
    | assertion content =>
      cases hrender : render content <;>
        simp [shown?, patch?, directive?, h, hother, Patch.ofMarker, Patch.block?, Block.ofKind?,
          hrender]
    | directive name text extent =>
      have hextent : extent = statement.extent := hplace
      simp [shown?, patch?, directive?, h, hother, Patch.ofMarker, Patch.block?, Block.ofKind?,
        hextent]
    | part name label extent =>
      simp [shown?, patch?, directive?, h, hother, Patch.ofMarker, Patch.block?]

end Statement

/-! ## The partition's side -/

/-- The blocks of a kind other than code come from the patches. -/
theorem filterMap_ofKind?_assembled {kind : BlockKind} (hkind : kind ≠ .code) (contents : String)
    (start : Nat) (patches : List Patch) :
    (assembled contents start patches).filterMap (Block.ofKind? kind)
      = patches.filterMap fun patch => patch.block?.bind (Block.ofKind? kind) := by
  rw [← List.filterMap_filterMap, ← filter_assembled contents start patches, List.filterMap_filter]
  refine List.filterMap_congr fun block _ => ?_
  by_cases hcode : block.kind = .code
  · -- a block of code is of no kind that is asked for
    have hother : ¬block.kind = kind := fun heq => hkind (heq.symm.trans hcode)
    rw [Block.ofKind?, if_neg hother, ite_self]
  · simp [hcode]

/-- **The blocks of a kind, read off the statements.** -/
theorem filterMap_ofKind?_partition {v : Vocabulary} {render : Rendering} {contents : String}
    {phrases : List Phrase} {blocks : List Block} {kind : BlockKind} (hkind : kind ≠ .code)
    (h : partition v render contents phrases = .ok blocks) :
    blocks.filterMap (Block.ofKind? kind)
      = (phrases.flatMap (·.statements)).filterMap (Statement.shown? v render contents kind) := by
  obtain ⟨-, -, rfl⟩ := partition_eq_ok_iff.mp h
  rw [filterMap_ofKind?_assembled hkind, patches, List.filterMap_filterMap]
  rfl

/-! ## The splitter's side -/

/-- Statements that stand alone in their phrases are read phrase by phrase. -/
theorem filterMap_statements {β : Type} {phrases : List Phrase}
    (h : ∀ phrase ∈ phrases, phrase.statements.length ≤ 1) (f : Statement → Option β) :
    (phrases.flatMap (·.statements)).filterMap f
      = phrases.filterMap fun phrase => phrase.only?.bind f := by
  induction phrases with
  | nil => rfl
  | cons phrase rest ih =>
    obtain ⟨hphrase, hrest⟩ := List.forall_mem_cons.mp h
    rw [List.flatMap_cons, List.filterMap_append, ih hrest, List.filterMap_cons]
    -- the cases of `only?`, of which the last is excluded
    match hstatements : phrase.statements with
    | [] => simp [Phrase.only?, hstatements]
    | [statement] =>
      cases hf : f statement <;> simp [Phrase.only?, hstatements, hf]
    | first :: second :: others => simp [hstatements] at hphrase

variable {context : SplitContext} {start : Int} {phrases : List Phrase} {result : Split}

theorem Phrase.closing?_eq_bind (phrase : Phrase) :
    phrase.closing? context
      = phrase.only?.bind (Statement.assertion? context.vocabulary context.contents) := by
  unfold closing? marker?
  cases phrase.only? <;> rfl

/-- A phrase that is a directive gathers as code. -/
theorem Phrase.isCode_of_directive? {phrase : Phrase} {shown : String × Extent}
    (h : phrase.only?.bind (Statement.directive? context.vocabulary context.contents)
      = some shown) : phrase.isCode context = true := by
  obtain ⟨statement, honly, hdirective⟩ := Option.bind_eq_some_iff.mp h
  have hread : phrase.marker? context.vocabulary context.contents
      = statement.marker? context.vocabulary context.contents := by
    rw [marker?, honly]
  have hsome : phrase.isEmpty = false := by
    unfold isEmpty
    cases hstatements : phrase.statements with
    | nil => simp [only?, hstatements] at honly
    | cons first others => rfl
  unfold Statement.directive? at hdirective
  split at hdirective
  · rename_i name text extent hmarker
    rw [hmarker] at hread
    simp [isCode, hsome, closing?, label?, hread]
  · cases hdirective

/-- **What the chunks expect**, read off the phrases. -/
theorem filterMap_expected?_split (h : split context start phrases = .ok result) :
    result.chunks.filterMap Chunk.expected?
      = (phrases.filterMap (·.closing? context)).filterMap
          (Assertion.rendered? context.render) := by
  obtain ⟨hclosings, hrendered⟩ := Splitter.closings_run h
  rw [← hclosings, List.filterMap_map]
  refine List.filterMap_congr fun chunk hmem => ?_
  rw [Chunk.expected?, hrendered chunk hmem]
  rfl

/-- The code of the chunks and the code that is left are the phrases that gather. -/
theorem flatMap_code_split (h : split context start phrases = .ok result) :
    result.chunks.flatMap (·.code) ++ result.trailing.elim [] (·.code)
      = phrases.filter (·.isCode context) := by
  rw [← Splitter.flatten_pieces_split h]
  simp [Splitter.pieces, List.flatMap_def]

/-- **The directives in the code**, read off the phrases. -/
theorem filterMap_directive?_split (hsingle : ∀ phrase ∈ phrases, phrase.statements.length ≤ 1)
    (h : split context start phrases = .ok result) :
    ((result.chunks.flatMap (·.code) ++ result.trailing.elim [] (·.code)).flatMap
        (·.statements)).filterMap (Statement.directive? context.vocabulary context.contents)
      = (phrases.flatMap (·.statements)).filterMap
          (Statement.directive? context.vocabulary context.contents) := by
  have hcode : ∀ phrase ∈ phrases.filter (·.isCode context), phrase.statements.length ≤ 1 :=
    fun phrase hmem => hsingle phrase (List.mem_of_mem_filter hmem)
  rw [flatMap_code_split h, filterMap_statements hcode, filterMap_statements hsingle,
    List.filterMap_filter]
  refine List.filterMap_congr fun phrase _ => ?_
  -- what does not gather has no directive that could be missed
  cases hshown : phrase.only?.bind
      (Statement.directive? context.vocabulary context.contents) with
  | none => exact ite_self none
  | some shown => rw [if_pos (Phrase.isCode_of_directive? hshown)]

/-! ## Agreement -/

/-- **The splitter and the partition agree.** Where no phrase has more than one statement, what the
chunks expect and where is what the blocks of assertions show and where; and the blocks of
directives are the directives in the code of the chunks and in the code that is left. All lists are
in order. The splitter may have been given another text to quote from, or none. -/
theorem split_agrees_partition {contents : String} {blocks : List Block}
    (hsingle : ∀ phrase ∈ phrases, phrase.statements.length ≤ 1)
    (hsplit : split context start phrases = .ok result)
    (hpartition : partition context.vocabulary context.render contents phrases = .ok blocks) :
    result.chunks.filterMap Chunk.expected? = blocks.filterMap (Block.ofKind? .assertion)
      ∧ blocks.filterMap (Block.ofKind? .directive)
        = ((result.chunks.flatMap (·.code) ++ result.trailing.elim [] (·.code)).flatMap
            (·.statements)).filterMap
              (Statement.directive? context.vocabulary context.contents) := by
  obtain ⟨hread, -, -⟩ := partition_eq_ok_iff.mp hpartition
  have hassertion : BlockKind.assertion ≠ .code := nofun
  have hdirective : BlockKind.directive ≠ .code := nofun
  constructor
  · rw [filterMap_expected?_split hsplit, filterMap_ofKind?_partition hassertion hpartition]
    -- a phrase with one statement closes a chunk iff the statement shows an assertion
    calc (phrases.filterMap (·.closing? context)).filterMap (Assertion.rendered? context.render)
        = phrases.filterMap fun phrase => phrase.only?.bind fun statement =>
            (statement.assertion? context.vocabulary context.contents).bind
              (Assertion.rendered? context.render) := by
          simp only [List.filterMap_filterMap, Phrase.closing?_eq_bind, Option.bind_assoc]
      _ = (phrases.flatMap (·.statements)).filterMap fun statement =>
            (statement.assertion? context.vocabulary context.contents).bind
              (Assertion.rendered? context.render) := (filterMap_statements hsingle _).symm
      _ = (phrases.flatMap (·.statements)).filterMap
            (Statement.shown? context.vocabulary context.render contents .assertion) := by
          refine List.filterMap_congr fun statement hmem => ?_
          obtain ⟨found, hfound⟩ := hread statement hmem
          exact (Statement.shown?_assertion hfound context.contents).symm
  · rw [filterMap_ofKind?_partition hdirective hpartition,
      filterMap_directive?_split hsingle hsplit]
    refine List.filterMap_congr fun statement hmem => ?_
    obtain ⟨found, hfound⟩ := hread statement hmem
    exact Statement.shown?_directive hfound context.contents

/-- The sample has one assertion with a text and one directive, and both sides have them. -/
theorem split_agrees_partition_sample :
    (∀ phrase ∈ Sample.phrases, phrase.statements.length ≤ 1)
      ∧ split Sample.context 0 Sample.phrases = .ok Sample.divided
      ∧ partition .standard Expectation.recorded Sample.text Sample.phrases = .ok Sample.blocks
      ∧ Sample.divided.chunks.filterMap Chunk.expected? = [("1", .ofLength 16 11)]
      ∧ ((Sample.divided.chunks.flatMap (·.code) ++ [Sample.directive]).flatMap
          (·.statements)).filterMap (Statement.directive? .standard (some Sample.text))
        = [("t", .ofLength 37 8)] := by
  have hsingle : ∀ phrase ∈ Sample.phrases, phrase.statements.length ≤ 1 := by decide
  obtain ⟨hassertions, hdirectives⟩ :=
    split_agrees_partition hsingle Sample.split_eq_divided Sample.partition_eq_blocks
  exact ⟨hsingle, Sample.split_eq_divided, Sample.partition_eq_blocks, hassertions.trans rfl,
    hdirectives.symm.trans rfl⟩

end ExpectFile
