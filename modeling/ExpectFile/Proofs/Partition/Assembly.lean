import ExpectFile.Partition
import ExpectFile.Proofs.Marker.Reading
import ExpectFile.Proofs.Span.Tiling

/-!
# Partitions in one pass

A partition records spans, fills the gaps, joins neighbours and cuts the text up. Here it is shown
equal to something simpler: the blocks are read off the *patches* of the file, the places where a
marker stands, with the code between them cut out of the text (`assembled`). Statements that are
ordinary code do not occur in it at all.

* **`scan_eq_ok`** — what the recorded spans have to do with the patches.
* **`materialize_of_tiles`** — the blocks of a tiling are assembled from its patches. The argument
  is an induction on the tiling; that no two verbatim spans touch is what makes every piece of code
  one block.
* **`partition_eq_ok_iff`** — a partition succeeds iff every statement can be read and the
  statements are in order, and then its blocks are the assembled ones.
-/

namespace ExpectFile

open Extent Outcome

/-! ## Patches -/

/-- A place of the file that a marker takes up, and what comes to stand there. -/
inductive Patch where
  | directive (extent : Extent) (text : String)
  | assertion (extent : Extent) (text : String)
  | removal (extent : Extent)
deriving DecidableEq

namespace Patch

/-- The place of a patch. -/
def extent : Patch → Extent
  | directive e _ => e
  | assertion e _ => e
  | removal e => e

/-- The block that comes to stand in the place; none if the marker vanishes. -/
def block? : Patch → Option Block
  | directive e text => some ⟨.directive, text, e⟩
  | assertion e text => some ⟨.assertion, text, e⟩
  | removal _ => none

/-- The patch of a marker in a place: a directive keeps its text, an assertion becomes its
rendering, and a part declaration vanishes, as does an assertion without a rendering. -/
def ofMarker (render : Rendering) (extent : Extent) : Marker → Patch
  | .assertion content =>
    match render content with
    | some text => assertion extent text
    | none => removal extent
  | .directive _ text _ => directive extent text
  | .part _ _ _ => removal extent

/-- A patch as a partition records it. -/
def span (patch : Patch) : Span :=
  match patch.block? with
  | some block => .rendered patch.extent block
  | none => .dropped patch.extent

theorem extent_span (patch : Patch) : patch.span.extent = patch.extent := by
  cases patch <;> rfl

theorem extent_ofMarker (render : Rendering) (extent : Extent) (marker : Marker) :
    (ofMarker render extent marker).extent = extent := by
  cases marker with
  | assertion content =>
    rw [ofMarker]
    cases render content <;> rfl
  | directive name text _ => rfl
  | part name label _ => rfl

theorem extent_of_block? {patch : Patch} {block : Block} (h : patch.block? = some block) :
    block.extent = patch.extent := by
  cases patch <;> cases h <;> rfl

theorem kind_of_block? {patch : Patch} {block : Block} (h : patch.block? = some block) :
    block.kind ≠ .code := by
  cases patch <;> cases h <;> nofun

end Patch

/-- The patch of a statement; none if it is ordinary code. -/
def Statement.patch? (v : Vocabulary) (render : Rendering) (contents : String)
    (statement : Statement) : Option Patch :=
  match statement.marker? v (some contents) with
  | .ok (some marker) => some (Patch.ofMarker render statement.extent marker)
  | _ => none

/-- The patches of a file, in the order of its statements. -/
def patches (v : Vocabulary) (render : Rendering) (contents : String) (phrases : List Phrase) :
    List Patch :=
  (phrases.flatMap (·.statements)).filterMap (Statement.patch? v render contents)

/-- A patch stands where its statement stands. -/
theorem Statement.extent_of_patch? {v : Vocabulary} {render : Rendering} {contents : String}
    {statement : Statement} {patch : Patch} (h : statement.patch? v render contents = some patch) :
    patch.extent = statement.extent := by
  unfold patch? at h
  split at h
  · rename_i marker _
    rw [← Option.some.inj h, Patch.extent_ofMarker]
  · exact absurd h nofun

/-- So patches are in order where statements are. -/
theorem ordered_patches {v : Vocabulary} {render : Rendering} {contents : String}
    {phrases : List Phrase} {start stop : Nat}
    (h : Ordered start ((phrases.flatMap (·.statements)).map (·.extent)) stop) :
    Ordered start ((patches v render contents phrases).map Patch.extent) stop := by
  refine h.sublist ?_
  unfold patches
  induction phrases.flatMap (·.statements) with
  | nil => exact .slnil
  | cons statement rest ih =>
    cases hpatch : statement.patch? v render contents with
    | none =>
      rw [List.filterMap_cons_none hpatch]
      exact .cons _ ih
    | some patch =>
      rw [List.filterMap_cons_some hpatch, List.map_cons, List.map_cons,
        Statement.extent_of_patch? hpatch]
      exact .cons_cons _ ih

/-! ## Assembly -/

/-- The block of code between two offsets; none if there is nothing between them. -/
def codeBetween (contents : String) (start stop : Nat) : List Block :=
  if h : start < stop then
    let e : Extent := ⟨start, stop, Nat.le_of_lt h⟩
    [⟨.code, String.ofList (e.cut contents.toList), e⟩]
  else []

/-- The blocks of a text from an offset on: the patches, and the code in front of each of them and
behind the last. -/
def assembled (contents : String) : (start : Nat) → List Patch → List Block
  | start, [] => codeBetween contents start contents.length
  | start, patch :: rest =>
    codeBetween contents start patch.extent.start ++ patch.block?.toList
      ++ assembled contents patch.extent.stop rest

theorem codeBetween_self (contents : String) (offset : Nat) :
    codeBetween contents offset offset = [] := by
  unfold codeBetween
  rw [dif_neg (Nat.lt_irrefl offset)]

/-- Where the first patch, or the end of the text, is at `middle`, the code in front of it can be
split off. -/
theorem assembled_eq_append {contents : String} {patches : List Patch} {middle : Nat}
    (h : ((patches.head?.map (·.extent.start)).getD contents.length) = middle) (start : Nat) :
    assembled contents start patches
      = codeBetween contents start middle ++ assembled contents middle patches := by
  cases patches with
  | nil =>
    obtain rfl : contents.length = middle := h
    rw [assembled, assembled, codeBetween_self, List.append_nil]
  | cons patch rest =>
    obtain rfl : patch.extent.start = middle := h
    rw [assembled, assembled, codeBetween_self, List.nil_append, List.append_assoc]

/-! ## Scanning -/

/-- What is recorded for a marker is its patch. -/
theorem Patch.span_ofMarker (render : Rendering) (extent : Extent) (marker : Marker) :
    (ofMarker render extent marker).span = Span.ofMarker render extent (some marker) := by
  cases marker with
  | assertion content =>
    rw [ofMarker, Span.ofMarker]
    cases render content <;> rfl
  | directive name text _ => rfl
  | part name label _ => rfl

theorem Patch.isVerbatim_span (patch : Patch) : patch.span.isVerbatim = false := by
  cases patch <;> rfl

/-- The statements are read one by one. A scan gives each its span, in place. -/
theorem exists_scan_eq_ok {v : Vocabulary} {render : Rendering} {contents : String}
    {statements : List Statement} :
    (∃ spans, scan v render contents statements = .ok spans)
      ↔ ∀ statement ∈ statements, ∃ marker, statement.marker? v (some contents) = .ok marker := by
  unfold scan
  rw [exists_mapM_eq_ok]
  simp only [exists_bind_pure_eq_ok]

/-- **The spans of a scan.** They stand where the statements stand, and those that are not verbatim
are the patches. -/
theorem scan_eq_ok {v : Vocabulary} {render : Rendering} {contents : String}
    {statements : List Statement} {spans : List Span}
    (h : scan v render contents statements = .ok spans) :
    spans.map Span.extent = statements.map (·.extent)
      ∧ Span.marks spans
        = (statements.filterMap (Statement.patch? v render contents)).map Patch.span := by
  have hall := mapM_eq_ok.mp h
  clear h
  induction hall with
  | nil => exact ⟨rfl, rfl⟩
  | @cons statement span statements spans hspan _ ih =>
    obtain ⟨hextents, hmarks⟩ := ih
    obtain ⟨found, hfound, hpure⟩ := bind_eq_ok.mp hspan
    obtain rfl : Span.ofMarker render statement.extent found = span := Except.ok.inj hpure
    cases found with
    -- ordinary code gives a verbatim span and no patch
    | none =>
      have hcode : statement.patch? v render contents = none := by
        rw [Statement.patch?, hfound]
      refine ⟨?_, ?_⟩
      · rw [List.map_cons, List.map_cons, hextents]
        rfl
      · rw [List.filterMap_cons_none hcode, ← hmarks]
        rfl
    | some marker =>
      have hpatch : statement.patch? v render contents
          = some (Patch.ofMarker render statement.extent marker) := by
        rw [Statement.patch?, hfound]
      rw [← Patch.span_ofMarker]
      refine ⟨?_, ?_⟩
      · rw [List.map_cons, List.map_cons, hextents, Patch.extent_span, Patch.extent_ofMarker]
      · rw [List.filterMap_cons_some hpatch, List.map_cons,
          Span.marks_cons_mark (Patch.isVerbatim_span _), hmarks]

/-! ## Blocks of a tiling -/

/-- A verbatim span within the text is the code between its bounds. -/
theorem block?_verbatim {e : Extent} {contents : String} (h : e.stop ≤ contents.length) :
    ∃ block, Span.block? contents (.verbatim e) = .ok block
      ∧ block.toList = codeBetween contents e.start e.stop := by
  have hle : e.start ≤ e.stop := e.start_le_stop
  simp only [Span.block?, codeBetween, Extent.isEmpty, beq_iff_eq]
  by_cases hempty : e.start = e.stop
  · rw [if_pos hempty, dif_neg (by omega)]
    exact ⟨none, rfl, rfl⟩
  · rw [if_neg hempty, dif_pos (by omega), slice_eq_ok h]
    exact ⟨_, rfl, rfl⟩

theorem block?_span (contents : String) (patch : Patch) :
    Span.block? contents patch.span = .ok patch.block? := by
  cases patch <;> rfl

theorem materialize_cons {contents : String} {span : Span} {spans : List Span}
    {block : Option Block} {blocks : List Block} (hblock : span.block? contents = .ok block)
    (hblocks : materialize contents spans = .ok blocks) :
    materialize contents (span :: spans) = .ok (block.toList ++ blocks) := by
  obtain ⟨found, hfound, hpure⟩ := bind_eq_ok.mp hblocks
  obtain rfl : found.filterMap id = blocks := Except.ok.inj hpure
  unfold materialize
  rw [List.mapM_cons, hblock, hfound]
  cases block <;> rfl

/-- **The blocks of a tiling are assembled from its patches.** Induction on the tiling. A verbatim
span is followed by a patch or by nothing, so the code in front of the next patch is its text. -/
theorem materialize_of_tiles {contents : String} {tiles : List Span} {start : Nat}
    {patches : List Patch} (htiles : Tiles start (tiles.map Span.extent) contents.length)
    (hmarks : Span.marks tiles = patches.map Patch.span) (hapart : Span.Coalesced tiles) :
    materialize contents tiles = .ok (assembled contents start patches) := by
  induction tiles generalizing start patches with
  | nil =>
    obtain rfl : start = contents.length := htiles
    obtain rfl : patches = [] := List.map_eq_nil_iff.mp hmarks.symm
    rw [assembled, codeBetween_self]
    rfl
  | cons span rest ih =>
    have hrest : Span.Coalesced rest := List.IsChain.tail hapart
    rcases span.verbatim_or_mark with ⟨e, rfl⟩ | hspan
    · obtain ⟨rfl, htail⟩ := htiles
      have hinside : e.stop ≤ contents.length := htail.ordered.le
      obtain ⟨block, hblock, hcode⟩ := block?_verbatim hinside
      rw [materialize_cons hblock (ih htail hmarks hrest), hcode]
      refine congrArg Except.ok (assembled_eq_append ?_ e.start).symm
      -- what follows the verbatim span is the first patch or the end
      cases rest with
      | nil =>
        obtain rfl : patches = [] := List.map_eq_nil_iff.mp hmarks.symm
        exact htail.symm
      | cons next others =>
        have hnext : next.isVerbatim = false := by
          have hnot := (List.isChain_cons_cons.mp hapart).1
          cases hn : next.isVerbatim with
          | false => rfl
          | true => exact absurd ⟨rfl, hn⟩ hnot
        rw [Span.marks_verbatim, Span.marks_cons_mark hnext] at hmarks
        cases patches with
        | nil => exact absurd hmarks nofun
        | cons patch patches =>
          obtain ⟨rfl, -⟩ := List.cons.inj hmarks
          have htouch : patch.span.extent.start = e.stop := htail.1
          rw [Patch.extent_span] at htouch
          exact htouch
    · rw [Span.marks_cons_mark hspan] at hmarks
      cases patches with
      | nil => exact absurd hmarks nofun
      | cons patch patches =>
        obtain ⟨rfl, hothers⟩ := List.cons.inj hmarks
        obtain ⟨hstart, htail⟩ := htiles
        rw [Patch.extent_span] at hstart htail
        rw [materialize_cons (block?_span contents patch) (ih htail hothers hrest), assembled,
          hstart, codeBetween_self, List.nil_append]

/-! ## The whole -/

/-- Where every statement can be read and the statements are in order, both passes succeed and the
blocks are assembled from the patches. -/
theorem partition_of_ordered {v : Vocabulary} {render : Rendering} {contents : String}
    {phrases : List Phrase}
    (hread : ∀ statement ∈ phrases.flatMap (·.statements),
      ∃ marker, statement.marker? v (some contents) = .ok marker)
    (hordered : Ordered 0 ((phrases.flatMap (·.statements)).map (·.extent)) contents.length) :
    partition v render contents phrases
      = .ok (assembled contents 0 (patches v render contents phrases)) := by
  obtain ⟨spans, hscan⟩ :
      ∃ spans, scan v render contents (phrases.flatMap (·.statements)) = .ok spans :=
    exists_scan_eq_ok.mpr hread
  obtain ⟨hextents, hmarks⟩ := scan_eq_ok hscan
  rw [← hextents] at hordered
  obtain ⟨tiles, counts, htile, htiles, hsame, hapart⟩ := Span.tileCounted_of_ordered hordered
  have hblocks := materialize_of_tiles htiles (hsame.trans hmarks) hapart
  unfold partition partitionCounted
  rw [hscan]
  show Except.map _ (Span.tileCounted contents.length spans >>= _) = _
  rw [htile]
  show Except.map _ (materialize contents tiles >>= _) = _
  rw [hblocks]
  rfl

/-- Nothing else can be partitioned. -/
theorem ordered_of_partition {v : Vocabulary} {render : Rendering} {contents : String}
    {phrases : List Phrase} {blocks : List Block}
    (h : partition v render contents phrases = .ok blocks) :
    (∀ statement ∈ phrases.flatMap (·.statements),
        ∃ marker, statement.marker? v (some contents) = .ok marker)
      ∧ Ordered 0 ((phrases.flatMap (·.statements)).map (·.extent)) contents.length := by
  obtain ⟨⟨_, counts⟩, hcounted, -⟩ := map_eq_ok.mp h
  obtain ⟨spans, hscan, hcounted⟩ := bind_eq_ok.mp hcounted
  obtain ⟨tiles, htile, -⟩ := bind_eq_ok.mp hcounted
  refine ⟨exists_scan_eq_ok.mp ⟨spans, hscan⟩, ?_⟩
  rw [← (scan_eq_ok hscan).1]
  exact Span.ordered_of_tileCounted htile

/-- **A partition in one pass.** It succeeds iff every statement can be read and the statements are
in order within the text, and its blocks are then assembled from the patches. -/
theorem partition_eq_ok_iff {v : Vocabulary} {render : Rendering} {contents : String}
    {phrases : List Phrase} {blocks : List Block} :
    partition v render contents phrases = .ok blocks
      ↔ (∀ statement ∈ phrases.flatMap (·.statements),
          ∃ marker, statement.marker? v (some contents) = .ok marker)
        ∧ Ordered 0 ((phrases.flatMap (·.statements)).map (·.extent)) contents.length
        ∧ blocks = assembled contents 0 (patches v render contents phrases) := by
  constructor
  · intro h
    obtain ⟨hread, hordered⟩ := ordered_of_partition h
    rw [partition_of_ordered hread hordered] at h
    exact ⟨hread, hordered, (Except.ok.inj h).symm⟩
  · rintro ⟨hread, hordered, rfl⟩
    exact partition_of_ordered hread hordered

/-! ## The sample file -/

/-- What a partition makes of the sample file. -/
def Sample.blocks : List Block :=
  [⟨.code, "\nx = 1\n", .ofLength 9 7⟩,
    ⟨.assertion, "1", .ofLength 16 11⟩,
    ⟨.code, "\n", .ofLength 27 1⟩,
    ⟨.code, "\n", .ofLength 36 1⟩,
    ⟨.directive, "t", .ofLength 37 8⟩]

theorem Sample.partition_eq_blocks :
    partition .standard Expectation.recorded Sample.text Sample.phrases = .ok Sample.blocks := rfl

end ExpectFile
