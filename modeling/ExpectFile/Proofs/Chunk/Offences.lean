import ExpectFile.Proofs.Chunk.Faults
import ExpectFile.Proofs.Chunk.Walk
import Mathlib.Data.List.Induction

/-!
# When splitting fails

Whether the splitter can take a phrase is decided by the phrases in front of it, and no state is
needed to say how: a statement that is alone in its phrase can be read, a part declaration has no
code right in front of it, and an assertion does not start in front of the last boundary
(`Fits`). A phrase that does not fit offends in one way only, and each way has its fault
(`Offends`).

* **`fits_iff`** — a phrase fits iff it does not offend.
* **`Splitter.step_eq_error_iff`** — a step fails iff the phrase offends, and with that fault.
* **`splittable_concat`**, **`firstOffence_concat`** — phrases are judged one after the other.
* **`Splitter.walk_outcome`** — a walk, by induction from the last phrase on.
-/

namespace ExpectFile

open Outcome

/-! ## Phrases that fit -/

/-- A phrase that can follow the phrases `before`. -/
structure Fits (context : SplitContext) (start : Int) (before : List Phrase) (phrase : Phrase) :
    Prop where
  /-- A statement that is alone in the phrase can be read. -/
  readable : ∀ statement, phrase.statements = [statement] →
    ∃ found, statement.marker? context.vocabulary context.contents = .ok found
  /-- In front of a part declaration, empty phrases apart, there is no code. -/
  label_in_place : (phrase.label? context).isSome → endsInCode context before = false
  /-- From the last boundary to an assertion there is an extent. -/
  closing_in_reach : ∀ closing, phrase.closing? context = some closing →
    0 ≤ lastBoundary context start before
      ∧ lastBoundary context start before ≤ closing.extent.start

/-- Every phrase fits behind those in front of it. -/
def Splittable (context : SplitContext) (start : Int) (phrases : List Phrase) : Prop :=
  ∀ before phrase after, phrases = before ++ phrase :: after → Fits context start before phrase

/-- The ways in which a phrase cannot follow the phrases `before`, each with its fault. -/
inductive Offends (context : SplitContext) (start : Int) (before : List Phrase)
    (phrase : Phrase) : Fault → Prop where
  /-- The statement of the phrase cannot be read. -/
  | unreadable (statement : Statement) (fault : Fault) (honly : phrase.statements = [statement])
      (hread : statement.marker? context.vocabulary context.contents = .error fault) :
      Offends context start before phrase fault
  /-- The phrase is a part declaration, and stands behind code. -/
  | misplaced (statement : Statement) (name label : String) (extent : Extent)
      (honly : phrase.statements = [statement])
      (hread : statement.marker? context.vocabulary context.contents
        = .ok (some (.part name label extent)))
      (hcode : endsInCode context before = true) :
      Offends context start before phrase
        (.misplacedPart extent context.sourceName statement.line)
  /-- The phrase is an assertion, and the last boundary is no offset or stands behind it. -/
  | outOfReach (statement : Statement) (closing : Assertion)
      (honly : phrase.statements = [statement])
      (hread : statement.marker? context.vocabulary context.contents
        = .ok (some (.assertion closing)))
      (hbounds : lastBoundary context start before < 0
        ∨ closing.extent.start < lastBoundary context start before) :
      Offends context start before phrase
        (.invalidExtent (lastBoundary context start before) closing.extent.start)

section

variable {context : SplitContext} {start : Int} {before phrases : List Phrase} {phrase : Phrase}
  {statement : Statement} {fault : Fault}

namespace Phrase

theorem marker?_of_statements (h : phrase.statements = [statement]) (v : Vocabulary)
    (contents : Option String) : phrase.marker? v contents = statement.marker? v contents := by
  unfold marker? only?
  rw [h]

/-- What a phrase closes with is an assertion that is alone in it. -/
theorem closing?_eq_some_iff {closing : Assertion} :
    phrase.closing? context = some closing
      ↔ ∃ statement, phrase.statements = [statement]
        ∧ statement.marker? context.vocabulary context.contents
          = .ok (some (.assertion closing)) := by
  constructor
  · intro h
    unfold closing? at h
    split at h
    · rename_i found hread
      obtain rfl : found = closing := Option.some.inj h
      obtain ⟨statement, honly, hsame⟩ := eq_single_of_marker? (by rw [hread]; nofun)
      exact ⟨statement, honly, hsame.symm.trans hread⟩
    · exact absurd h nofun
  · rintro ⟨statement, honly, hread⟩
    rw [closing?, marker?_of_statements honly, hread]

/-- What gives a label is a part declaration that is alone in its phrase. -/
theorem isSome_label?_iff :
    (phrase.label? context).isSome
      ↔ ∃ statement name label extent, phrase.statements = [statement]
        ∧ statement.marker? context.vocabulary context.contents
          = .ok (some (.part name label extent)) := by
  constructor
  · intro h
    unfold label? at h
    split at h
    · rename_i name label extent hread
      obtain ⟨statement, honly, hsame⟩ := eq_single_of_marker? (by rw [hread]; nofun)
      exact ⟨statement, name, label, extent, honly, hsame.symm.trans hread⟩
    · exact absurd h nofun
  · rintro ⟨statement, name, label, extent, honly, hread⟩
    rw [label?, marker?_of_statements honly, hread]
    rfl

end Phrase

/-- **A phrase fits iff it does not offend.** -/
theorem fits_iff : Fits context start before phrase
    ↔ ∀ fault, ¬Offends context start before phrase fault := by
  constructor
  · intro hfits fault hoffends
    cases hoffends with
    | unreadable statement fault honly hread =>
      obtain ⟨found, hfound⟩ := hfits.readable statement honly
      rw [hread] at hfound
      exact absurd hfound nofun
    | misplaced statement name label extent honly hread hcode =>
      have hlabel : (phrase.label? context).isSome :=
        Phrase.isSome_label?_iff.mpr ⟨statement, name, label, extent, honly, hread⟩
      rw [hfits.label_in_place hlabel] at hcode
      exact absurd hcode nofun
    | outOfReach statement closing honly hread hbounds =>
      obtain ⟨hzero, hle⟩ := hfits.closing_in_reach closing
        (Phrase.closing?_eq_some_iff.mpr ⟨statement, honly, hread⟩)
      omega
  · intro hnone
    -- each of the three demands fails with an offence of its own
    refine ⟨fun statement honly => ?_, fun hlabel => ?_, fun closing hclosing => ?_⟩
    · cases hread : statement.marker? context.vocabulary context.contents with
      | ok found => exact ⟨found, rfl⟩
      | error fault => exact absurd (.unreadable statement fault honly hread) (hnone fault)
    · obtain ⟨statement, name, label, extent, honly, hread⟩ := Phrase.isSome_label?_iff.mp hlabel
      cases hcode : endsInCode context before with
      | false => rfl
      | true => exact absurd (.misplaced statement name label extent honly hread hcode) (hnone _)
    · obtain ⟨statement, honly, hread⟩ := Phrase.closing?_eq_some_iff.mp hclosing
      by_contra hbounds
      exact hnone _ (.outOfReach statement closing honly hread (by omega))

/-! ## One phrase after the other -/

/-- The ways to take a list with one more member apart. -/
theorem concat_eq_append_cons_iff {α : Type} {xs before after : List α} {x y : α} :
    xs ++ [x] = before ++ y :: after
      ↔ (before = xs ∧ y = x ∧ after = [])
        ∨ ∃ middle, xs = before ++ y :: middle ∧ after = middle ++ [x] := by
  constructor
  · intro h
    rcases after.eq_nil_or_concat with rfl | ⟨middle, last, rfl⟩
    · obtain ⟨hxs, hx⟩ := List.append_inj' h rfl
      exact Or.inl ⟨hxs.symm, (List.cons.inj hx).1.symm, rfl⟩
    · rw [List.concat_eq_append, ← List.cons_append, ← List.append_assoc] at h
      obtain ⟨hxs, hx⟩ := List.append_inj' h rfl
      refine Or.inr ⟨middle, hxs, ?_⟩
      rw [List.concat_eq_append, (List.cons.inj hx).1]
  · rintro (⟨rfl, rfl, rfl⟩ | ⟨middle, rfl, rfl⟩)
    · rfl
    · rw [List.append_assoc, List.cons_append]

theorem splittable_nil : Splittable context start [] := by
  intro before phrase after h
  exact absurd h (by simp)

theorem splittable_concat :
    Splittable context start (phrases ++ [phrase])
      ↔ Splittable context start phrases ∧ Fits context start phrases phrase := by
  constructor
  · intro h
    refine ⟨fun before other after hsplit => ?_, h phrases phrase [] rfl⟩
    exact h before other (after ++ [phrase])
      (concat_eq_append_cons_iff.mpr (Or.inr ⟨after, hsplit, rfl⟩))
  · rintro ⟨hphrases, hphrase⟩ before other after hsplit
    rcases concat_eq_append_cons_iff.mp hsplit with ⟨rfl, rfl, -⟩ | ⟨middle, hmiddle, -⟩
    · exact hphrase
    · exact hphrases before other middle hmiddle

/-- The first phrase that does not fit behind those in front of it offends with the fault. -/
def FirstOffence (context : SplitContext) (start : Int) (phrases : List Phrase) (fault : Fault) :
    Prop :=
  ∃ before phrase after, phrases = before ++ phrase :: after
    ∧ Splittable context start before ∧ Offends context start before phrase fault

theorem firstOffence_concat :
    FirstOffence context start (phrases ++ [phrase]) fault
      ↔ FirstOffence context start phrases fault
        ∨ Splittable context start phrases ∧ Offends context start phrases phrase fault := by
  constructor
  · rintro ⟨before, other, after, hsplit, hbefore, hoffends⟩
    rcases concat_eq_append_cons_iff.mp hsplit with ⟨rfl, rfl, -⟩ | ⟨middle, hmiddle, -⟩
    · exact Or.inr ⟨hbefore, hoffends⟩
    · exact Or.inl ⟨before, other, middle, hmiddle, hbefore, hoffends⟩
  · rintro (⟨before, other, after, hsplit, hbefore, hoffends⟩ | ⟨hphrases, hoffends⟩)
    · exact ⟨before, other, after ++ [phrase],
        concat_eq_append_cons_iff.mpr (Or.inr ⟨after, hsplit, rfl⟩), hbefore, hoffends⟩
    · exact ⟨phrases, phrase, [], rfl, hphrases, hoffends⟩

namespace Splitter

variable {state : Splitter}

/-! ## One step -/

theorem lineOf_of_statements {statement : Statement} (honly : phrase.statements = [statement]) :
    lineOf phrase = statement.line := by
  rw [lineOf, honly]
  rfl

/-- A step that fails has an offence as its reason. -/
theorem offends_of_step_eq_error (hknows : state.Knows context start before)
    (h : step context state phrase = .error fault) : Offends context start before phrase fault := by
  have hstart : state.start = lastBoundary context start before := hknows.start_eq
  have hgathered : state.code.isEmpty = !endsInCode context before := hknows.gathered
  rcases step_eq_error h with hread | ⟨closing, hread, hextent⟩ |
    ⟨name, label, extent, hread, hcode, rfl⟩ <;>
  obtain ⟨statement, honly, hsame⟩ := Phrase.eq_single_of_marker? (by rw [hread]; nofun) <;>
  rw [hsame] at hread
  · exact .unreadable statement fault honly hread
  · rw [hstart] at hextent
    unfold Extent.ofBounds at hextent
    split at hextent
    · exact absurd hextent nofun
    · rename_i hnone
      rw [← Except.error.inj hextent]
      exact .outOfReach statement closing honly hread (Extent.ofBounds?_eq_none_iff.mp hnone)
  · have hends : endsInCode context before = true := by
      rw [List.isEmpty_eq_false_iff.mpr hcode] at hgathered
      simpa using hgathered
    rw [lineOf_of_statements honly]
    exact .misplaced statement name label extent honly hread hends

/-- A phrase that offends cannot be taken. -/
theorem step_eq_error_of_offends (hknows : state.Knows context start before)
    (h : Offends context start before phrase fault) : step context state phrase = .error fault := by
  have hfilled {statement : Statement} (honly : phrase.statements = [statement]) :
      ¬phrase.isEmpty = true := by
    simp [Phrase.isEmpty, honly]
  cases h with
  | unreadable statement fault honly hread =>
    rw [step, if_neg (hfilled honly), Phrase.marker?_of_statements honly, hread]
    rfl
  | misplaced statement name label extent honly hread hcode =>
    have hwaits : ¬state.code.isEmpty = true := by
      rw [hknows.gathered, hcode]
      nofun
    rw [step, if_neg (hfilled honly), Phrase.marker?_of_statements honly, hread]
    show (if state.code.isEmpty = true then _ else _) = _
    rw [if_neg hwaits, lineOf_of_statements honly]
    rfl
  | outOfReach statement closing honly hread hbounds =>
    have hnone : Extent.ofBounds state.start closing.extent.start
        = .error (.invalidExtent (lastBoundary context start before) closing.extent.start) := by
      rw [Extent.ofBounds, hknows.start_eq, Extent.ofBounds?_eq_none_iff.mpr hbounds]
    rw [step, if_neg (hfilled honly), Phrase.marker?_of_statements honly, hread]
    show (state.close context closing >>= _) = _
    rw [close, hnone]
    rfl

/-- **A step fails iff the phrase offends**, and with the fault of the offence. What the splitter
knows is all that counts of the phrases behind it. -/
theorem step_eq_error_iff (hknows : state.Knows context start before) :
    step context state phrase = .error fault ↔ Offends context start before phrase fault :=
  ⟨offends_of_step_eq_error hknows, step_eq_error_of_offends hknows⟩

/-- A step succeeds iff the phrase fits. -/
theorem exists_step_iff (hknows : state.Knows context start before) :
    (∃ taken, step context state phrase = .ok taken) ↔ Fits context start before phrase := by
  rw [fits_iff]
  simp only [← step_eq_error_iff hknows]
  cases step context state phrase <;> simp

/-! ## A walk -/

/-- **A walk fails with the first offence, and succeeds iff all phrases fit.** Induction on the
phrases from the last one on: in front of it the splitter knows what the others say. -/
theorem walk_outcome (context : SplitContext) (start : Int) (phrases : List Phrase) :
    ((∃ walked, walk context ⟨none, start, []⟩ phrases = .ok walked)
        ↔ Splittable context start phrases)
      ∧ ∀ fault, walk context ⟨none, start, []⟩ phrases = .error fault
        ↔ FirstOffence context start phrases fault := by
  induction phrases using List.reverseRecOn with
  | nil =>
    refine ⟨⟨fun _ => splittable_nil, fun _ => ⟨_, rfl⟩⟩, fun fault => ⟨nofun, ?_⟩⟩
    rintro ⟨before, phrase, after, hsplit, -⟩
    exact absurd hsplit (by simp)
  | append_singleton phrases phrase ih =>
    obtain ⟨hok, herror⟩ := ih
    rw [walk_concat]
    constructor
    -- what fits is said of the phrases in front; the walk through them has led the splitter to a
    -- state that knows it
    · rw [splittable_concat, ← hok]
      constructor
      · rintro ⟨walked, h⟩
        obtain ⟨⟨chunks, middle⟩, hwalk, h⟩ := bind_eq_ok.mp h
        obtain ⟨taken, hstep, -⟩ := bind_eq_ok.mp h
        exact ⟨⟨_, hwalk⟩, (exists_step_iff (knows_of_walk hwalk)).mp ⟨taken, hstep⟩⟩
      · rintro ⟨⟨⟨chunks, middle⟩, hwalk⟩, hfits⟩
        obtain ⟨taken, hstep⟩ := (exists_step_iff (knows_of_walk hwalk)).mpr hfits
        exact ⟨_, bind_eq_ok.mpr ⟨_, hwalk, bind_eq_ok.mpr ⟨taken, hstep, rfl⟩⟩⟩
    · intro fault
      rw [firstOffence_concat, ← herror, ← hok, bind_eq_error]
      refine or_congr_right ?_
      constructor
      · rintro ⟨⟨chunks, middle⟩, hwalk, h⟩
        have hstep : step context middle phrase = .error fault := bind_pure_eq_error.mp h
        exact ⟨⟨_, hwalk⟩, (step_eq_error_iff (knows_of_walk hwalk)).mp hstep⟩
      · rintro ⟨⟨⟨chunks, middle⟩, hwalk⟩, hoffends⟩
        have hstep := (step_eq_error_iff (knows_of_walk hwalk)).mpr hoffends
        exact ⟨_, hwalk, bind_pure_eq_error.mpr hstep⟩

end Splitter

end

/-! ## The whole file -/

/-- **When splitting fails.** A file can be split iff every statement that is alone in its phrase
can be read, no part declaration has code as the nearest phrase in front of it, empty ones apart,
and every assertion starts at or behind the last boundary, which is an offset. Otherwise the fault
is that of the first phrase to break one of these rules: that of the statement, that of a misplaced
part declaration with its place and line, or that of an extent that does not exist. -/
theorem split_outcome (context : SplitContext) (start : Int) (phrases : List Phrase) :
    ((∃ result, split context start phrases = .ok result) ↔ Splittable context start phrases)
      ∧ ∀ fault, split context start phrases = .error fault
        ↔ FirstOffence context start phrases fault := by
  obtain ⟨hok, herror⟩ := Splitter.walk_outcome context start phrases
  unfold split
  rw [Splitter.run_eq_map_walk]
  constructor
  · rw [← hok]
    cases Splitter.walk context ⟨none, start, []⟩ phrases <;> simp [Except.map]
  · intro fault
    rw [← herror, map_eq_error]

end ExpectFile
