import ExpectFile.Proofs.Chunk.Offences
import ExpectFile.Proofs.Partition.Faults

/-!
# The splitter and the partition reject the same statements

Both stop at a statement that is no proper marker, but they look at places at different times: the
partition reads all statements first, the splitter judges the place of a phrase as soon as it has
read it. So what the splitter rejects for its arguments or its name the partition rejects as well;
what the partition rejects may come too late for the splitter, which has stopped in front of it at a
phrase in the wrong place.

* **`Splittable.readable`** — in front of the first offence every statement can be read.
* **`FirstUnreadable.exists_phrase`** — the first unreadable statement, found among the phrases.
* **`misplaced_of_offends`** — a phrase that can be read offends by its place only.
-/

namespace ExpectFile

open Outcome

/-- The fault is that of one of the statements: it cannot be read. -/
def RaisedByReading (v : Vocabulary) (contents : String) (statements : List Statement)
    (fault : Fault) : Prop :=
  ∃ statement ∈ statements, statement.marker? v (some contents) = .error fault

/-- The phrase can be read, and the fault is about its place: it is a part declaration behind code,
or an assertion up to which there is no extent. -/
inductive Misplaced (context : SplitContext) (phrase : Phrase) : Fault → Prop where
  | part (statement : Statement) (name label : String) (extent : Extent)
      (honly : phrase.statements = [statement])
      (hread : statement.marker? context.vocabulary context.contents
        = .ok (some (.part name label extent))) :
      Misplaced context phrase (.misplacedPart extent context.sourceName statement.line)
  | assertion (statement : Statement) (closing : Assertion) (low : Int)
      (honly : phrase.statements = [statement])
      (hread : statement.marker? context.vocabulary context.contents
        = .ok (some (.assertion closing))) :
      Misplaced context phrase (.invalidExtent low closing.extent.start)

section

variable {context : SplitContext} {start : Int} {contents : String} {before phrases : List Phrase}
  {phrase : Phrase} {fault : Fault} {v : Vocabulary}

/-! ## From phrases to statements -/

/-- A phrase of at most one statement is empty or has exactly one. -/
theorem Phrase.statements_of_length_le_one (h : phrase.statements.length ≤ 1) :
    phrase.statements = [] ∨ ∃ statement, phrase.statements = [statement] := by
  match hstatements : phrase.statements with
  | [] => exact Or.inl rfl
  | [statement] => exact Or.inr ⟨statement, rfl⟩
  | first :: second :: others =>
    rw [hstatements] at h
    simp at h

/-- What can be split can be read. -/
theorem Splittable.readable (hcontents : context.contents = some contents)
    (hsingle : ∀ phrase ∈ phrases, phrase.statements.length ≤ 1)
    (h : Splittable context start phrases) :
    Readable context.vocabulary contents (phrases.flatMap (·.statements)) := by
  intro statement hmem
  obtain ⟨phrase, hphrase, hin⟩ := List.mem_flatMap.mp hmem
  obtain ⟨before, after, hsplit⟩ := List.append_of_mem hphrase
  have honly : phrase.statements = [statement] := by
    rcases Phrase.statements_of_length_le_one (hsingle phrase hphrase) with hnil | ⟨other, hother⟩
    · rw [hnil] at hin
      exact absurd hin List.not_mem_nil
    · rw [hother, List.mem_singleton] at hin
      rw [hother, hin]
  have hfound := (h before phrase after hsplit).readable statement honly
  rwa [hcontents] at hfound

/-- **The phrase of the first unreadable statement.** Where no phrase has more than one statement,
the statements in front of it are those of the phrases in front of its own. Induction on the
phrases; empty ones hand the search on. -/
theorem FirstUnreadable.exists_phrase
    (hsingle : ∀ phrase ∈ phrases, phrase.statements.length ≤ 1)
    (h : FirstUnreadable v contents (phrases.flatMap (·.statements)) fault) :
    ∃ before phrase after statement, phrases = before ++ phrase :: after
      ∧ Readable v contents (before.flatMap (·.statements))
      ∧ phrase.statements = [statement]
      ∧ statement.marker? v (some contents) = .error fault := by
  induction phrases with
  | nil =>
    obtain ⟨before, statement, after, hsplit, -⟩ := h
    simp at hsplit
  | cons phrase rest ih =>
    obtain ⟨hphrase, hrest⟩ := List.forall_mem_cons.mp hsingle
    rw [List.flatMap_cons] at h
    rcases Phrase.statements_of_length_le_one hphrase with hnil | ⟨first, hfirst⟩
    · rw [hnil, List.nil_append] at h
      obtain ⟨before, found, after, statement, rfl, hbefore, honly, hfault⟩ := ih hrest h
      refine ⟨phrase :: before, found, after, statement, rfl, ?_, honly, hfault⟩
      rwa [List.flatMap_cons, hnil, List.nil_append]
    · rw [hfirst, List.singleton_append] at h
      obtain ⟨front, statement, back, hsplit, hfront, hfault⟩ := h
      cases front with
      | nil =>
        -- the statement of this very phrase is the first that cannot be read
        obtain ⟨rfl, -⟩ := List.cons.inj hsplit
        exact ⟨[], phrase, rest, first, rfl, fun _ hmem => absurd hmem List.not_mem_nil, hfirst,
          hfault⟩
      | cons read front =>
        obtain ⟨rfl, htail⟩ := List.cons.inj hsplit
        obtain ⟨hread, hreadable⟩ := List.forall_mem_cons.mp hfront
        obtain ⟨before, found, after, other, rfl, hbefore, honly, hother⟩ :=
          ih hrest ⟨front, statement, back, htail, hreadable, hfault⟩
        refine ⟨phrase :: before, found, after, other, rfl, ?_, honly, hother⟩
        rw [List.flatMap_cons, hfirst, List.singleton_append]
        exact List.forall_mem_cons.mpr ⟨hread, hbefore⟩

/-! ## Offences by place -/

/-- A phrase whose statements can be read offends by its place. -/
theorem misplaced_of_offends (hcontents : context.contents = some contents)
    (hread : Readable context.vocabulary contents phrase.statements)
    (h : Offends context start before phrase fault) : Misplaced context phrase fault := by
  cases h with
  | unreadable statement _ honly hfault =>
    obtain ⟨found, hfound⟩ := hread statement (by rw [honly]; exact List.mem_singleton_self _)
    rw [hcontents, hfound] at hfault
    exact absurd hfault nofun
  | misplaced statement name label extent honly hpart hcode =>
    exact .part statement name label extent honly hpart
  | outOfReach statement closing honly hclosing hbounds =>
    exact .assertion statement closing _ honly hclosing

/-- The fault of a place is never the fault of a reading. -/
theorem Misplaced.not_raisedByReading {statements : List Statement}
    (h : Misplaced context phrase fault) : ¬RaisedByReading v contents statements fault := by
  rintro ⟨statement, -, hfault⟩
  -- readings fail with a fault of markers, or behind the end of the text
  rcases Statement.fault_of_marker?_eq_error hfault with hmarker | rfl
  · cases h <;> cases hmarker
  · cases h

/-- So a phrase that offends with the fault of a reading cannot be read itself. -/
theorem Offends.marker?_eq_error {statements : List Statement}
    (hcontents : context.contents = some contents)
    (h : Offends context start before phrase fault)
    (hraised : RaisedByReading v contents statements fault) :
    ∃ statement, phrase.statements = [statement]
      ∧ statement.marker? context.vocabulary (some contents) = .error fault := by
  cases h with
  | unreadable statement _ honly hfault =>
    rw [hcontents] at hfault
    exact ⟨statement, honly, hfault⟩
  | misplaced statement name label extent honly hpart hcode =>
    have hplace : Misplaced context phrase
        (.misplacedPart extent context.sourceName statement.line) :=
      .part statement name label extent honly hpart
    exact absurd hraised hplace.not_raisedByReading
  | outOfReach statement closing honly hclosing hbounds =>
    have hplace : Misplaced context phrase
        (.invalidExtent (lastBoundary context start before) closing.extent.start) :=
      .assertion statement closing _ honly hclosing
    exact absurd hraised hplace.not_raisedByReading

/-- An offence in front of other phrases is an offence with them. -/
theorem FirstOffence.append (h : FirstOffence context start before fault)
    (others : List Phrase) : FirstOffence context start (before ++ others) fault := by
  obtain ⟨front, phrase, back, rfl, hfront, hoffends⟩ := h
  refine ⟨front, phrase, back ++ others, ?_, hfront, hoffends⟩
  rw [List.append_assoc, List.cons_append]

end

/-! ## Agreement -/

/-- **The splitter and the partition agree on what they reject.** No phrase may have more than one
statement, and both are given the same text to quote from. If the splitter fails because a statement
cannot be read, the partition fails with the same fault. If the partition fails so, then with the
fault of the first statement that cannot be read; and the splitter fails with the same fault, or has
failed already at a phrase in front of that statement which can be read and stands in the wrong
place. -/
theorem rejections_agree {context : SplitContext} {contents : String} {phrases : List Phrase}
    (start : Int) (hcontents : context.contents = some contents)
    (hsingle : ∀ phrase ∈ phrases, phrase.statements.length ≤ 1) :
    (∀ fault, split context start phrases = .error fault →
        RaisedByReading context.vocabulary contents (phrases.flatMap (·.statements)) fault →
          partition context.vocabulary context.render contents phrases = .error fault)
      ∧ ∀ fault, partition context.vocabulary context.render contents phrases = .error fault →
        RaisedByReading context.vocabulary contents (phrases.flatMap (·.statements)) fault →
          ∃ before phrase after statement, phrases = before ++ phrase :: after
            ∧ Readable context.vocabulary contents (before.flatMap (·.statements))
            ∧ phrase.statements = [statement]
            ∧ statement.marker? context.vocabulary (some contents) = .error fault
            ∧ (split context start phrases = .error fault
              ∨ ∃ front other back earlier, before = front ++ other :: back
                ∧ Misplaced context other earlier
                ∧ split context start phrases = .error earlier) := by
  obtain ⟨-, hsplit⟩ := split_outcome context start phrases
  constructor
  · intro fault hfault hraised
    obtain ⟨before, phrase, after, rfl, hbefore, hoffends⟩ := (hsplit fault).mp hfault
    obtain ⟨statement, honly, hstatement⟩ := hoffends.marker?_eq_error hcontents hraised
    have hfront : Readable context.vocabulary contents (before.flatMap (·.statements)) :=
      hbefore.readable hcontents fun other hmem => hsingle other (List.mem_append_left _ hmem)
    refine partition_eq_error_iff.mpr (Or.inl
      ⟨before.flatMap (·.statements), statement, after.flatMap (·.statements), ?_, hfront,
        hstatement⟩)
    rw [List.flatMap_append, List.flatMap_cons, honly, List.singleton_append]
  · intro fault hfault hraised
    have hfirst : FirstUnreadable context.vocabulary contents (phrases.flatMap (·.statements))
        fault := by
      rcases partition_eq_error_iff.mp hfault with hunread | ⟨hread, -⟩
      · exact hunread
      · -- with the fault of a reading at hand, not every statement can be read
        obtain ⟨statement, hmem, hstatement⟩ := hraised
        obtain ⟨found, hfound⟩ := hread statement hmem
        rw [hfound] at hstatement
        exact absurd hstatement nofun
    obtain ⟨before, phrase, after, statement, rfl, hbefore, honly, hstatement⟩ :=
      hfirst.exists_phrase hsingle
    refine ⟨before, phrase, after, statement, rfl, hbefore, honly, hstatement, ?_⟩
    obtain ⟨hwhole, hpart⟩ := split_outcome context start before
    cases hresult : split context start before with
    | ok done =>
      -- the splitter comes as far as the statement
      left
      have hread : statement.marker? context.vocabulary context.contents = .error fault := by
        rw [hcontents, hstatement]
      exact (hsplit fault).mpr ⟨before, phrase, after, rfl, hwhole.mp ⟨done, hresult⟩,
        .unreadable statement fault honly hread⟩
    | error earlier =>
      right
      have hoffence := (hpart earlier).mp hresult
      obtain ⟨front, other, back, rfl, -, hoffends⟩ := id hoffence
      have hreadable : Readable context.vocabulary contents other.statements := by
        intro read hmem
        refine hbefore read (List.mem_flatMap.mpr ⟨other, ?_, hmem⟩)
        exact List.mem_append_right front List.mem_cons_self
      exact ⟨front, other, back, earlier, rfl, misplaced_of_offends hcontents hreadable hoffends,
        (hsplit earlier).mpr (hoffence.append (phrase :: after))⟩

namespace Sample

/-- An assertion with two texts. -/
def doubled : Phrase := .single (.calling "expect" ["1", "2"] 4 (.ofLength 28 8))

/-- Code, and behind it a part declaration that no assertion makes room for. -/
def crowded : List Phrase :=
  [assignment, .single (.calling "part" ["q"] 3 (.ofLength 16 11))]

/-- What is wrong with the assertion; the text is quoted from where it is said to stand. -/
def doubledFault : Fault := .malformedMarker "expect" .severalArguments "expect()"

/-- What is wrong with the part declaration. -/
def crowdedFault : Fault := .misplacedPart (.ofLength 16 11) "sample" 3

end Sample

/-- Behind code, the splitter and the partition reject an assertion with two texts alike. Behind a
misplaced part declaration the partition still does, when the splitter has stopped in front. -/
theorem rejections_agree_sample :
    split Sample.context 0 [Sample.assignment, Sample.doubled] = .error Sample.doubledFault
      ∧ partition .standard Expectation.recorded Sample.text [Sample.assignment, Sample.doubled]
        = .error Sample.doubledFault
      ∧ partition .standard Expectation.recorded Sample.text (Sample.crowded ++ [Sample.doubled])
        = .error Sample.doubledFault
      ∧ split Sample.context 0 (Sample.crowded ++ [Sample.doubled]) = .error Sample.crowdedFault
      ∧ ∃ before phrase after, Sample.crowded ++ [Sample.doubled] = before ++ phrase :: after
        ∧ ∃ other ∈ before, Misplaced Sample.context other Sample.crowdedFault := by
  have hraised (phrases : List Phrase) :
      RaisedByReading .standard Sample.text ((phrases ++ [Sample.doubled]).flatMap (·.statements))
        Sample.doubledFault :=
    ⟨.calling "expect" ["1", "2"] 4 (.ofLength 28 8), by simp [Sample.doubled, Phrase.single], rfl⟩
  have hsplit : split Sample.context 0 [Sample.assignment, Sample.doubled]
      = .error Sample.doubledFault := rfl
  have hpartition : partition .standard Expectation.recorded Sample.text
      (Sample.crowded ++ [Sample.doubled]) = .error Sample.doubledFault := rfl
  obtain ⟨hforth, -⟩ := @rejections_agree Sample.context Sample.text
    [Sample.assignment, Sample.doubled] 0 rfl (by decide)
  obtain ⟨-, hback⟩ := @rejections_agree Sample.context Sample.text
    (Sample.crowded ++ [Sample.doubled]) 0 rfl (by decide)
  have hstopped : split Sample.context 0 (Sample.crowded ++ [Sample.doubled])
      = .error Sample.crowdedFault := rfl
  refine ⟨hsplit, hforth _ hsplit (hraised [Sample.assignment]), hpartition, hstopped, ?_⟩
  obtain ⟨before, phrase, after, -, heq, -, -, -, hagree⟩ :=
    hback _ hpartition (hraised Sample.crowded)
  refine ⟨before, phrase, after, heq, ?_⟩
  rw [hstopped] at hagree
  rcases hagree with hsame | ⟨front, other, back, earlier, rfl, hplace, hearlier⟩
  · cases hsame
  · rw [← Except.error.inj hearlier] at hplace
    exact ⟨other, List.mem_append_right front List.mem_cons_self, hplace⟩

end ExpectFile
