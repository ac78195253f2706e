import ExpectFile.Proofs.Phrase.Placement
import Mathlib.Data.List.Chain

/-!
# Which statements are read together

Statements whose places exist are grouped into phrases whatever else there is to say about them: no
order is asked for. What joins two neighbours is the text between them alone, one semicolon with
spaces and tabs around it, so a phrase is as long as such neighbours go on.

* **`joinedBySemicolon_iff`** — what joins two statements.
* **`isChain_numbered_runs`** — neighbours are in one run iff they are joined.
* **`ordered_of_mem_runs`** — the statements of a run are in order, so it has an extent.
* **`ofParsed_groups`** — the phrases of a text.
-/

namespace ExpectFile

open Extent Grammar Outcome

/-! ## Neighbours -/

/-- Between the end of one statement and the start of the other stand one semicolon and, around it,
spaces and tabs. -/
def SemicolonBetween (text : List Char) (first second : Statement) : Prop :=
  ∃ front before after back, text = front ++ (before ++ ';' :: after) ++ back
    ∧ front.length = first.extent.stop
    ∧ front.length + (before ++ ';' :: after).length = second.extent.start
    ∧ ∀ c ∈ before ++ after, c = ' ' ∨ c = '\t'

/-- A text holds one semicolon among blanks iff this is all that the blanks leave. -/
theorem filter_eq_semicolon_iff {gap : List Char} :
    (gap.filter fun c => c != ' ' && c != '\t') = [';']
      ↔ ∃ before after, gap = before ++ ';' :: after ∧ ∀ c ∈ before ++ after, c = ' ' ∨ c = '\t' := by
  have hblank : ∀ c : Char, ¬(c != ' ' && c != '\t') = true ↔ c = ' ' ∨ c = '\t' := by
    intro c
    simp only [Bool.and_eq_true, bne_iff_ne]
    tauto
  rw [List.filter_eq_cons_iff]
  constructor
  · rintro ⟨before, after, rfl, hbefore, -, hafter⟩
    refine ⟨before, after, rfl, fun c hc => (hblank c).mp ?_⟩
    rcases List.mem_append.mp hc with hc | hc
    · exact hbefore c hc
    · exact List.filter_eq_nil_iff.mp hafter c hc
  · rintro ⟨before, after, rfl, hblanks⟩
    refine ⟨before, after, rfl, fun c hc => (hblank c).mpr ?_, by decide, ?_⟩
    · exact hblanks c (List.mem_append_left _ hc)
    · rw [List.filter_eq_nil_iff]
      exact fun c hc => (hblank c).mpr (hblanks c (List.mem_append_right _ hc))

/-- **What joins two statements** is the text between them. -/
theorem joinedBySemicolon_iff {text : List Char} {first second : Statement}
    (hinside : second.extent.start ≤ text.length) :
    joinedBySemicolon text first second = true ↔ SemicolonBetween text first second := by
  unfold joinedBySemicolon
  rw [beq_iff_eq, filter_eq_semicolon_iff]
  constructor
  · rintro ⟨before, after, hgap, hblanks⟩
    have hlength := congrArg List.length hgap
    simp only [List.length_take, List.length_drop, List.length_append, List.length_cons] at hlength
    have hstop : (text.take first.extent.stop).length = first.extent.stop := by
      rw [List.length_take]
      omega
    refine ⟨text.take first.extent.stop, before, after, text.drop second.extent.start, ?_, hstop,
      ?_, hblanks⟩
    · rw [← hgap]
      have hback : second.extent.start
          = first.extent.stop + (second.extent.start - first.extent.stop) := by omega
      conv_rhs => rw [hback, ← List.drop_drop, Nat.add_sub_cancel_left, List.append_assoc,
        List.take_append_drop, List.take_append_drop]
    · rw [hstop, List.length_append, List.length_cons]
      omega
  · rintro ⟨front, before, after, back, rfl, hfront, hback, hblanks⟩
    refine ⟨before, after, ?_, hblanks⟩
    rw [← hfront, ← hback, Nat.add_sub_cancel_left, List.append_assoc, List.drop_left,
      List.take_left]

/-- What joins two statements takes up room, so they do not overlap. -/
theorem lt_of_joinedBySemicolon {text : List Char} {first second : Statement}
    (h : joinedBySemicolon text first second = true) :
    first.extent.stop < second.extent.start := by
  unfold joinedBySemicolon at h
  obtain ⟨before, after, hgap, -⟩ := filter_eq_semicolon_iff.mp (beq_iff_eq.mp h)
  have hlength := congrArg List.length hgap
  simp only [List.length_take, List.length_append, List.length_cons] at hlength
  omega

/-! ## Runs -/

/-- No run is empty. -/
theorem ne_nil_of_mem_runs {text : List Char} {statements run : List Statement}
    (h : run ∈ runs text statements) : run ≠ [] := by
  induction statements generalizing run with
  | nil => exact absurd h List.not_mem_nil
  | cons first rest ih =>
    rcases runs_cons text first rest with ⟨second, others, more, hrest, -, hruns⟩ | ⟨hruns, -⟩
    · rw [hruns] at h
      rcases List.mem_cons.mp h with rfl | hmore
      · exact List.cons_ne_nil _ _
      · exact ih (hrest ▸ List.mem_cons_of_mem _ hmore)
    · rw [hruns] at h
      rcases List.mem_cons.mp h with rfl | hmore
      · exact List.cons_ne_nil _ _
      · exact ih hmore

/-- The statements of a run are in order. Induction on all statements; one that joins a run ends in
front of it. -/
theorem ordered_of_mem_runs {text : List Char} {statements run : List Statement}
    (h : run ∈ runs text statements) :
    ∃ start stop, Ordered start (run.map (·.extent)) stop := by
  induction statements generalizing run with
  | nil => exact absurd h List.not_mem_nil
  | cons first rest ih =>
    rcases runs_cons text first rest with ⟨second, others, more, hrest, hjoined, hruns⟩ | ⟨hruns, -⟩
    · rw [hruns] at h
      rcases List.mem_cons.mp h with rfl | hmore
      · obtain ⟨start, stop, -, hordered⟩ := ih (hrest ▸ List.mem_cons_self)
        exact ⟨first.extent.start, stop, Nat.le_refl _,
          Nat.le_of_lt (lt_of_joinedBySemicolon hjoined), hordered⟩
      · exact ih (hrest ▸ List.mem_cons_of_mem _ hmore)
    · rw [hruns] at h
      rcases List.mem_cons.mp h with rfl | hmore
      · exact ⟨first.extent.start, first.extent.stop, Nat.le_refl _, Nat.le_refl _⟩
      · exact ih hmore

/-- The statements of groups, each with the number of its group. -/
def numberedFrom (number : Nat) : List (List Statement) → List (Statement × Nat)
  | [] => []
  | group :: more => group.map (·, number) ++ numberedFrom (number + 1) more

/-- Numbering keeps all statements in their order. -/
theorem map_fst_numberedFrom (number : Nat) (groups : List (List Statement)) :
    (numberedFrom number groups).map Prod.fst = groups.flatten := by
  induction groups generalizing number with
  | nil => rfl
  | cons group more ih =>
    simp only [numberedFrom, List.map_append, List.map_map, List.flatten_cons, ih]
    exact congrArg (· ++ more.flatten) (List.map_id group)

/-- **Neighbours are in one run iff they are joined.** Induction on the statements, the number of
the first run being free. -/
theorem isChain_numbered_runs (text : List Char) (statements : List Statement) (number : Nat) :
    (numberedFrom number (runs text statements)).IsChain
      fun a b => a.2 = b.2 ↔ joinedBySemicolon text a.1 b.1 = true := by
  induction statements generalizing number with
  | nil => exact .nil
  | cons first rest ih =>
    rcases runs_cons text first rest with
      ⟨second, others, more, hrest, hjoined, hruns⟩ | ⟨hruns, hapart⟩
    · have htail := ih number
      rw [hrest] at htail
      rw [hruns]
      exact .cons_cons (iff_of_true rfl hjoined) htail
    · have htail := ih (number + 1)
      rw [hruns]
      show List.IsChain _ ((first, number) :: numberedFrom (number + 1) (runs text rest))
      cases hmore : runs text rest with
      | nil => exact .singleton _
      | cons run more =>
        rw [hmore] at htail
        cases run with
        | nil => exact absurd rfl (ne_nil_of_mem_runs (hmore ▸ List.mem_cons_self))
        | cons second others =>
          have hne : number ≠ number + 1 := by omega
          exact .cons_cons
            (iff_of_false hne (Bool.eq_false_iff.mp (hapart second others more hmore))) htail

/-! ## Phrases -/

/-- The statements of phrases, each with the number of its phrase. -/
def Phrase.numbered (phrases : List Phrase) : List (Statement × Nat) :=
  numberedFrom 0 (phrases.map (·.statements))

/-- A phrase runs from the start of its first statement to the end of its last. -/
theorem Phrase.bounds_of_ofRun {run : List Statement} {phrase : Phrase} {first last : Statement}
    (h : ofRun run = .ok phrase) (hfirst : run.head? = some first)
    (hlast : run.getLast? = some last) :
    phrase.extent.start = first.extent.start ∧ phrase.extent.stop = last.extent.stop := by
  unfold ofRun at h
  rw [hfirst, hlast] at h
  obtain ⟨extent, hextent, hpure⟩ := bind_eq_ok.mp h
  rw [← Except.ok.inj hpure]
  obtain ⟨hstart, hstop⟩ := bounds_of_ofBounds hextent
  exact ⟨Int.ofNat.inj hstart, Int.ofNat.inj hstop⟩

/-- A run has a phrase, with the run as its statements. -/
theorem exists_ofRun_of_mem_runs {text : List Char} {statements run : List Statement}
    (h : run ∈ runs text statements) : ∃ phrase, Phrase.ofRun run = .ok phrase := by
  obtain ⟨start, stop, hordered⟩ := ordered_of_mem_runs h
  exact Phrase.exists_ofRun_eq_ok hordered

/-- Phrases are made of the statements that they have. -/
theorem Phrase.ofRun_statements {groups : List (List Statement)} {phrases : List Phrase}
    (h : List.Forall₂ (fun run phrase => ofRun run = .ok phrase) groups phrases) :
    phrases.map (·.statements) = groups
      ∧ ∀ phrase ∈ phrases, ofRun phrase.statements = .ok phrase := by
  induction h with
  | nil => exact ⟨rfl, fun phrase hmem => absurd hmem List.not_mem_nil⟩
  | cons hrun _ ih =>
    have hsame := statements_of_ofRun hrun
    exact ⟨by rw [List.map_cons, ih.1, hsame], List.forall_mem_cons.mpr ⟨hsame.symm ▸ hrun, ih.2⟩⟩

/-- The places of a statement exist in a text, and it does not end in front of its start. -/
def Grammar.ParsedStatement.Located (text : String) (parsed : ParsedStatement) : Prop :=
  ∃ start stop expression, parsed.At text start stop expression

/-- Located statements have extents, none of which begins behind the text. -/
theorem mapM_ofParsed_of_located {text : String} {parsed : List ParsedStatement}
    (h : ∀ found ∈ parsed, found.Located text) :
    ∃ statements, parsed.mapM (Statement.ofParsed (.ofText text) text.toList) = .ok statements
      ∧ ∀ statement ∈ statements, statement.extent.start ≤ text.length := by
  induction parsed with
  | nil => exact ⟨[], rfl, fun statement hmem => absurd hmem List.not_mem_nil⟩
  | cons found rest ih =>
    obtain ⟨⟨start, stop, expression, hat⟩, hrest⟩ := List.forall_mem_cons.mp h
    obtain ⟨statements, hstatements, hinside⟩ := ih hrest
    have hstop : stop ≤ text.length := LineTable.le_of_denotes hat.stop_denotes
    have hwide := Statement.widened_le text.toList start expression
    have hle : start ≤ stop := hat.start_le_stop
    refine ⟨_ :: statements, mapM_eq_ok.mpr (.cons hat.ofParsed (mapM_eq_ok.mp hstatements)),
      List.forall_mem_cons.mpr ⟨?_, hinside⟩⟩
    show Statement.widened text.toList start expression ≤ text.length
    omega

/-- **The phrases of a text.** If the places of all statements exist, there are phrases: their
statements, one phrase after the other, are those of the parser; two neighbours are in one phrase
iff just one semicolon and blanks stand between them; and every phrase has a first and a last
statement, and runs from the start of the one to the end of the other. -/
theorem ofParsed_groups_joined {text : String} {parsed : List ParsedStatement}
    (h : ∀ found ∈ parsed, found.Located text) :
    ∃ phrases, Phrase.ofParsed text parsed = .ok phrases
      ∧ List.Forall₂
          (fun found statement =>
            Statement.ofParsed (.ofText text) text.toList found = .ok statement)
          parsed (phrases.flatMap (·.statements))
      ∧ (Phrase.numbered phrases).IsChain
          (fun a b => a.2 = b.2 ↔ SemicolonBetween text.toList a.1 b.1)
      ∧ ∀ phrase ∈ phrases, ∃ first last, phrase.statements.head? = some first
          ∧ phrase.statements.getLast? = some last
          ∧ phrase.extent.start = first.extent.start ∧ phrase.extent.stop = last.extent.stop := by
  obtain ⟨statements, hstatements, hinside⟩ := mapM_ofParsed_of_located h
  obtain ⟨phrases, hphrases⟩ :=
    exists_mapM_eq_ok.mpr fun run (hrun : run ∈ runs text.toList statements) =>
      exists_ofRun_of_mem_runs hrun
  have hmade := mapM_eq_ok.mp hphrases
  obtain ⟨hgroups, hmadeOf⟩ := Phrase.ofRun_statements hmade
  have hsame : phrases.flatMap (·.statements) = statements := by
    rw [Phrase.flatMap_statements hmade, flatten_runs]
  refine ⟨phrases, bind_eq_ok.mpr ⟨statements, hstatements, hphrases⟩, ?_, ?_, ?_⟩
  · rw [hsame]
    exact mapM_eq_ok.mp hstatements
  · unfold Phrase.numbered
    rw [hgroups]
    -- the numbers of two neighbours differ iff their runs do
    refine (isChain_numbered_runs text.toList statements 0).imp_of_mem_imp
      fun a b _ hb hjoined => hjoined.trans (joinedBySemicolon_iff ?_)
    have hmem : b.1 ∈ statements := by
      rw [← flatten_runs text.toList statements, ← map_fst_numberedFrom 0]
      exact List.mem_map_of_mem hb
    rw [String.length_toList]
    exact hinside b.1 hmem
  · intro phrase hphrase
    have hrun : phrase.statements ∈ runs text.toList statements :=
      hgroups ▸ List.mem_map_of_mem hphrase
    have hfirst := List.head?_eq_some_head (ne_nil_of_mem_runs hrun)
    have hlast := List.getLast?_eq_some_getLast (ne_nil_of_mem_runs hrun)
    exact ⟨_, _, hfirst, hlast, Phrase.bounds_of_ofRun (hmadeOf phrase hphrase) hfirst hlast⟩

namespace Sample

/-- Three statements on a line, with and without blanks around the semicolons and one semicolon more
at the end, and a definition with a decorator. -/
def grouped : String := "é; x\t;y;\n@d\ndef f(): 0"

/-- Their places. -/
def groupedPlaces : List ParsedStatement :=
  [⟨some (.name "é"), ⟨1, 0⟩, ⟨1, 2⟩, none⟩,
    ⟨some (.name "x"), ⟨1, 4⟩, ⟨1, 5⟩, none⟩,
    ⟨some (.name "y"), ⟨1, 7⟩, ⟨1, 8⟩, none⟩,
    ⟨none, ⟨3, 0⟩, ⟨3, 10⟩, some ⟨2, 1⟩⟩]

end Sample

/-- The semicolon at the end of the line joins nothing. -/
theorem ofParsed_groups_joined_sample :
    (∀ found ∈ Sample.groupedPlaces, found.Located Sample.grouped)
      ∧ ∃ phrases, Phrase.ofParsed Sample.grouped Sample.groupedPlaces = .ok phrases
        ∧ phrases.map (·.extent) = [⟨0, 7, by decide⟩, ⟨9, 22, by decide⟩]
        ∧ (Phrase.numbered phrases).IsChain
            (fun a b => a.2 = b.2 ↔ SemicolonBetween Sample.grouped.toList a.1 b.1) := by
  have hlocated : ∀ found ∈ Sample.groupedPlaces, found.Located Sample.grouped := by
    intro found hfound
    simp only [Sample.groupedPlaces, List.mem_cons, List.not_mem_nil, or_false] at hfound
    rcases hfound with rfl | rfl | rfl | rfl
    · exact ⟨0, 1, none, ⟨_, 0, by decide, rfl, by decide, rfl, rfl⟩,
        ⟨_, 1, by decide, rfl, by decide, rfl, rfl⟩, by decide, .none⟩
    · exact ⟨3, 4, none, ⟨_, 3, by decide, rfl, by decide, rfl, rfl⟩,
        ⟨_, 4, by decide, rfl, by decide, rfl, rfl⟩, by decide, .none⟩
    · exact ⟨6, 7, none, ⟨_, 6, by decide, rfl, by decide, rfl, rfl⟩,
        ⟨_, 7, by decide, rfl, by decide, rfl, rfl⟩, by decide, .none⟩
    · exact ⟨12, 22, some 10, ⟨_, 0, by decide, rfl, by decide, rfl, rfl⟩,
        ⟨_, 10, by decide, rfl, by decide, rfl, rfl⟩, by decide,
        .some ⟨_, 1, by decide, rfl, by decide, rfl, rfl⟩⟩
  obtain ⟨phrases, hphrases, -, hjoined, -⟩ := ofParsed_groups_joined hlocated
  refine ⟨hlocated, phrases, hphrases, ?_, hjoined⟩
  obtain rfl := Except.ok.inj (hphrases.symm.trans rfl)
  rfl

end ExpectFile
