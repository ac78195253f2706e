import ExpectFile.Proofs.Extent.Tiling
import ExpectFile.Proofs.Text.Positions
import ExpectFile.Source

/-!
# Placing statements

A parser is trusted with places only: that they exist in the text, that statements come one after
the other, and that a decorated definition has its `@` behind the statement in front of it
(`InOrder`). From that alone the statements get extents in order, and the phrases are built.

* **`le_lastBefore?`** — going back from a decorator never passes an `@` on the way, so a widened
  definition stays behind the statement in front of it.
* **`exists_ofParsed_eq_ok`** — one statement; **`mapM_ofParsed_of_inOrder`** — all of them.
* **`flatten_runs`** — grouping loses and reorders no statement.
* **`ofParsed_of_inOrder`** — the phrases of a text.
* **`parseSource_eq_ok_iff`** — which texts have phrases at all; **`ofParsed_single`** — where a
  statement takes up the whole text, it is the only one.
-/

namespace ExpectFile

open Extent Grammar Outcome

/-! ## What a parser promises -/

/-- The range of a statement, as its parser gives it, begins at `start`, at or behind `floor`, and
ends at `stop`. If there is a decorator, an `@` stands between `floor` and its expression. -/
structure Grammar.ParsedStatement.Placed (text : String) (floor : Nat) (parsed : ParsedStatement)
    (start stop : Nat) : Prop where
  start_denotes : (LineTable.ofText text).Denotes parsed.start start
  stop_denotes : (LineTable.ofText text).Denotes parsed.stop stop
  floor_le : floor ≤ start
  start_le_stop : start ≤ stop
  decorated : ∀ place, parsed.decorator = some place →
    ∃ expression sign, (LineTable.ofText text).Denotes place expression
      ∧ floor ≤ sign ∧ sign < expression ∧ text.toList[sign]? = some '@'

/-- The statements come one after the other, the first at or behind `floor`. -/
def InOrder (text : String) : (floor : Nat) → List ParsedStatement → Prop
  | _, [] => True
  | floor, parsed :: rest =>
    ∃ start stop, parsed.Placed text floor start stop ∧ InOrder text stop rest

/-- The places that a parser gives a statement. -/
def Grammar.ParsedStatement.places (parsed : ParsedStatement) :
    Position × Position × Option Position :=
  (parsed.start, parsed.stop, parsed.decorator)

/-- Nothing but the places counts. -/
theorem InOrder.congr {text : String} {floor : Nat} {parsed other : List ParsedStatement}
    (hsame : parsed.map (·.places) = other.map (·.places)) (h : InOrder text floor parsed) :
    InOrder text floor other := by
  induction parsed generalizing floor other with
  | nil =>
    obtain rfl : other = [] := List.map_eq_nil_iff.mp hsame.symm
    exact h
  | cons first rest ih =>
    cases other with
    | nil => exact absurd hsame nofun
    | cons second others =>
      obtain ⟨start, stop, hplaced, hrest⟩ := h
      obtain ⟨hplaces, htail⟩ := List.cons.inj hsame
      obtain ⟨hstart, hstop, hdecorator⟩ :
          first.start = second.start ∧ first.stop = second.stop
            ∧ first.decorator = second.decorator := by
        simpa [ParsedStatement.places] using hplaces
      refine ⟨start, stop, ⟨hstart ▸ hplaced.start_denotes, hstop ▸ hplaced.stop_denotes,
        hplaced.floor_le, hplaced.start_le_stop, ?_⟩, ih htail hrest⟩
      intro place hplace
      exact hplaced.decorated place (hdecorator.trans hplace)

/-! ## Extents -/

/-- The last occurrence in front of an offset is not in front of any other. -/
theorem le_lastBefore? {c : Char} {text : List Char} {i offset : Nat}
    (hc : text[i]? = some c) (hlt : i < offset) :
    ∃ last, lastBefore? c offset text = some last ∧ i ≤ last := by
  have hbefore : (text.take offset)[i]? = some c := by
    rw [List.getElem?_take_of_lt hlt, hc]
  have hmem : c ∈ text.take offset := List.mem_of_getElem? hbefore
  refine ⟨_, if_pos (List.contains_iff_mem.mpr hmem), ?_⟩
  -- counted from the back, the first occurrence comes no later than this one
  obtain ⟨hlength, hget⟩ := List.getElem?_eq_some_iff.mp hbefore
  have hback : (text.take offset).reverse.idxOf c ≤ (text.take offset).length - 1 - i := by
    by_contra hlater
    have hdiffers := List.not_of_lt_findIdx (Nat.lt_of_not_le hlater)
    rw [List.getElem_reverse, beq_eq_false_iff_ne] at hdiffers
    have hsame : (text.take offset).length - 1 - ((text.take offset).length - 1 - i) = i := by
      omega
    exact hdiffers (by simp only [hsame, hget])
  omega

/-- Where the places of a statement are: it begins at `start` and ends at `stop`, and the expression
of its first decorator begins at `expression`, if it has one. -/
structure Grammar.ParsedStatement.At (text : String) (parsed : ParsedStatement)
    (start stop : Nat) (expression : Option Nat) : Prop where
  start_denotes : (LineTable.ofText text).Denotes parsed.start start
  stop_denotes : (LineTable.ofText text).Denotes parsed.stop stop
  start_le_stop : start ≤ stop
  decorator_denotes :
    Option.Rel (LineTable.ofText text).Denotes parsed.decorator expression

/-- Where a statement starts that begins at `start` without its decorators. -/
def Statement.widened (text : List Char) (start : Nat) : (expression : Option Nat) → Nat
  | none => start
  | some expression =>
    match lastBefore? '@' expression text with
    | some sign => min start sign
    | none => start

/-- No statement starts later with its decorators than without them. -/
theorem Statement.widened_le (text : List Char) (start : Nat) (expression : Option Nat) :
    Statement.widened text start expression ≤ start := by
  unfold Statement.widened
  split
  · exact Nat.le_refl start
  · split
    · exact Nat.min_le_left _ _
    · exact Nat.le_refl start

theorem Statement.widened_eq_min {text : List Char} {expression sign : Nat}
    (h : lastBefore? '@' expression text = some sign) (start : Nat) :
    Statement.widened text start (some expression) = min start sign := by
  simp only [Statement.widened, h]

/-- **The extent of a statement.** It ends where the parser says, and starts there as well unless it
has decorators. -/
theorem Grammar.ParsedStatement.At.ofParsed {text : String} {parsed : ParsedStatement}
    {start stop : Nat} {expression : Option Nat} (h : parsed.At text start stop expression) :
    Statement.ofParsed (.ofText text) text.toList parsed
      = .ok ⟨parsed.expression, parsed.start.line,
          ⟨Statement.widened text.toList start expression, stop,
            Nat.le_trans (Statement.widened_le _ _ _) h.start_le_stop⟩⟩ := by
  have hwide : Statement.widened text.toList start expression ≤ stop :=
    Nat.le_trans (Statement.widened_le _ _ _) h.start_le_stop
  have hdecorator := h.decorator_denotes
  unfold Statement.ofParsed Statement.extentOf
  rw [LineTable.offset_of_denotes h.start_denotes]
  cases hplace : parsed.decorator with
  | none =>
    rw [hplace] at hdecorator
    cases hdecorator
    show (LineTable.offset _ _ _ >>= _) >>= _ = _
    rw [LineTable.offset_of_denotes h.stop_denotes]
    show Extent.ofBounds start stop >>= _ = _
    rw [ofBounds_natCast h.start_le_stop]
    rfl
  -- with decorators, the start is moved back to the sign of the first
  | some place =>
    rw [hplace] at hdecorator
    obtain ⟨hexpression⟩ := hdecorator
    rename_i expression
    show (LineTable.offset _ _ _ >>= _) >>= _ = _
    rw [LineTable.offset_of_denotes hexpression]
    show (LineTable.offset _ _ _ >>= _) >>= _ = _
    rw [LineTable.offset_of_denotes h.stop_denotes]
    show Extent.ofBounds (Statement.widened text.toList start (some expression) : Nat) stop
      >>= _ = _
    rw [ofBounds_natCast hwide]
    rfl

/-- **A statement in its place has an extent.** It ends where the parser says, and it begins no
later, but never in front of `floor`. -/
theorem exists_ofParsed_eq_ok {text : String} {floor start stop : Nat} {parsed : ParsedStatement}
    (h : parsed.Placed text floor start stop) :
    ∃ statement, Statement.ofParsed (.ofText text) text.toList parsed = .ok statement
      ∧ floor ≤ statement.extent.start ∧ statement.extent.stop = stop := by
  have hfloor : floor ≤ start := h.floor_le
  cases hdecorator : parsed.decorator with
  | none =>
    have hat : parsed.At text start stop none :=
      ⟨h.start_denotes, h.stop_denotes, h.start_le_stop, hdecorator ▸ .none⟩
    exact ⟨_, hat.ofParsed, hfloor, rfl⟩
  | some place =>
    obtain ⟨expression, sign, hexpression, hbehind, hfront, hsign⟩ :=
      h.decorated place hdecorator
    obtain ⟨last, hlast, hafter⟩ := le_lastBefore? hsign hfront
    have hat : parsed.At text start stop (some expression) :=
      ⟨h.start_denotes, h.stop_denotes, h.start_le_stop, hdecorator ▸ .some hexpression⟩
    refine ⟨_, hat.ofParsed, ?_, rfl⟩
    exact Nat.le_trans (Nat.le_min.mpr ⟨hfloor, Nat.le_trans hbehind hafter⟩)
      (Nat.le_of_eq (Statement.widened_eq_min hlast start).symm)

/-- **The statements are in order.** Induction on the statements; each begins at or behind the stop
of the one before it. -/
theorem mapM_ofParsed_of_inOrder {text : String} {floor : Nat} {parsed : List ParsedStatement}
    (hfloor : floor ≤ text.length) (h : InOrder text floor parsed) :
    ∃ statements, parsed.mapM (Statement.ofParsed (.ofText text) text.toList) = .ok statements
      ∧ Ordered floor (statements.map (·.extent)) text.length := by
  induction parsed generalizing floor with
  | nil => exact ⟨[], rfl, hfloor⟩
  | cons first rest ih =>
    obtain ⟨start, stop, hplaced, hrest⟩ := h
    obtain ⟨statement, hstatement, hbehind, hstop⟩ := exists_ofParsed_eq_ok hplaced
    have hinside : stop ≤ text.length := LineTable.le_of_denotes hplaced.stop_denotes
    obtain ⟨statements, hstatements, hordered⟩ := ih hinside hrest
    refine ⟨statement :: statements, ?_, hbehind, ?_⟩
    · rw [mapM_eq_ok] at hstatements ⊢
      exact .cons hstatement hstatements
    · rw [hstop]
      exact hordered

/-! ## Runs -/

/-- A statement joins the run behind it, if a semicolon joins it to the first statement there, or it
is a run of its own. -/
theorem runs_cons (text : List Char) (first : Statement) (rest : List Statement) :
    (∃ second others more, runs text rest = (second :: others) :: more
        ∧ joinedBySemicolon text first second = true
        ∧ runs text (first :: rest) = (first :: second :: others) :: more)
      ∨ runs text (first :: rest) = [first] :: runs text rest
        ∧ ∀ second others more, runs text rest = (second :: others) :: more →
            joinedBySemicolon text first second = false := by
  rw [runs]
  split
  · rename_i second others more hrest
    split
    · rename_i hjoined
      exact Or.inl ⟨second, others, more, hrest, hjoined, rfl⟩
    · rename_i hapart
      refine Or.inr ⟨by rw [hrest], ?_⟩
      rintro _ _ _ heq
      obtain ⟨⟨rfl, -⟩, -⟩ : (_ = second ∧ _ = others) ∧ _ = more := by
        simpa using heq.symm.trans hrest
      exact Bool.eq_false_iff.mpr hapart
  · rename_i hnone
    exact Or.inr ⟨rfl, fun second others more heq => absurd heq (hnone second others more)⟩

/-- **Grouping loses and reorders nothing.** -/
theorem flatten_runs (text : List Char) (statements : List Statement) :
    (runs text statements).flatten = statements := by
  induction statements with
  | nil => rfl
  | cons first rest ih =>
    rcases runs_cons text first rest with ⟨second, others, more, hrest, -, hruns⟩ | ⟨hruns, -⟩
    · rw [hruns, List.flatten_cons, List.cons_append, ← List.flatten_cons, ← hrest, ih]
    · rw [hruns, List.flatten_cons, ih, List.singleton_append]

/-! ## Phrases -/

/-- A phrase has the statements of its run. -/
theorem Phrase.statements_of_ofRun {run : List Statement} {phrase : Phrase}
    (h : ofRun run = .ok phrase) : phrase.statements = run := by
  unfold ofRun at h
  split at h
  · obtain ⟨extent, -, hpure⟩ := bind_eq_ok.mp h
    rw [← Except.ok.inj hpure]
  · rename_i hnone
    cases run with
    | nil => rw [← Except.ok.inj h]
    | cons first rest =>
      exact absurd rfl (hnone first _ · (List.getLast?_eq_some_getLast (List.cons_ne_nil first rest)))

/-- So phrases have, one after the other, the statements of their runs. -/
theorem Phrase.flatMap_statements {groups : List (List Statement)} {phrases : List Phrase}
    (h : List.Forall₂ (fun run phrase => ofRun run = .ok phrase) groups phrases) :
    phrases.flatMap (·.statements) = groups.flatten := by
  induction h with
  | nil => rfl
  | cons hrun _ ih => rw [List.flatMap_cons, List.flatten_cons, ih, statements_of_ofRun hrun]

/-- Statements in order make a phrase: the last of them does not end in front of the first. -/
theorem Phrase.exists_ofRun_eq_ok {run : List Statement} {start stop : Nat}
    (h : Ordered start (run.map (·.extent)) stop) : ∃ phrase, ofRun run = .ok phrase := by
  unfold ofRun
  split
  · rename_i first last hfirst hlast
    have hmem : last ∈ run := List.mem_of_getLast? hlast
    obtain ⟨rest, rfl⟩ : ∃ rest, run = first :: rest := List.head?_eq_some_iff.mp hfirst
    have hfront : Ordered first.extent.start ((first :: rest).map (·.extent)) stop :=
      ⟨Nat.le_refl _, h.2⟩
    have hstart : first.extent.start ≤ last.extent.start :=
      hfront.le_start (List.mem_map_of_mem hmem)
    have hstop : last.extent.start ≤ last.extent.stop := last.extent.start_le_stop
    rw [ofBounds_natCast (Nat.le_trans hstart hstop)]
    exact ⟨_, rfl⟩
  · exact ⟨_, rfl⟩

/-- **The phrases of a text.** They can be built from statements in their places; their statements,
one phrase after the other, are those of the parser, and their extents are in order within the
text. -/
theorem Phrase.ofParsed_of_inOrder {text : String} {parsed : List ParsedStatement}
    (h : InOrder text 0 parsed) :
    ∃ phrases, Phrase.ofParsed text parsed = .ok phrases
      ∧ List.Forall₂
          (fun place statement =>
            Statement.ofParsed (.ofText text) text.toList place = .ok statement)
          parsed (phrases.flatMap (·.statements))
      ∧ Ordered 0 ((phrases.flatMap (·.statements)).map (·.extent)) text.length := by
  obtain ⟨statements, hstatements, hordered⟩ := mapM_ofParsed_of_inOrder (Nat.zero_le _) h
  have hbuilt : ∀ run ∈ runs text.toList statements, ∃ phrase, Phrase.ofRun run = .ok phrase := by
    intro run hrun
    have hpart : (run.map (·.extent)).Sublist (statements.map (·.extent)) := by
      rw [← flatten_runs text.toList statements]
      exact (List.sublist_flatten_of_mem hrun).map _
    exact Phrase.exists_ofRun_eq_ok (hordered.sublist hpart)
  obtain ⟨phrases, hphrases⟩ := exists_mapM_eq_ok.mpr hbuilt
  have hsame : phrases.flatMap (·.statements) = statements := by
    rw [← flatten_runs text.toList statements]
    exact Phrase.flatMap_statements (mapM_eq_ok.mp hphrases)
  refine ⟨phrases, ?_, ?_, ?_⟩
  · unfold Phrase.ofParsed
    exact bind_eq_ok.mpr ⟨statements, hstatements, hphrases⟩
  · rw [hsame]
    exact mapM_eq_ok.mp hstatements
  · rw [hsame]
    exact hordered

/-! ## Sources -/

/-- **When a source parses**: neither its name nor its text holds a null character, and the text is
a program. -/
theorem parseSource_eq_ok_iff {sourceName contents : String} {statements : List ParsedStatement} :
    parseSource sourceName contents = .ok statements
      ↔ '\x00' ∉ sourceName.toList ∧ '\x00' ∉ contents.toList
        ∧ parseStatements contents.toList = some statements := by
  unfold parseSource
  by_cases hsource : '\x00' ∈ sourceName.toList
  · simp [hsource]
  by_cases hcontents : '\x00' ∈ contents.toList
  · simp [hsource, hcontents]
  cases hparse : parseStatements contents.toList <;> simp [hsource, hcontents]

/-- A statement from the beginning of a text to its end is its only phrase. -/
theorem Phrase.ofParsed_single (text : String) (expression : Option Expr) :
    Phrase.ofParsed text
        [⟨expression, ⟨1, 0⟩, Position.afterText ⟨1, 0⟩ (lineFeeds text.toList), none⟩]
      = .ok [.single ⟨expression, 1, 0, text.length, Nat.zero_le _⟩] := by
  have hstart : (LineTable.ofText text).Denotes ⟨1, 0⟩ 0 :=
    denotes_lineFeeds (List.nil_append _).symm (.nil_left _)
  have hstop : (LineTable.ofText text).Denotes
      (Position.afterText ⟨1, 0⟩ (lineFeeds text.toList)) text.length := by
    rw [← String.length_toList]
    exact denotes_lineFeeds (List.append_nil _).symm (.nil_right _)
  have hextent : Extent.ofBounds (0 : Nat) text.length = .ok ⟨0, text.length, Nat.zero_le _⟩ :=
    ofBounds_natCast (Nat.zero_le _)
  have hstatement : Statement.ofParsed (.ofText text) text.toList
        ⟨expression, ⟨1, 0⟩, Position.afterText ⟨1, 0⟩ (lineFeeds text.toList), none⟩
      = .ok ⟨expression, 1, 0, text.length, Nat.zero_le _⟩ := by
    unfold Statement.ofParsed Statement.extentOf
    rw [LineTable.offset_of_denotes hstart, LineTable.offset_of_denotes hstop]
    show Extent.ofBounds (0 : Nat) text.length >>= _ = _
    rw [hextent]
    rfl
  have hrun : Phrase.ofRun [⟨expression, 1, 0, text.length, Nat.zero_le _⟩]
      = .ok (.single ⟨expression, 1, 0, text.length, Nat.zero_le _⟩) := by
    show Extent.ofBounds (0 : Nat) text.length >>= _ = _
    rw [hextent]
    rfl
  unfold Phrase.ofParsed
  refine bind_eq_ok.mpr ⟨_, mapM_eq_ok.mpr (.cons hstatement .nil), ?_⟩
  exact mapM_eq_ok.mpr (.cons hrun .nil)

end ExpectFile
