import ExpectFile.Proofs.Reprint.Recorded

/-!
# Printing a reprint

A partition is printed, and the reprint, if it can be partitioned, is printed again. The marked
statements of the reprint are the calls that were printed, and each of them is printed as it stands:
a directive and a tolerant assertion record the text that they are printed with. An exact assertion
is printed as a tolerant one, so it has to be trimmed.

* **`exists_outlined`** — a file that can be partitioned is a program with an outline.
* **`forall_isPrinted_and_endLines`** — the marked statements of a reprint are those of the file,
  printed.
* **`record?_callExpr`**, **`record?_of_isPrinted`** — what was recorded is recorded again.
* **`reprint_stable`** — the same text is printed, and nothing that was recorded is lost.
-/

namespace ExpectFile

open Grammar Outcome Extent Reprint

/-! ## Statements and their places -/

/-- The statements of the phrases of a text, in their places. -/
theorem Phrase.forall_of_ofParsed {contents : String} {parsed : List ParsedStatement}
    {phrases : List Phrase} (h : Phrase.ofParsed contents parsed = .ok phrases) :
    List.Forall₂ (fun place statement =>
        Statement.ofParsed (.ofText contents) contents.toList place = .ok statement)
      parsed (phrases.flatMap (·.statements)) := by
  unfold Phrase.ofParsed at h
  obtain ⟨statements, hstatements, hruns⟩ := bind_eq_ok.mp h
  rw [Phrase.flatMap_statements (mapM_eq_ok.mp hruns), flatten_runs]
  exact mapM_eq_ok.mp hstatements

theorem Statement.expression_of_ofParsed {table : LineTable} {text : List Char}
    {parsed : ParsedStatement} {statement : Statement}
    (h : Statement.ofParsed table text parsed = .ok statement) :
    statement = ⟨parsed.expression, parsed.start.line, statement.extent⟩ := by
  obtain ⟨extent, -, hpure⟩ := bind_eq_ok.mp h
  obtain rfl := Except.ok.inj hpure
  rfl

/-- The name under which a block is printed. -/
def Reprint.Names.of (names : Names) : BlockKind → String
  | .directive => names.directive
  | _ => names.assertion

/-- What a statement is printed as. -/
def printingOf (v : Vocabulary) (names : Names) : Printing := fun parsed =>
  (Statement.record? v parsed.expression).map fun record => (names.of record.1, record.2)

variable {v : Vocabulary} {names : Names} {contents : String} {phrases : List Phrase}
  {parsed : List ParsedStatement} {text : List Char} {start stop : Nat}

/-- What a patch prints as, by what it records. -/
theorem Patch.printed_eq (patch : Patch) (names : Names) : patch.printed names
    = match patch.record? with
      | some (kind, text) => call (names.of kind) text
      | none => [] := by
  cases patch <;> simp [Patch.printed, Patch.record?, Patch.block?, Names.of, call]

/-- **The patches of a file are the places of its marked statements**, with what these are printed
as. -/
theorem forall_isPlace (names : Names)
    (hparsed : List.Forall₂ (fun place statement =>
        Statement.ofParsed (.ofText contents) contents.toList place = .ok statement)
      parsed (phrases.flatMap (·.statements)))
    (hread : ∀ statement ∈ phrases.flatMap (·.statements),
      ∃ marker, statement.marker? v (some contents) = .ok marker) :
    List.Forall₂ (IsPlace (printingOf v names) contents)
        (parsed.filter fun statement => Statement.calls v statement.expression)
        (replacements names (patches v Expectation.recorded contents phrases))
      ∧ (patches v Expectation.recorded contents phrases).filterMap Patch.record?
        = (parsed.filter fun statement => Statement.calls v statement.expression).filterMap
            fun statement => Statement.record? v statement.expression := by
  unfold patches
  generalize phrases.flatMap (·.statements) = statements at hparsed hread
  induction hparsed with
  | nil => exact ⟨.nil, rfl⟩
  | @cons place statement places statements hstatement _ ih =>
    obtain ⟨hfirst, hrest⟩ := List.forall_mem_cons.mp hread
    obtain ⟨hplaces, hrecords⟩ := ih hrest
    obtain ⟨found, hfound⟩ := hfirst
    have hexpression : statement.expression = place.expression := by
      rw [Statement.expression_of_ofParsed hstatement]
    -- a statement that calls no name of the vocabulary has neither a patch nor a mark
    rcases Statement.patch?_cases hfound with
      ⟨hcalls, hnone⟩ | ⟨hcalls, patch, hpatch, hextent, hrecord⟩
    · rw [hexpression] at hcalls
      rw [List.filter_cons_of_neg (by simp [hcalls]), List.filterMap_cons_none hnone]
      exact ⟨hplaces, hrecords⟩
    · rw [hexpression] at hcalls hrecord
      rw [List.filter_cons_of_pos (by simpa using hcalls), List.filterMap_cons_some hpatch]
      refine ⟨.cons ⟨?_, ?_⟩ hplaces, ?_⟩
      · dsimp only
        rw [hextent, hstatement]
        exact congrArg Except.ok (Statement.expression_of_ofParsed hstatement)
      · dsimp only
        rw [Patch.printed_eq, hrecord, printedChars, printingOf]
        cases Statement.record? v place.expression <;> rfl
      · rw [List.filterMap_cons, List.filterMap_cons, hrecord, hrecords]

/-- Statements have one place each. -/
theorem eq_of_isPlace {statements : List ParsedStatement}
    {places others : List (Extent × List Char)}
    {printing : Printing} (h : List.Forall₂ (IsPlace printing contents) statements places)
    (hothers : List.Forall₂ (IsPlace printing contents) statements others) : places = others := by
  induction h generalizing others with
  | nil =>
    cases hothers
    rfl
  | @cons statement place statements places hplace _ ih =>
    cases hothers with
    | @cons _ other _ others hother hrest =>
      rw [hplace.eq hother, ih hrest]

/-- A text from an offset on, cut at a later one. -/
theorem take_drop_append_drop (text : List Char) (h : start ≤ stop) :
    (text.drop start).take (stop - start) ++ text.drop stop = text.drop start := by
  have hcut := List.take_append_drop (stop - start) (text.drop start)
  rwa [List.drop_drop, Nat.add_sub_cancel' h] at hcut

/-- Replacing ranges by what stands there changes nothing. -/
theorem substituted_self {places : List (Extent × List Char)}
    (hordered : Ordered start (places.map (·.1)) stop)
    (hsame : ∀ place ∈ places, place.1.cut text = place.2) :
    substituted text start places = text.drop start := by
  induction places generalizing start with
  | nil => rfl
  | cons place places ih =>
    obtain ⟨e, replacement⟩ := place
    obtain ⟨hstart, hrest⟩ := hordered
    obtain ⟨hfirst, hothers⟩ := List.forall_mem_cons.mp hsame
    have hle := e.start_le_stop
    dsimp only at hstart hrest hfirst
    rw [substituted, ih hrest hothers, ← hfirst, Extent.cut]
    rw [List.append_assoc, take_drop_append_drop text hle, take_drop_append_drop text hstart]

/-! ## A file and its reprint -/

/-- **A file that can be partitioned** has an outline, and its reprint is the file with the places
of the marked statements substituted. -/
theorem exists_outlined {reading : Reading} {blocks : List Block} (names : Names)
    (hrender : reading.render = Expectation.recorded)
    (hvocabulary : ∀ classifies, (reading.vocabularyFor classifies).outcome = .ok v)
    (hphrases : phrasesOf reading.name contents = .ok phrases)
    (h : (reading.partition contents).outcome = .ok blocks) :
    ∃ items, tokens? contents.toList = some (flat items)
      ∧ Outline (Statement.calls v) (exprAt (contents.toList.length + 2)) (.line 0) items
      ∧ List.Forall₂ (IsPlace (printingOf v names) contents) (marked items)
        (replacements names (patches v Expectation.recorded contents phrases))
      ∧ Ordered 0 ((replacements names (patches v Expectation.recorded contents phrases)).map (·.1))
        contents.length
      ∧ Reprint.text names blocks = String.ofList (substituted contents.toList 0
        (replacements names (patches v Expectation.recorded contents phrases)))
      ∧ (blocks.filter fun block => decide (block.kind ≠ .code)).map
        (fun block => (block.kind, block.text))
        = (marked items).filterMap (fun statement => Statement.record? v statement.expression)
      ∧ (patches v Expectation.recorded contents phrases).filterMap Patch.record?
        = (marked items).filterMap fun statement => Statement.record? v statement.expression := by
  rw [Reading.outcome_partition hphrases (hvocabulary _), hrender] at h
  obtain ⟨hread, hordered, rfl⟩ := partition_eq_ok_iff.mp h
  obtain ⟨parsed, hparse, hofParsed⟩ := bind_eq_ok.mp hphrases
  obtain ⟨-, -, hstatements⟩ := parseSource_eq_ok_iff.mp hparse
  obtain ⟨items, htokens, houtline, hmarked⟩ :=
    exists_outline hstatements (Statement.calls v) rfl
  obtain ⟨hplaces, hrecords⟩ := forall_isPlace names (Phrase.forall_of_ofParsed hofParsed) hread
  rw [← hmarked] at hplaces hrecords
  refine ⟨items, htokens, houtline, hplaces, ?_, ?_, ?_, hrecords⟩
  · have hmap : (replacements names (patches v Expectation.recorded contents phrases)).map (·.1)
        = (patches v Expectation.recorded contents phrases).map Patch.extent := by
      simp [replacements]
    rw [hmap]
    exact ordered_patches hordered
  · exact congrArg String.ofList (flatMap_block_assembled names contents 0 _)
  · rw [filter_assembled, ← hrecords, List.map_filterMap]
    rfl

/-- Behind marks of layout nothing counts, or what follows them. -/
theorem Grammar.load_eq_zero_or_suffix {tokens back ts : List Token}
    (houter : ∀ token ∈ tokens, token.kind.isInner = false) (h : back <:+ tokens ++ ts) :
    load back = 0 ∨ back <:+ ts := by
  induction tokens with
  | nil => exact .inr h
  | cons token tokens ih =>
    obtain ⟨hfirst, hrest⟩ := List.forall_mem_cons.mp houter
    rcases List.suffix_cons_iff.mp h with rfl | hback
    · exact .inl (by simp [load, hfirst])
    · exact ih hrest hback

/-- No statement counts for more than the characters that are left, wherever the lexer is. -/
theorem Grammar.Lexed.load_le_of_suffix {mode : LineMode} {opened : List Indentation}
    {due : List String} {p : Position} {ts back : List Token} (h : Lexed mode opened due p text ts)
    (hback : back <:+ ts) : load back ≤ text.length := by
  induction h with
  | blank _ _ ih | emptyLine _ ih | gap _ _ ih | wrap _ _ ih =>
    exact (ih hback).trans (Nat.le_succ _)
  | carry _ _ ih | join _ _ ih => exact (ih hback).trans ((Nat.le_succ _).trans (Nat.le_succ _))
  | commentLine _ _ ih | comment _ _ ih =>
    refine (ih hback).trans ?_
    simp only [List.length_append]
    omega
  | finish hmarks =>
    rw [← List.append_nil (marksAt _ _)] at hback
    rcases load_eq_zero_or_suffix (isInner_of_finish hmarks) hback with hzero | hnil
    · exact hzero.le
    · rw [List.suffix_nil.mp hnil]
      exact Nat.zero_le _
  | @line _ _ _ _ p _ _ found _ _ _ hmarks _ ih =>
    have houter : ∀ token ∈ marksAt p found, token.kind.isInner = false := by
      intro token hmem
      obtain ⟨kind, hkind, rfl⟩ := List.mem_map.mp hmem
      exact isInner_of_indentationMarks hmarks kind hkind
    -- the marks of a line belong to no statement, so only what is behind them counts
    rcases load_eq_zero_or_suffix houter hback with hzero | hrest
    · omega
    · exact ih hrest
  | bracketed _ _ _ _ ih => exact ih hback
  | newline h ih =>
    rcases List.suffix_cons_iff.mp hback with rfl | hrest
    · exact Nat.zero_le _
    · exact (ih hrest).trans (Nat.le_succ _)
  | token hc hslash hlexeme hdue h ih =>
    rcases List.suffix_cons_iff.mp hback with rfl | hrest
    · exact (Lexed.token hc hslash hlexeme hdue h).load_le.trans (Nat.sub_le _ _)
    · refine (ih hrest).trans ?_
      rw [(lexeme?_eq_append hlexeme).1, List.length_append]
      omega

/-- So the depth that a parser goes to is enough for every statement. -/
theorem bounded_of_tokens? {tokens : List Token} (h : tokens? text = some tokens) :
    Bounded (text.length + 2) tokens := by
  intro front back heq
  have hload := (lexed_of_tokens? h).load_le_of_suffix ⟨front, heq.symm⟩
  have := length_unifyBreaks_le text
  omega

/-- **A file with its marked statements overwritten** is the file with their places substituted, and
the places are those that the lexer sees. -/
theorem edits_of_places {printing : Printing} {contents : String} {items : List Item}
    {places : List (Extent × List Char)} {marks : Option Expr → Bool} {nested : Nested}
    (htokens : tokens? contents.toList = some (flat items))
    (houtline : Outline marks nested (.line 0) items)
    (hplaces : List.Forall₂ (IsPlace printing contents) (marked items) places) :
    Edits printing (PartsBreaks printing contents) ⟨1, 0⟩ none contents.toList (marked items)
        (substituted contents.toList 0 places)
      ∧ List.Forall₂ (fun statement place => Located contents statement place.1) (marked items)
          places := by
  have hsites := (lexed_of_tokens? htokens).sites houtline ⟨rfl, rfl⟩
  rw [unifyBreaks_eq_unified] at hsites
  have hcut : CutAt contents [] contents.toList ⟨1, 0⟩ none :=
    ⟨(List.nil_append contents.toList).symm, rfl, rfl⟩
  obtain ⟨others, hothers, hlocated, -, hedits⟩ := exists_edits hcut hsites
  obtain rfl := eq_of_isPlace hplaces hothers
  exact ⟨hedits, hlocated⟩

/-- **The marked statements of a reprint are those of the file**, printed, and those that are not
printed end their lines. -/
theorem forall_isPrinted_and_endLines {printing : Printing} {contents : String}
    {items items' : List Item} {places : List (Extent × List Char)} {marks : Option Expr → Bool}
    (hprinting : ∀ statement name text, printing statement = some (name, text) →
      Callable name ∧ marks (some (callExpr name text)) = true)
    (htokens : tokens? contents.toList = some (flat items))
    (houtline : Outline marks (exprAt (contents.toList.length + 2)) (.line 0) items)
    (hplaces : List.Forall₂ (IsPlace printing contents) (marked items) places)
    (htokens' : tokens? (substituted contents.toList 0 places) = some (flat items'))
    (houtline' : Outline marks (exprAt ((substituted contents.toList 0 places).length + 2))
      (.line 0) items') :
    List.Forall₂
        (IsPrinted (Stands (unifyBreaks (substituted contents.toList 0 places))
          (StandsIn (substituted contents.toList 0 places))))
        ((marked items).filterMap printing) (marked items')
      ∧ EndLines printing items := by
  have hcallable : ∀ statement name content, printing statement = some (name, content) →
      Callable name := fun statement name content hprinted => (hprinting _ _ _ hprinted).1
  obtain ⟨hedits, -⟩ := edits_of_places htokens houtline hplaces
  have hover := (hedits.overwrites hcallable (List.nil_append _).symm).1 rfl
  rw [← unifyBreaks_eq_unified, ← unifyBreaks_eq_unified] at hover
  -- the reprint has been read as well, so its tokens can be compared with those of the file
  have hreads : Reads (unifyBreaks (substituted contents.toList 0 places)) true .start [] [] ⟨1, 0⟩
      (unifyBreaks (substituted contents.toList 0 places)) (flat items') :=
    ⟨lexed_of_tokens? htokens', ⟨[], rfl, rfl⟩, houtline'.tidy⟩
  have hleads := follows hcallable _ (Nat.lt_succ_self _)
    ⟨lexed_of_tokens? htokens, houtline, ⟨rfl, rfl⟩, hover, .inl ⟨rfl, rfl⟩,
      ⟨nofun, fun _ => rfl⟩, hreads⟩
  exact hleads.reprints.isPrinted_and_endLines hprinting houtline houtline' rfl
    (bounded_of_tokens? htokens) (bounded_of_tokens? htokens') (.inl rfl)

/-- **A printed call is where it was printed.** -/
theorem cut_of_isPrinted {name content : String} {statement : ParsedStatement}
    {place : Extent × List Char} {printing : Printing} (hname : Callable name)
    (hprinted : IsPrinted (Stands (unifyBreaks contents.toList) (StandsIn contents.toList))
      (name, content) statement)
    (hplace : IsPlace printing contents statement place) :
    place.1.cut contents.toList = call name content := by
  obtain ⟨⟨rest, ⟨seen, hseen, hstart⟩, front, back, hcontents, hrest⟩, hstatement⟩ := hprinted
  dsimp only at hseen hcontents hrest hstatement
  have hfront : seen = fed none front := by
    rw [hrest, unifyBreaks_eq_unified, hcontents, unified_append, unified_call hname] at hseen
    exact (List.append_cancel_right hseen).symm
  have hfed : fed none front = lineFeeds front := fed_eq_lineFeeds nofun
  -- a call neither begins with a line feed nor ends in a carriage return, so no break is cut in two
  have hapart : Apart front (call name content ++ back) := by
    intro _ hfeed
    obtain ⟨c, behind, hc, -, hne, -⟩ :=
      exists_eq_cons_of_beginsLexeme (beginsLexeme_call hname content)
    rw [hc] at hfeed
    exact hne (Option.some.inj hfeed)
  have hapart' : Apart (front ++ call name content) back := by
    intro hreturn
    rw [List.getLast?_append, getLast?_call, Option.some_or] at hreturn
    exact absurd hreturn (by decide)
  have hcalls : lineFeeds (front ++ call name content) = lineFeeds front ++ call name content := by
    rw [lineFeeds_append hapart.of_append_right,
      lineFeeds_of_not_mem (return_not_mem_call hname content)]
  have hat : statement.At contents front.length (front ++ call name content).length none := by
    refine ⟨?_, ?_, by simp, ?_⟩
    · rw [hstart, hfront, hfed]
      exact denotes_lineFeeds hcontents hapart
    · rw [hstatement]
      dsimp only
      rw [hstart, hfront, hfed, ← Position.afterText_append, ← hcalls]
      exact denotes_lineFeeds (by rw [hcontents, List.append_assoc]) hapart'
    · rw [hstatement]
      exact .none
  have hextent : place.1 = ⟨front.length, (front ++ call name content).length, by simp⟩ := by
    have heq := Except.ok.inj (hplace.1.symm.trans hat.ofParsed)
    exact congrArg Statement.extent heq
  rw [hextent, Extent.cut, hcontents]
  simp

/-! ## What is read again -/

/-- The names of the settings when no key is set. -/
def Reprint.Names.standard : Names := .ofChoice .standard "" ""

theorem callable_of (kind : BlockKind) : Callable (Names.standard.of kind) := by
  cases kind with
  | directive => exact callable_org
  | assertion | code => exact callable_expect

/-- What is printed is a call that is read again. -/
theorem callable_and_calls {statement : ParsedStatement} {name text : String}
    (h : printingOf .standard .standard statement = some (name, text)) :
    Callable name ∧ Statement.calls .standard (some (callExpr name text)) = true := by
  obtain ⟨⟨kind, text'⟩, -, heq⟩ := Option.map_eq_some_iff.mp h
  obtain ⟨rfl, rfl⟩ := Prod.mk.inj heq
  exact ⟨callable_of kind, by cases kind <;> rfl⟩

/-- **A record is read again**, if it is of no assertion or its text is trimmed. -/
theorem record?_callExpr {kind : BlockKind} {text : String}
    (hkind : kind ≠ .code)
    (htrimmed : kind = .assertion → Expectation.trimmed text.toList = text.toList) :
    Statement.record? .standard (some (callExpr (Names.standard.of kind) text))
      = some (kind, text) := by
  cases kind with
  | directive => rfl
  | code => exact absurd rfl hkind
  | assertion =>
    have hrecord : Statement.record? .standard (some (callExpr (Names.standard.of .assertion) text))
        = some (.assertion, String.ofList (Expectation.trimmed text.toList)) := rfl
    rw [hrecord, htrimmed rfl, String.ofList_toList]

/-- A record that is read again as it was. -/
def Lasting (record : BlockKind × String) : Prop :=
  record.1 ≠ .code ∧ (record.1 = .assertion → Expectation.trimmed record.2.toList = record.2.toList)

/-- What the calls of a reprint record, and what stands in their places. -/
theorem record?_of_isPrinted {records : List (BlockKind × String)}
    {statements : List ParsedStatement} {places : List (Extent × List Char)}
    (hrecords : ∀ record ∈ records, Lasting record)
    (h : List.Forall₂ (IsPrinted (Stands (unifyBreaks contents.toList) (StandsIn contents.toList)))
      (records.map fun record => (Names.standard.of record.1, record.2)) statements)
    (hplaces : List.Forall₂ (IsPlace (printingOf .standard .standard) contents) statements places) :
    (statements.filterMap fun statement => Statement.record? .standard statement.expression)
      = records
      ∧ ∀ place ∈ places, place.1.cut contents.toList = place.2 := by
  induction records generalizing statements places with
  | nil =>
    cases h
    cases hplaces
    exact ⟨rfl, nofun⟩
  | cons record records ih =>
    obtain ⟨⟨hkind, htrimmed⟩, hothers⟩ := List.forall_mem_cons.mp hrecords
    cases h with
    | @cons _ statement _ statements hprinted hrest =>
      cases hplaces with
      | @cons _ place _ places hplace hmore =>
        obtain ⟨hread, hcut⟩ := ih hothers hrest hmore
        have hrecord : Statement.record? .standard statement.expression = some record := by
          rw [hprinted.2]
          exact record?_callExpr hkind htrimmed
        refine ⟨by rw [List.filterMap_cons, hrecord, hread], ?_⟩
        rw [List.forall_mem_cons]
        refine ⟨?_, hcut⟩
        rw [cut_of_isPrinted (callable_of record.1) hprinted hplace, hplace.2, printedChars,
          printingOf, hrecord]
        rfl

/-- How a text with a name is read when nothing is chosen. -/
def Reading.named (sourceName : Option String) : Reading := { Reading.standard with sourceName }

theorem Reading.vocabularyFor_named (sourceName : Option String) (classifies : Bool) :
    ((Reading.named sourceName).vocabularyFor classifies).outcome = .ok .standard := by
  cases classifies <;> rfl

/-- Every exact assertion has a text that a tolerant one could stand for. -/
def ExactTrimmed (contents : String) (phrases : List Phrase) : Prop :=
  ∀ statement ∈ phrases.flatMap (·.statements), ∀ assertion text,
    statement.marker? .standard (some contents) = .ok (some (.assertion assertion)) →
    assertion.strictness = .exact → assertion.payload = some text →
    Expectation.trimmed text.toList = text.toList

/-- What is recorded lasts, if every exact assertion is trimmed. -/
theorem lasting_of_exactTrimmed (hexact : ExactTrimmed contents phrases)
    {record : BlockKind × String}
    (hmem : record ∈ (patches .standard Expectation.recorded contents phrases).filterMap
      Patch.record?) : Lasting record := by
  obtain ⟨patch, hpatch, hrecord⟩ := List.mem_filterMap.mp hmem
  obtain ⟨statement, hstatement, hfound⟩ := List.mem_filterMap.mp hpatch
  obtain ⟨block, hblock, rfl⟩ := Option.map_eq_some_iff.mp hrecord
  refine ⟨Patch.kind_of_block? hblock, fun hkind => ?_⟩
  unfold Statement.patch? at hfound
  split at hfound
  next marker hmarker =>
    obtain rfl := Option.some.inj hfound
    cases marker with
    | directive | part =>
      cases hblock
      try cases hkind
    | assertion content =>
      rw [Patch.ofMarker] at hblock
      cases hrecorded : Expectation.recorded content with
      | none =>
        rw [hrecorded] at hblock
        cases hblock
      | some text =>
        rw [hrecorded] at hblock
        obtain rfl := Option.some.inj hblock
        show Expectation.trimmed text.toList = text.toList
        cases hstrictness : content.strictness with
        | tolerant =>
          -- what a tolerant assertion is recorded as has been trimmed already
          have htrimmed := Expectation.trimmed_of_recorded hstrictness hrecorded
          rw [← String.toList_ofList (l := Expectation.trimmed text.toList), htrimmed]
        | exact =>
          have hpayload : content.payload = some text := by
            unfold Expectation.recorded at hrecorded
            rw [hstrictness] at hrecorded
            cases hpayload : content.payload with
            | none =>
              rw [hpayload] at hrecorded
              cases hrecorded
            | some given =>
              rw [hpayload] at hrecorded
              exact hrecorded
          exact hexact statement hstatement content text hmarker hstrictness hpayload
  next => cases hfound

/-- **Reprinting is stable.** A file whose exact assertions are trimmed, as those are that a
tolerant one stands for, is printed as a text of which the same is printed again, if that can be
partitioned. No directive and no assertion is lost on the way, and none is changed. -/
theorem reprint_stable {sourceName again : Option String} {blocks blocks' : List Block}
    (hphrases : phrasesOf (Reading.named sourceName).name contents = .ok phrases)
    (hexact : ExactTrimmed contents phrases)
    (h : ((Reading.named sourceName).partition contents).outcome = .ok blocks)
    (hagain : ((Reading.named again).partition (Reprint.text .standard blocks)).outcome
      = .ok blocks') :
    Reprint.text .standard blocks' = Reprint.text .standard blocks
      ∧ (blocks'.filter fun b => decide (b.kind ≠ .code)).map (fun b => (b.kind, b.text))
        = (blocks.filter fun b => decide (b.kind ≠ .code)).map (fun b => (b.kind, b.text)) := by
  obtain ⟨phrases', -, hphrases', -, -⟩ := Reading.exists_of_outcome_partition hagain
  obtain ⟨items, htokens, houtline, hplaces, -, hprint, hblocks, hpatches⟩ :=
    exists_outlined .standard rfl (Reading.vocabularyFor_named _) hphrases h
  obtain ⟨items', htokens', houtline', hplaces', hordered', hprint', hblocks', -⟩ :=
    exists_outlined .standard rfl (Reading.vocabularyFor_named _) hphrases' hagain
  have hlasting : ∀ record ∈ (marked items).filterMap
      (fun statement => Statement.record? .standard statement.expression), Lasting record :=
    fun record hmem => lasting_of_exactTrimmed hexact (hpatches ▸ hmem)
  have htext := congrArg String.toList hprint
  rw [String.toList_ofList] at htext
  -- the marked statements of the reprint are the calls that were printed, in their places
  have hmarked := (forall_isPrinted_and_endLines (fun _ _ _ => callable_and_calls) htokens houtline
    hplaces (htext ▸ htokens') (htext ▸ houtline')).1
  rw [← htext] at hmarked
  have hcalls : (marked items).filterMap (printingOf .standard .standard)
      = ((marked items).filterMap
          fun statement => Statement.record? .standard statement.expression).map
        fun record => (Names.standard.of record.1, record.2) := List.map_filterMap.symm
  rw [hcalls] at hmarked
  obtain ⟨hread, hcut⟩ := record?_of_isPrinted hlasting hmarked hplaces'
  refine ⟨?_, ?_⟩
  · rw [hprint', substituted_self hordered' hcut, List.drop_zero, String.ofList_toList]
  · rw [hblocks', hblocks, hread]

namespace Sample

/-- An exact assertion with a blank at the end of its text. -/
def blankAtEnd : String := "expect_exact(\"a \")"

/-- What is printed of it. -/
def blankAtEndPrinted : String := "expect(\"\"\"a \"\"\")"

theorem outcome_partition_blankAtEnd : ((Reading.named none).partition blankAtEnd).outcome
    = .ok [⟨.assertion, "a ", .ofLength 0 18⟩] :=
  toOption_eq_some_iff.mp (by decide +kernel)

theorem outcome_partition_blankAtEndPrinted :
    ((Reading.named none).partition blankAtEndPrinted).outcome
      = .ok [⟨.assertion, "a", .ofLength 0 16⟩] :=
  toOption_eq_some_iff.mp (by decide +kernel)

theorem callable_expect_exact : Callable "expect_exact" where
  lexeme _ := rfl
  begins := rfl
  identifier := identifier_of_ascii rfl
  printable := rfl

/-- An exact assertion that is trimmed, between fences. -/
def trimmedExact : String := String.ofList (call "expect_exact" "a")

/-- The statement that it is. -/
def trimmedStatement : Statement :=
  .calling "expect_exact" ["a"] 1 (.ofLength 0 trimmedExact.length)

theorem exactTrimmed_trimmedExact : ExactTrimmed trimmedExact [.single trimmedStatement] := by
  intro statement hmem assertion text hmarker _ hpayload
  obtain rfl := List.mem_singleton.mp hmem
  have hfound : trimmedStatement.marker? .standard (some trimmedExact)
      = .ok (some (.assertion ⟨"expect_exact", .exact, some "a", trimmedStatement.extent⟩)) := rfl
  obtain rfl : _ = assertion := by simpa using hfound.symm.trans hmarker
  obtain rfl := Option.some.inj hpayload
  rfl

theorem outcome_partition_trimmedExact : ((Reading.named none).partition trimmedExact).outcome
    = .ok [⟨.assertion, "a", .ofLength 0 21⟩] :=
  toOption_eq_some_iff.mp (by decide +kernel)

theorem outcome_partition_trimmedPrinted :
    ((Reading.named none).partition
        (Reprint.text .standard [⟨.assertion, "a", .ofLength 0 21⟩])).outcome
      = .ok [⟨.assertion, "a", .ofLength 0 15⟩] :=
  toOption_eq_some_iff.mp (by decide +kernel)

end Sample

/-- An exact assertion that is trimmed becomes a tolerant one, and stays as it is. -/
theorem reprint_stable_exact :
    phrasesOf (Reading.named none).name Sample.trimmedExact = .ok [.single Sample.trimmedStatement]
      ∧ ExactTrimmed Sample.trimmedExact [.single Sample.trimmedStatement]
      ∧ Reprint.text .standard [⟨.assertion, "a", .ofLength 0 15⟩]
        = Reprint.text .standard [⟨.assertion, "a", .ofLength 0 21⟩] := by
  have hphrases : phrasesOf (Reading.named none).name Sample.trimmedExact
      = .ok [.single Sample.trimmedStatement] :=
    phrasesOf_call Sample.callable_expect_exact (by decide) (by decide)
  exact ⟨hphrases, Sample.exactTrimmed_trimmedExact,
    (reprint_stable hphrases Sample.exactTrimmed_trimmedExact Sample.outcome_partition_trimmedExact
      Sample.outcome_partition_trimmedPrinted).1⟩

/-- **Not every reprint is stable.** The blank at the end of an exact assertion is printed, and it
is lost when the file is printed a second time. -/
theorem not_forall_reprint_stable :
    ¬∀ (contents : String) (blocks blocks' : List Block),
        ((Reading.named none).partition contents).outcome = .ok blocks →
        ((Reading.named none).partition (Reprint.text .standard blocks)).outcome = .ok blocks' →
        Reprint.text .standard blocks' = Reprint.text .standard blocks := by
  intro h
  have hsame :=
    h _ _ _ Sample.outcome_partition_blankAtEnd Sample.outcome_partition_blankAtEndPrinted
  exact absurd hsame (by decide)

end ExpectFile
