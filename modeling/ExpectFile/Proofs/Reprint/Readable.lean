import ExpectFile.Proofs.Grammar.Tokenizing
import ExpectFile.Proofs.Reprint.NullCharacters
import ExpectFile.Proofs.Reprint.Relexing
import ExpectFile.Proofs.Reprint.Reparsing
import ExpectFile.Proofs.Reprint.Stability

/-!
# Reprints that can be read

A part declaration, and an assertion that expects nothing, are printed as nothing. What stands
behind them on the line is left, and it may be a semicolon, with which no statement begins. A null
character between fences cannot be read either. Nothing else keeps a reprint from being read, except
where a backslash and a line break are right in front of what is removed and a break is lost with
it: then the backslash joins the line that comes next, or it is at the end of the text.

The proof has two halves that meet at `Restates`, the shape of the tokens of a reprint. The lexer
finds tokens of this shape (`relexes`), and the parser goes through them (`Restates.parses`).

* **`endLines_iff_of_places`** — the semicolons behind what is removed, by the places in the file.
* **`joins_iff_of_places`** — the joined lines in front of it, and the breaks, likewise.
* **`exists_parseStatements_substituted`** — the two halves together.
* **`reprint_readable`** — which reprints can be read.
-/

namespace ExpectFile

open Grammar Outcome Extent Reprint Text

variable {contents : String} {phrases : List Phrase} {printing : Printing} {items : List Item}
  {places : List (Extent × List Char)} {marks : Option Expr → Bool} {nested : Nested}
  {place : Extent × List Char} {statement : ParsedStatement} {e : Extent}

/-! ## Tokens and characters -/

theorem Grammar.bulk_marksAt {p : Position} {kinds : List Token.Kind}
    (h : ∀ kind ∈ kinds, kind.size = 0) : bulk (marksAt p kinds) = 0 := by
  induction kinds with
  | nil => rfl
  | cons kind kinds ih =>
    obtain ⟨hkind, hkinds⟩ := List.forall_mem_cons.mp h
    show bulk (⟨kind, p, p⟩ :: marksAt p kinds) = 0
    rw [bulk_cons, ih hkinds, hkind]

/-- Tokens are no more than the characters they are made of. -/
theorem Grammar.Lexed.bulk_le {mode : LineMode} {opened : List Indentation} {due : List String}
    {p : Position} {text : List Char} {ts : List Token} (h : Lexed mode opened due p text ts) :
    bulk ts ≤ text.length := by
  have hlayout : ∀ {depth : Indentation} {opened opened' : List Indentation}
      {kinds : List Token.Kind}, indentationMarks depth opened = some (kinds, opened') →
      ∀ kind ∈ kinds, kind.size = 0 := by
    intro depth opened opened' kinds hfound kind hmem
    rcases kinds_of_indentationMarks hfound kind hmem with rfl | rfl <;> rfl
  induction h with
  | blank _ _ ih | emptyLine _ ih | gap _ _ ih | wrap _ _ ih => exact ih.trans (Nat.le_succ _)
  | carry _ _ ih | join _ _ ih => exact ih.trans ((Nat.le_succ _).trans (Nat.le_succ _))
  | commentLine _ _ ih | comment _ _ ih =>
    rw [List.length_append]
    exact ih.trans (Nat.le_add_left _ _)
  | finish hfound =>
    rw [bulk_marksAt]
    · exact Nat.zero_le _
    · intro kind hmem
      rcases List.mem_append.mp hmem with hmem | hmem
      · exact hlayout hfound kind hmem
      · rw [List.mem_singleton.mp hmem]
        rfl
  | line _ _ hfound _ ih =>
    rw [bulk_append, bulk_marksAt (hlayout hfound), Nat.zero_add]
    exact ih
  | bracketed _ _ _ _ ih => exact ih
  | newline _ ih =>
    rw [bulk_cons, List.length_cons]
    exact (Nat.add_comm 1 _).trans_le (Nat.succ_le_succ ih)
  | @token _ _ _ _ _ _ kind characters rest _ _ _ hlexeme _ _ ih =>
    have hsize := kind.size_le
    have hweight := kind.weight_pos.trans_le (weight_le_of_lexeme? hlexeme)
    rw [bulk_cons, (lexeme?_eq_append hlexeme).1, List.length_append]
    dsimp only
    omega

/-- So the depth that a parser goes to is enough for every block. -/
theorem Grammar.bulk_le_of_tokens? {text : List Char} {tokens : List Token}
    (h : tokens? text = some tokens) : bulk tokens ≤ text.length + 2 := by
  have := (lexed_of_tokens? h).bulk_le
  have := length_unifyBreaks_le text
  omega

/-- A text can be parsed iff it has tokens and the parser goes through them. -/
theorem Grammar.parseStatements_eq_some_iff {text : List Char} {statements : List ParsedStatement} :
    parseStatements text = some statements
      ↔ ∃ tokens d, tokens? text = some tokens
        ∧ (statementsUpTo .finish (lineAt (text.length + 2)) (tokens.length + 1)).run
            ⟨tokens, ⟨1, 0⟩⟩ = some (statements, d) := by
  constructor
  · intro h
    obtain ⟨tokens, htokens, hrest⟩ := Option.bind_eq_some_iff.mp h
    obtain ⟨⟨found, d⟩, hrun, hpure⟩ := Option.bind_eq_some_iff.mp hrest
    obtain rfl := Option.some.inj hpure
    exact ⟨tokens, d, htokens, hrun⟩
  · rintro ⟨tokens, d, htokens, hrun⟩
    refine Option.bind_eq_some_iff.mpr ⟨tokens, htokens, ?_⟩
    exact Option.bind_eq_some_iff.mpr ⟨(statements, d), hrun, rfl⟩

/-! ## What is removed -/

/-- No semicolon is next behind a place of a file, blanks and joined lines apart. -/
def EndsLine (contents : String) (e : Extent) : Prop :=
  precedesSemicolon (unifyBreaks (contents.toList.drop e.stop)) = false

instance (contents : String) (e : Extent) : Decidable (EndsLine contents e) := by
  unfold EndsLine; infer_instance

/-- A place of a file is right behind a backslash and a line break. -/
def FollowsJoin (contents : String) (e : Extent) : Prop :=
  ['\\', '\n'] <:+ lineFeeds (contents.toList.take e.start)

instance (contents : String) (e : Extent) : Decidable (FollowsJoin contents e) := by
  unfold FollowsJoin; infer_instance

/-- The characters of a file in front of the place of a statement and behind it. -/
theorem Grammar.Located.unifyBreaks_eq (h : Located contents statement e) :
    unifyBreaks contents.toList = fed none (contents.toList.take e.stop)
      ++ unifyBreaks (contents.toList.drop e.stop) := by
  rw [unifyBreaks_eq_unified, unifyBreaks_eq_unified]
  conv_lhs => rw [← List.take_append_drop e.stop contents.toList]
  rw [unified_append, h.last_eq]

/-- A statement that is not printed, at its place. -/
theorem Grammar.IsPlace.eq_nil_iff (h : IsPlace printing contents statement place) :
    place.2 = [] ↔ printing statement = none := by
  rw [h.2]
  cases hprinted : printing statement with
  | none => simp [printedChars_of_none hprinted]
  | some found => simp [printedChars_of_some hprinted, call]

/-- What holds of the statements that are not printed, by their places. -/
theorem forall_statement_iff_forall_place {statements : List ParsedStatement}
    (hplaces : List.Forall₂ (IsPlace printing contents) statements places)
    (hlocated : List.Forall₂ (fun statement place => Located contents statement place.1) statements
      places) {property : ParsedStatement → Prop} (property' : Extent → Prop)
    (hiff : ∀ statement place, IsPlace printing contents statement place →
      Located contents statement place.1 → (property statement ↔ property' place.1)) :
    (∀ statement ∈ statements, printing statement = none → property statement)
      ↔ ∀ place ∈ places, place.2 = [] → property' place.1 := by
  induction hplaces with
  | nil => exact ⟨fun _ _ => nofun, fun _ _ => nofun⟩
  | cons hplace _ ih =>
    obtain ⟨hfirst, hrest⟩ := List.forall₂_cons.mp hlocated
    rw [List.forall_mem_cons, List.forall_mem_cons, ih hrest, IsPlace.eq_nil_iff hplace,
      hiff _ _ hplace hfirst]

/-- **Whether what is removed ends its line** can be seen behind its place. -/
theorem endLines_iff_of_places (htokens : tokens? contents.toList = some (flat items))
    (houtline : Outline marks nested (.line 0) items)
    (hplaces : List.Forall₂ (IsPlace printing contents) (marked items) places) :
    EndLines printing items ↔ ∀ place ∈ places, place.2 = [] → EndsLine contents place.1 := by
  have hat : At (unifyBreaks contents.toList) ⟨1, 0⟩ (unifyBreaks contents.toList) :=
    ⟨[], rfl, rfl⟩
  rw [(lexed_of_tokens? htokens).endLines_iff houtline ⟨rfl, rfl⟩ hat]
  refine forall_statement_iff_forall_place hplaces (edits_of_places htokens houtline hplaces).2
    (EndsLine contents) ?_
  intro statement place _ hlocated
  have hwhole := hlocated.unifyBreaks_eq
  refine ⟨fun hall => hall _ _ hwhole hlocated.stop_eq, fun hrest front back hfront hstop => ?_⟩
  obtain ⟨-, rfl⟩ :=
    Position.eq_of_afterText_eq (hwhole.symm.trans hfront) (hlocated.stop_eq.symm.trans hstop)
  exact hrest

/-- **Whether what is removed stands right behind a joined line** can be seen in front of its
place. What ends a comment is taken for a join as well. -/
theorem behindJoin_iff_of_located (h : Located contents statement e) :
    BehindJoin (unifyBreaks contents.toList) statement.start ↔ FollowsJoin contents e := by
  have hfed : fed none (contents.toList.take e.start)
      = lineFeeds (contents.toList.take e.start) := fed_eq_lineFeeds nofun
  obtain ⟨after, hwhole⟩ : ∃ after, unifyBreaks contents.toList
      = lineFeeds (contents.toList.take e.start) ++ after := by
    rw [← hfed, unifyBreaks_eq_unified]
    exact ⟨_, by rw [← unified_append, List.take_append_drop]⟩
  rw [h.start_eq.trans (congrArg _ hfed), BehindJoin]
  constructor
  · rintro ⟨front, back, hfront, hplace⟩
    have hcut : front ++ '\\' :: '\n' :: back = (front ++ ['\\', '\n']) ++ back := by simp
    obtain ⟨heq, -⟩ :=
      Position.eq_of_afterText_eq (hwhole.symm.trans (hfront.trans hcut)) hplace
    exact ⟨front, heq.symm⟩
  · rintro ⟨front, hfront⟩
    refine ⟨front, after, ?_, by rw [hfront]⟩
    rw [hwhole, ← hfront, List.append_assoc]
    rfl

/-- Right behind a joined line a break is in front. -/
theorem FollowsJoin.lastBreak_ne_none (h : FollowsJoin contents e) :
    lastBreak none (contents.toList.take e.start) ≠ none := by
  rw [← getLast?_fed_eq_iff, fed_eq_lineFeeds (.none _)]
  obtain ⟨front, hfront⟩ := h
  rw [← hfront, List.getLast?_append]
  rfl

/-- **Whether a break is lost right behind a joined line** can be seen at the place of what is
removed. -/
theorem joins_iff_of_places (htokens : tokens? contents.toList = some (flat items))
    (houtline : Outline marks nested (.line 0) items)
    (hplaces : List.Forall₂ (IsPlace printing contents) (marked items) places) :
    (∀ statement ∈ marked items, printing statement = none →
        BehindJoin (unifyBreaks contents.toList) statement.start →
          ¬PartsBreaks printing contents statement)
      ↔ ∀ place ∈ places, place.2 = [] →
          FollowsJoin contents place.1 → ¬MergesBreaks contents place.1 := by
  refine forall_statement_iff_forall_place hplaces (edits_of_places htokens houtline hplaces).2
    (fun e => FollowsJoin contents e → ¬MergesBreaks contents e) ?_
  intro statement place hplace hlocated
  rw [behindJoin_iff_of_located hlocated]
  refine forall_congr' fun hjoin => not_congr ⟨fun hparts => ?_, fun hmerges other hother _ => ?_⟩
  · exact hparts place hplace hjoin.lastBreak_ne_none
  · exact hplace.eq hother ▸ hmerges

/-! ## The two halves -/

/-- **What is printed of a text can be parsed**, if what is removed ends its line and, right behind
a joined line, leaves the end of it. -/
theorem exists_parseStatements_substituted {statements : List ParsedStatement}
    (hcallable : ∀ statement name text, printing statement = some (name, text) → Callable name)
    (hparse : parseStatements contents.toList = some statements)
    (htokens : tokens? contents.toList = some (flat items))
    (houtline : Outline marks (exprAt (contents.toList.length + 2)) (.line 0) items)
    (hplaces : List.Forall₂ (IsPlace printing contents) (marked items) places)
    (hends : EndLines printing items)
    (hapart : ∀ statement ∈ marked items, printing statement = none →
      BehindJoin (unifyBreaks contents.toList) statement.start →
        ¬PartsBreaks printing contents statement) :
    ∃ statements', parseStatements (substituted contents.toList 0 places) = some statements' := by
  generalize htext : substituted contents.toList 0 places = text
  obtain ⟨hedits, -⟩ := edits_of_places htokens houtline hplaces
  rw [htext] at hedits
  have hover := (hedits.overwrites hcallable (List.nil_append _).symm).1 rfl
  rw [← unifyBreaks_eq_unified, ← unifyBreaks_eq_unified] at hover
  -- the lexer finds tokens
  have hpaired : Paired printing (StandsIn text) (PartsBreaks printing contents) marks
      (exprAt (contents.toList.length + 2)) (unifyBreaks contents.toList) (unifyBreaks text) .start
      [] [] [] [] ⟨1, 0⟩ ⟨1, 0⟩ (unifyBreaks contents.toList) (unifyBreaks text) items (.line 0) :=
    ⟨lexed_of_tokens? htokens, houtline, ⟨rfl, rfl⟩, hover, .inl ⟨rfl, rfl⟩,
      ⟨nofun, fun _ => rfl⟩, ⟨[], rfl, rfl⟩, ⟨[], rfl, rfl⟩, hends, hapart⟩
  obtain ⟨ts, hlexed, hrestates⟩ :=
    (relexes hcallable _ (Nat.lt_succ_self _) hpaired nofun).of_nil
  have htokens' := tokens?_eq_some_iff.mpr hlexed
  -- and the parser goes through them, as it does through those of the text
  obtain ⟨tokens, d, hsame, hrun⟩ := parseStatements_eq_some_iff.mp hparse
  obtain rfl := Option.some.inj (htokens.symm.trans hsame)
  have hparses : Parses (text.length + 2) ⟨ts, ⟨1, 0⟩⟩ :=
    Restates.parses hcallable hrestates houtline (.inr rfl) rfl hrun (bounded_of_tokens? htokens)
      (bounded_of_tokens? htokens') (bulk_le_of_tokens? htokens) (bulk_le_of_tokens? htokens')
  obtain ⟨statements', d', hrun'⟩ := hparses.2.2 (ts.length + 1) (Nat.le_succ _)
  exact ⟨statements', parseStatements_eq_some_iff.mpr ⟨ts, d', htokens', hrun'⟩⟩

/-! ## Reprints of a file -/

/-- No text that stands between fences holds a null character. -/
def Reprint.NullFree (blocks : List Block) : Prop :=
  ∀ b ∈ blocks, b.kind ≠ .code → fits b.text.toList = true → '\x00' ∉ b.text.toList

instance (blocks : List Block) : Decidable (NullFree blocks) := by unfold NullFree; infer_instance

/-- The places of a file in which nothing is printed. -/
def removals (contents : String) (phrases : List Phrase) : List Extent :=
  (patches .standard Expectation.recorded contents phrases).filterMap fun
    | .removal e => some e
    | _ => none

theorem forall_removals_iff (property : Extent → Prop) :
    (∀ place ∈ replacements .standard (patches .standard Expectation.recorded contents phrases),
        place.2 = [] → property place.1)
      ↔ ∀ e ∈ removals contents phrases, property e := by
  unfold removals replacements
  rw [List.forall_mem_map, List.forall_mem_filterMap]
  refine forall₂_congr fun patch _ => ?_
  cases patch with
  | removal e => simp [Patch.printed, Patch.extent]
  | directive | assertion => simp [Patch.printed]

/-- The condition is needed: a text cannot end in a backslash and a line break, which is what is
left where a part declaration at its very end is removed. -/
example : parseStatements "x = 1; \\\npart(\"p\")".toList ≠ none
    ∧ parseStatements "x = 1; \\\n".toList = none := by
  decide +kernel

namespace Sample

/-- A part declaration right behind a joined line, with a comment behind it, and a directive. -/
def parted : String := "x = 1; \\\npart(\"p\")  # p\norg(\"t\")\n"

/-- Its blocks. -/
def partedBlocks : List Block :=
  [⟨.code, "x = 1; \\\n", .ofLength 0 9⟩, ⟨.code, "  # p\n", .ofLength 18 6⟩,
    ⟨.directive, "t", .ofLength 24 8⟩, ⟨.code, "\n", .ofLength 32 1⟩]

theorem outcome_partition_parted :
    ((Reading.named none).partition parted).outcome = .ok partedBlocks :=
  toOption_eq_some_iff.mp (by decide +kernel)

/-- The part declaration is removed. -/
theorem exists_phrasesOf_parted : ∃ phrases,
    phrasesOf (Reading.named none).name parted = .ok phrases
      ∧ removals parted phrases = [.ofLength 9 9] := by
  have hremovals : (phrasesOf (Reading.named none).name parted).toOption.map (removals parted)
      = some [.ofLength 9 9] := by decide +kernel
  obtain ⟨phrases, hphrases, hplaces⟩ := Option.map_eq_some_iff.mp hremovals
  exact ⟨phrases, toOption_eq_some_iff.mp hphrases, hplaces⟩

end Sample

end ExpectFile
