import ExpectFile.Proofs.Reprint.Sites
import Mathlib.Data.List.Induction

/-!
# Files with statements overwritten

A file is overwritten as it is, with the breaks that it has, and the lexer sees line feeds for them.
A statement that is not printed can bring two breaks together, which are one then.

* **`Merges`** — when the breaks in front of a place and behind it are one without it.
* **`Edits.overwrites`** — what the lexer sees of the reprint is what it sees of the file, with the
  statements overwritten.
-/

namespace ExpectFile.Grammar

open Text Reprint

/-- What a statement is printed as, or no characters. -/
def printedChars (printing : Printing) (statement : ParsedStatement) : List Char :=
  match printing statement with
  | some (name, content) => call name content
  | none => []

/-- **Two breaks are one without what stands between them**: a carriage return in front and a line
feed behind, or either of them in front and the break that is added at the end of a text. A carriage
return and a line feed at the very end are no case of it, as a break is added behind the two. -/
def Merges (last : Option LineBreak) (rest : List Char) : Prop :=
  last = some .carriageReturn ∧ rest.head? = some '\n' ∧ rest.tail ≠ []
    ∨ (last = some .carriageReturn ∨ last = some .lineFeed) ∧ rest = []

instance (last : Option LineBreak) (rest : List Char) : Decidable (Merges last rest) := by
  unfold Merges; infer_instance

/-- **A file next to its reprint**: each of the statements, in its place, is overwritten. The
position is the one that the lexer has, and `last` the break in front. `merges` is known of a
statement if the break in front of it, where there is one, merges with the one behind. -/
inductive Edits (printing : Printing) (merges : ParsedStatement → Prop) :
    Position → Option LineBreak → List Char → List ParsedStatement → List Char → Prop where
  | nil (p : Position) (last : Option LineBreak) : Edits printing merges p last [] [] []
  | copy {p : Position} {last : Option LineBreak} {c : Char} {text text' : List Char}
      {statements : List ParsedStatement}
      (h : Edits printing merges (p.afterText (fedChars last c))
        (nextBreak last c) text statements text') :
      Edits printing merges p last (c :: text) statements (c :: text')
  | site {p : Position} {last : Option LineBreak} {spelled text text' : List Char}
      {statement : ParsedStatement} {statements : List ParsedStatement}
      (hstart : statement.start = p) (hstop : statement.stop = p.afterText (fed last spelled))
      (hspelled : spelled ≠ []) (hlast : lastBreak last spelled = none)
      (hmerges : (last ≠ none → Merges last text) → merges statement)
      (h : Edits printing merges (p.afterText (fed last spelled)) none text statements text') :
      Edits printing merges p last (spelled ++ text) (statement :: statements)
        (printedChars printing statement ++ text')

variable {printing : Printing} {stands : List Char → String → String → Prop}
  {drops : ParsedStatement → List Char → Prop} {merges : ParsedStatement → Prop} {p : Position}
  {last : Option LineBreak}
  {text text' front whole : List Char} {statement : ParsedStatement}
  {statements : List ParsedStatement} {c : Char}

/-- A statement that is printed leaves a call. -/
theorem printedChars_of_some {name content : String}
    (h : printing statement = some (name, content)) :
    printedChars printing statement = call name content := by
  unfold printedChars
  rw [h]

/-- One that is not printed leaves nothing. -/
theorem printedChars_of_none (h : printing statement = none) :
    printedChars printing statement = [] := by
  unfold printedChars
  rw [h]

theorem Overwrites.copyAll (front : List Char)
    (h : Overwrites printing stands drops (p.afterText front) text statements text') :
    Overwrites printing stands drops p (front ++ text) statements (front ++ text') := by
  induction front generalizing p with
  | nil => exact h
  | cons c front ih => exact .copy (ih h)

theorem Overwrites.refl (p : Position) (text : List Char) :
    Overwrites printing stands drops p text [] text := by
  have h : Overwrites printing stands drops (p.afterText text) [] [] [] := .nil
  simpa using h.copyAll text

/-- Where nothing is left of a file, nothing is left of the reprint. -/
theorem Edits.eq_nil (h : Edits printing merges p last [] statements text') :
    statements = [] ∧ text' = [] := by
  generalize htext : ([] : List Char) = text at h
  cases h with
  | nil => exact ⟨rfl, rfl⟩
  | copy => exact absurd htext nofun
  | site _ _ hspelled => exact absurd (List.append_eq_nil_iff.mp htext.symm).1 hspelled

/-- Where the reprint of a file has a call, and what the lexer sees of it. -/
def StandsIn (whole : List Char) (text : List Char) (name content : String) : Prop :=
  ∃ front back, whole = front ++ (call name content ++ back)
    ∧ text = call name content ++ unified none back

/-- A printed call ends in no break. -/
theorem lastBreak_call (last : Option LineBreak) (name content : String) :
    lastBreak last (call name content) = none := by
  obtain ⟨front, hfront⟩ := List.getLast?_eq_some_iff.mp (getLast?_call name content)
  rw [hfront, lastBreak_concat]
  rfl

/-- The lexer sees a printed call as it is. -/
theorem unified_call {name content : String} (hname : Callable name) (last : Option LineBreak)
    (rest : List Char) :
    unified last (call name content ++ rest) = call name content ++ unified none rest := by
  have huncut : Uncut last (call name content) := by
    intro _ hfeed
    obtain ⟨c, behind, hc, -, hne, -⟩ :=
      exists_eq_cons_of_beginsLexeme (beginsLexeme_call hname content)
    rw [hc] at hfeed
    exact hne (Option.some.inj hfeed)
  rw [unified_append, lastBreak_call, fed_eq_lineFeeds huncut,
    lineFeeds_of_not_mem (return_not_mem_call hname content)]

/-- A text next to what is printed of it, as the lexer sees them, where the reprint is `whole`. -/
abbrev OverwritesIn (printing : Printing) (merges : ParsedStatement → Prop) (whole : List Char) :
    Position → List Char → List ParsedStatement → List Char → Prop :=
  Overwrites printing (StandsIn whole) (LineGone (unifyBreaks whole) merges)

/-- Behind a break, and only there, the lexer is behind a line feed. -/
theorem getLast?_fed_eq_iff :
    (fed none front).getLast? = some '\n' ↔ lastBreak none front ≠ none := by
  induction front using List.reverseRecOn with
  | nil => exact ⟨nofun, fun h => absurd rfl h⟩
  | append_singleton front c ih =>
    rw [lastBreak_concat, fed_append]
    show (fed none front ++ (fedChars (lastBreak none front) c ++ [])).getLast? = _ ↔ _
    rw [List.append_nil]
    by_cases hreturn : c = '\r'
    · simp [fedChars, nextBreak, hreturn]
    · by_cases hfeed : c = '\n'
      · by_cases hlast : lastBreak none front = some .carriageReturn
        · simpa [fedChars, nextBreak, hfeed, hlast] using ih
        · simp [fedChars, nextBreak, hfeed, hlast]
      · rw [nextBreak_of_ne hreturn hfeed, fedChars_of_ne hreturn hfeed]
        simp [hfeed]

theorem atLineStart_of_lastBreak {front' : List Char} {kind : LineBreak}
    (hwhole : whole = front' ++ text') (hlast : lastBreak none front' = some kind) :
    AtLineStart (unifyBreaks whole) (unified (some kind) text') := by
  intro seen hseen
  rw [unifyBreaks_eq_unified, hwhole, unified_append, hlast] at hseen
  rw [← List.append_cancel_right hseen]
  exact getLast?_fed_eq_iff.mpr (hlast ▸ Option.some_ne_none kind)

/-- At the place of a marked statement. The character in front of what follows is none that a line
break can begin with, so the breaks of the file are taken up there afresh. -/
theorem overwrites_of_site {last last' : Option LineBreak} {spelled : List Char}
    {statement : ParsedStatement} (hstart : statement.start = p)
    (hstop : statement.stop = p.afterText (fed last spelled))
    (hlast : lastBreak last spelled = none)
    (hcallable : ∀ name content, printing statement = some (name, content) → Callable name)
    (hwhole : printedChars printing statement ++ text' <:+ whole)
    (hsame : printing statement ≠ none →
      OverwritesIn printing merges whole (p.afterText (fed last spelled)) (unified none text)
        statements (unified none text'))
    (hmore : printing statement = none →
      OverwritesIn printing merges whole (p.afterText (fed last spelled)) (unified none text)
          statements (unified last' text')
        ∨ ∃ rest, unified none text = '\n' :: rest
          ∧ LineGone (unifyBreaks whole) merges statement (unified last' text')
          ∧ OverwritesIn printing merges whole ((p.afterText (fed last spelled)).after '\n') rest
              statements (unified last' text')) :
    OverwritesIn printing merges whole p (unified last (spelled ++ text)) (statement :: statements)
      (unified last' (printedChars printing statement ++ text')) := by
  rw [unified_append, hlast]
  cases hprinted : printing statement with
  | none =>
    rw [printedChars_of_none hprinted, List.nil_append]
    rcases hmore hprinted with hdrop | ⟨rest, hrest, hgone, hdrop⟩
    · exact .drop hstart hstop hprinted hdrop
    · rw [hrest]
      exact .dropLine hstart hstop hprinted hgone hdrop
  | some found =>
    obtain ⟨name, content⟩ := found
    rw [printedChars_of_some hprinted] at hwhole ⊢
    -- a call holds no break and does not begin with a line feed, so the lexer sees it as it stands
    rw [unified_call (hcallable _ _ hprinted)]
    obtain ⟨front, hfront⟩ := hwhole
    exact .call hstart hstop hprinted ⟨front, text', hfront.symm, rfl⟩
      (hsame (by rw [hprinted]; nofun))

/-- **What the lexer sees of a file, next to what it sees of the reprint.** Where nothing is
printed, a carriage return in front and a line feed behind become one break, and a line feed in
front makes the one at the end of the text superfluous: then the end of the line is gone. -/
theorem Edits.overwrites {front' : List Char}
    (h : Edits printing merges p last text statements text')
    (hcallable : ∀ statement name content, printing statement = some (name, content)
      → Callable name)
    (hwhole : whole = front' ++ text') :
    (lastBreak none front' = last →
        OverwritesIn printing merges whole p (unified last text) statements (unified last text'))
      ∧ (last = none →
          OverwritesIn printing merges whole p (unified none text) statements
              (unified (lastBreak none front') text')
            ∨ ∃ rest, unified none text = '\n' :: rest ∧ Merges (lastBreak none front') text
              ∧ AtLineStart (unifyBreaks whole) (unified (lastBreak none front') text')
              ∧ OverwritesIn printing merges whole (p.after '\n') rest statements
                  (unified (lastBreak none front') text'))
      ∧ (last = some .lineFeed → lastBreak none front' = some .both → text ≠ [] →
          OverwritesIn printing merges whole p (unified last text) statements
            (unified (some .both) text')) := by
  induction h generalizing front' with
  | nil p last =>
    refine ⟨fun _ => .refl p _, fun _ => ?_, fun _ _ hne => absurd rfl hne⟩
    cases hlast' : lastBreak none front' with
    | none => exact .inl (.refl p _)
    | some found =>
      cases found with
      | both => exact .inl (.refl p _)
      | lineFeed | carriageReturn =>
        exact .inr ⟨[], rfl, by decide, atLineStart_of_lastBreak hwhole hlast', .nil⟩
  | @copy p last c text text' statements h ih =>
    -- the character reads the same behind any break, but for a line feed behind a carriage return
    obtain ⟨hsame, -, hfeed⟩ := ih
      (show whole = (front' ++ [c]) ++ text' by rw [hwhole, List.append_assoc]; rfl)
    rw [lastBreak_concat] at hsame hfeed
    have hcopy : fedChars (lastBreak none front') c = fedChars last c →
        nextBreak (lastBreak none front') c = nextBreak last c →
        OverwritesIn printing merges whole p (unified last (c :: text)) statements
          (unified (lastBreak none front') (c :: text')) := by
      intro hfed hnext
      rw [unified_cons, unified_cons, hfed, hnext]
      exact (hsame hnext).copyAll _
    refine ⟨fun hlast => hlast ▸ hcopy (by rw [hlast]) (by rw [hlast]), ?_, ?_⟩
    · rintro rfl
      by_cases hmerged : c = '\n' ∧ lastBreak none front' = some .carriageReturn
      · obtain ⟨rfl, hlast'⟩ := hmerged
        by_cases htext : text = []
        · subst htext
          obtain ⟨rfl, rfl⟩ := h.eq_nil
          rw [hlast']
          exact .inl (.refl p _)
        · rw [hlast'] at hfeed ⊢
          exact .inr ⟨_, rfl, .inl ⟨rfl, rfl, htext⟩, atLineStart_of_lastBreak hwhole hlast',
            hfeed rfl rfl htext⟩
      · refine .inl (hcopy ?_ ?_)
        · unfold fedChars
          grind
        · unfold nextBreak
          grind
    · rintro rfl hlast' -
      rw [hlast'] at hcopy
      exact hcopy rfl rfl
  | @site p last spelled text text' statement statements hstart hstop hspelled hlast hmerges h ih =>
    have hsuffix : printedChars printing statement ++ text' <:+ whole := ⟨front', hwhole.symm⟩
    have hsite : (last ≠ none → Merges (lastBreak none front') text → Merges last text) →
        OverwritesIn printing merges whole p (unified last (spelled ++ text))
          (statement :: statements)
          (unified (lastBreak none front') (printedChars printing statement ++ text')) := by
      intro hbreak
      refine overwrites_of_site hstart hstop hlast (hcallable statement) hsuffix (fun hsome => ?_)
        fun hnone => ?_
      · obtain ⟨⟨name, content⟩, hprinted⟩ := Option.ne_none_iff_exists'.mp hsome
        rw [printedChars_of_some hprinted, ← List.append_assoc] at hwhole
        exact (ih hwhole).1 (by rw [lastBreak_append, lastBreak_call])
      · rw [printedChars_of_none hnone, List.nil_append] at hwhole
        refine ((ih hwhole).2.1 rfl).imp_right fun ⟨rest, hrest, hone, hbehind, hover⟩ => ?_
        exact ⟨rest, hrest, ⟨hbehind, hmerges fun hne => hbreak hne hone⟩, hover⟩
    refine ⟨fun heq => ?_, fun heq => .inl ?_, fun heq hboth _ => ?_⟩
    · rw [heq] at hsite
      exact hsite fun _ hone => hone
    · rw [heq] at hsite
      exact hsite fun hne => absurd rfl hne
    · rw [hboth] at hsite
      exact hsite fun _ hone => absurd hone (by simp [Merges])

end ExpectFile.Grammar
