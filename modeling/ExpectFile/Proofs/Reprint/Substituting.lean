import ExpectFile.Proofs.Reprint.Edits
import ExpectFile.Proofs.Partition.Substitution
import ExpectFile.Proofs.Phrase.Placement

/-!
# Places of statements in a file

The replacements of a printed partition are given by offsets in the file, and the statements have
the positions of the lexer. The two describe the same reprint.

* **`exists_of_unified_eq_append`** — what the lexer sees up to a character is a piece of the file.
* **`exists_edits`** — the file with the places substituted has its statements overwritten.
-/

namespace ExpectFile.Grammar

open Text Reprint

variable {printing : Printing} {p : Position} {last : Option LineBreak}
  {text text' front back rest : List Char} {statement : ParsedStatement}
  {statements : List ParsedStatement} {c d : Char}

/-! ## Pieces of a file -/

theorem fedChars_cases (last : Option LineBreak) (c : Char) :
    fedChars last c = [] ∨ ∃ e, fedChars last c = [e] := by
  unfold fedChars
  split
  · exact .inr ⟨_, rfl⟩
  · split
    · split
      · exact .inl rfl
      · exact .inr ⟨_, rfl⟩
    · exact .inr ⟨_, rfl⟩

/-- What the lexer sees up to a character that is no line feed is a piece of the file. -/
theorem exists_of_unified_eq_append (h : unified last text = front ++ back)
    (hend : front.getLast? = some d) (hd : d ≠ '\n') (hback : back ≠ []) :
    ∃ first second, text = first ++ second ∧ fed last first = front ∧ lastBreak last first = none
      ∧ unified none second = back := by
  induction text generalizing last front with
  | nil =>
    -- at the end at most one character is still due, and two are asked for
    have hlength : (closing last).length ≤ 1 := by
      cases last with
      | none => simp [closing]
      | some kind => cases kind <;> simp [closing]
    have hfront : front ≠ [] := by
      rintro rfl
      cases hend
    rw [unified_nil] at h
    rw [h, List.length_append] at hlength
    have := List.length_pos_iff.mpr hfront
    have := List.length_pos_iff.mpr hback
    omega
  | cons c rest ih =>
    rw [unified_cons] at h
    rcases fedChars_cases last c with hfed | ⟨e, hfed⟩
    · rw [hfed, List.nil_append] at h
      obtain ⟨first, second, rfl, hfirst, hlast, hsecond⟩ := ih h hend
      exact ⟨c :: first, second, rfl, by rw [fed, hfed, List.nil_append, hfirst], hlast, hsecond⟩
    · cases front with
      | nil => cases hend
      | cons f front =>
        rw [hfed] at h
        obtain ⟨rfl, hrest⟩ := List.cons.inj h
        cases front with
        | nil =>
          obtain rfl : e = d := by simpa using hend
          -- the last character is no line feed, so it neither begins a break nor ends one
          have hreturn : c ≠ '\r' := by
            rintro rfl
            exact hd (List.cons.inj hfed).1.symm
          have hfeed : c ≠ '\n' := by
            rintro rfl
            unfold fedChars at hfed
            grind
          rw [nextBreak_of_ne hreturn hfeed] at hrest
          refine ⟨[c], rest, rfl, by simp [fed, hfed], ?_, hrest⟩
          exact nextBreak_of_ne hreturn hfeed
        | cons g front =>
          obtain ⟨first, second, rfl, hfirst, hlast, hsecond⟩ :=
            ih hrest (by simpa [List.getLast?_cons_cons] using hend)
          refine ⟨c :: first, second, rfl, ?_, hlast, hsecond⟩
          rw [fed, hfed, hfirst]
          rfl

theorem Sites.eq_nil (h : Sites p [] statements) : statements = [] := by
  generalize htext : ([] : List Char) = text at h
  cases h with
  | nil => rfl
  | skip => exact absurd htext nofun
  | site _ _ _ _ _ _ _ hne => exact absurd (List.append_eq_nil_iff.mp htext.symm).2 hne

theorem Edits.refl (printing : Printing) (merges : ParsedStatement → Prop) (p : Position)
    (last : Option LineBreak) (text : List Char) : Edits printing merges p last text [] text := by
  induction text generalizing p last with
  | nil => exact .nil p last
  | cons c text ih => exact .copy (ih _ _)

/-- No break is cut where none is cut for the lexer. -/
theorem apart_of_uncut (h : Uncut (lastBreak none front) back) : Apart front back :=
  fun hreturn => h (lastBreak_eq_carriageReturn_iff.mpr hreturn)

/-- Where a statement is, and what it is printed as. -/
def IsPlace (printing : Printing) (contents : String) (statement : ParsedStatement)
    (place : Extent × List Char) : Prop :=
  Statement.ofParsed (.ofText contents) contents.toList statement
      = .ok ⟨statement.expression, statement.start.line, place.1⟩
    ∧ place.2 = printedChars printing statement

/-- The breaks of a file in front of a place and behind it are one if nothing is there. -/
def MergesBreaks (contents : String) (e : Extent) : Prop :=
  Merges (lastBreak none (contents.toList.take e.start)) (contents.toList.drop e.stop)

instance (contents : String) (e : Extent) : Decidable (MergesBreaks contents e) := by
  unfold MergesBreaks; infer_instance

/-- The place of a statement parts two breaks of a file that are one without it, unless no break is
in front of it. -/
def PartsBreaks (printing : Printing) (contents : String) (statement : ParsedStatement) : Prop :=
  ∀ place, IsPlace printing contents statement place →
    lastBreak none (contents.toList.take place.1.start) ≠ none → MergesBreaks contents place.1

/-- A statement has one place. -/
theorem IsPlace.eq {contents : String} {place other : Extent × List Char}
    (h : IsPlace printing contents statement place)
    (hother : IsPlace printing contents statement other) : place = other := by
  have hextent := Except.ok.inj (h.1.symm.trans hother.1)
  exact Prod.ext (congrArg Statement.extent hextent) (h.2.trans hother.2.symm)

/-- A statement as the lexer sees it, and where it is in a file. No break is cut behind it. -/
structure Located (contents : String) (statement : ParsedStatement) (e : Extent) : Prop where
  start_eq : statement.start = Position.afterText ⟨1, 0⟩ (fed none (contents.toList.take e.start))
  stop_eq : statement.stop = Position.afterText ⟨1, 0⟩ (fed none (contents.toList.take e.stop))
  last_eq : lastBreak none (contents.toList.take e.stop) = none

/-- A file in two pieces, with the position of the lexer and the break in between. -/
structure CutAt (contents : String) (front back : List Char) (p : Position)
    (last : Option LineBreak) : Prop where
  contents_eq : contents.toList = front ++ back
  position_eq : p = Position.afterText ⟨1, 0⟩ (fed none front)
  last_eq : last = lastBreak none front

namespace CutAt

variable {contents : String} {word : List Char}

theorem drop_eq (h : CutAt contents front back p last) :
    contents.toList.drop front.length = back := by
  rw [h.contents_eq, List.drop_left]

theorem take_eq (h : CutAt contents front back p last) :
    contents.toList.take front.length = front := by
  rw [h.contents_eq, List.take_left]

/-- Some characters further on. -/
theorem behind (h : CutAt contents front (word ++ rest) p last) :
    CutAt contents (front ++ word) rest (p.afterText (fed last word)) (lastBreak last word) where
  contents_eq := by rw [h.contents_eq, List.append_assoc]
  position_eq := by rw [fed_append, Position.afterText_append, ← h.position_eq, ← h.last_eq]
  last_eq := by rw [lastBreak_append, ← h.last_eq]

/-- One character further on. -/
theorem behind_one (h : CutAt contents front (c :: rest) p last) :
    CutAt contents (front ++ [c]) rest (p.afterText (fedChars last c)) (nextBreak last c) := by
  have hword : CutAt contents front ([c] ++ rest) p last := h
  simpa [fed, lastBreak] using hword.behind

/-- A place of the lexer that cuts no break is a place of the file. -/
theorem denotes (h : CutAt contents front back p last) (huncut : Uncut last back) :
    (LineTable.ofText contents).Denotes p front.length := by
  have hfront : fed none front = lineFeeds front := fed_eq_lineFeeds (.none _)
  rw [h.position_eq, hfront]
  exact denotes_lineFeeds h.contents_eq (apart_of_uncut (h.last_eq ▸ huncut))

end CutAt

/-- The rest of a file has its statements overwritten, which are the places substituted in it. -/
def Substitutes (printing : Printing) (contents : String) (front back : List Char) (p : Position)
    (last : Option LineBreak) (statements : List ParsedStatement) : Prop :=
  ∃ places, List.Forall₂ (IsPlace printing contents) statements places
    ∧ List.Forall₂ (fun statement place => Located contents statement place.1) statements places
    ∧ (∀ place ∈ places.head?, front.length ≤ place.1.start)
    ∧ Edits printing (PartsBreaks printing contents) p last back statements
        (substituted contents.toList front.length places)

namespace Substitutes

variable {contents : String} {word : List Char}

/-- Nothing is left to overwrite. -/
theorem nil (printing : Printing) (h : CutAt contents front back p last) :
    Substitutes printing contents front back p last [] := by
  refine ⟨[], .nil, .nil, by simp, ?_⟩
  rw [substituted, h.drop_eq]
  exact .refl printing _ p last back

/-- One character is copied. -/
theorem copy (h : CutAt contents front (c :: rest) p last)
    (hrest : Substitutes printing contents (front ++ [c]) rest (p.afterText (fedChars last c))
      (nextBreak last c) statements) :
    Substitutes printing contents front (c :: rest) p last statements := by
  obtain ⟨places, hplaces, hlocated, hhead, hedits⟩ := hrest
  have hnext := h.behind_one
  have hcut : substituted contents.toList front.length places
      = c :: substituted contents.toList (front ++ [c]).length places := by
    cases places with
    | nil => rw [substituted, substituted, h.drop_eq, hnext.drop_eq]
    | cons place places =>
      obtain ⟨e, replacement⟩ := place
      have hle := hhead _ rfl
      rw [substituted, substituted, h.drop_eq, hnext.drop_eq]
      simp only [List.length_append, List.length_singleton] at hle ⊢
      rw [show e.start - front.length = e.start - (front.length + 1) + 1 by omega,
        List.take_succ_cons]
      rfl
  refine ⟨places, hplaces, hlocated, fun place hmem => ?_, hcut ▸ .copy hedits⟩
  have := hhead place hmem
  simp only [List.length_append] at this
  omega

/-- A statement is overwritten. -/
theorem site (h : CutAt contents front (word ++ rest) p last) (hword : word ≠ [])
    (hnone : lastBreak last word = none) (huncut : Uncut last (word ++ rest))
    (hstart : statement.start = p) (hstop : statement.stop = p.afterText (fed last word))
    (hdecorator : statement.decorator = none)
    (hrest : Substitutes printing contents (front ++ word) rest (p.afterText (fed last word)) none
      statements) :
    Substitutes printing contents front (word ++ rest) p last (statement :: statements) := by
  obtain ⟨places, hplaces, hlocated, -, hedits⟩ := hrest
  have hbehind := h.behind
  have hat : statement.At contents front.length (front ++ word).length none := by
    refine ⟨hstart ▸ h.denotes huncut, hstop ▸ hbehind.denotes ?_, by simp, hdecorator ▸ .none⟩
    rw [hnone]
    exact .none rest
  have hplace : IsPlace printing contents statement
      (⟨front.length, (front ++ word).length, by simp⟩, printedChars printing statement) :=
    ⟨hat.ofParsed, rfl⟩
  refine ⟨_ :: places, .cons hplace hplaces, .cons ⟨?_, ?_, ?_⟩ hlocated, ?_, ?_⟩
  · rw [h.take_eq, hstart, h.position_eq]
  · rw [hbehind.take_eq, hstop, hbehind.position_eq]
  · rw [hbehind.take_eq, ← hbehind.last_eq, hnone]
  · rintro place ⟨⟩
    exact Nat.le_refl _
  · rw [substituted, Nat.sub_self, List.take_zero, List.nil_append]
    refine .site hstart hstop hword hnone (fun hmerges place hother hne => ?_) hedits
    obtain rfl := hplace.eq hother
    rw [h.take_eq, ← h.last_eq] at hne
    rw [MergesBreaks, h.take_eq, ← h.last_eq, hbehind.drop_eq]
    exact hmerges hne

end Substitutes

/-- **A file with its statements overwritten** is the file with their places substituted. Induction
on what is left of the file. -/
theorem exists_edits {contents : String} (hcut : CutAt contents front back p last)
    (hsites : Sites p (unified last back) statements) :
    Substitutes printing contents front back p last statements := by
  generalize hlength : back.length = length
  induction length using Nat.strong_induction_on generalizing front back p last statements with
  | h length ih =>
  have hcopy : ∀ {c rest}, back = c :: rest →
      Sites (p.afterText (fedChars last c)) (unified (nextBreak last c) rest) statements →
      Substitutes printing contents front back p last statements := by
    rintro c rest rfl hrest
    exact .copy hcut (ih rest.length (by rw [← hlength]; simp) hcut.behind_one hrest rfl)
  generalize hunified : unified last back = seen at hsites
  cases hsites with
  | nil => exact .nil printing hcut
  | @skip _ c seen _ h =>
    cases back with
    | nil =>
      -- the file is at its end, so what is skipped closes its last break
      have hempty : seen = [] := by
        rcases last with _ | kind
        · exact (List.cons.inj hunified).2.symm
        cases kind with
        | both => exact (List.cons.inj hunified).2.symm
        | lineFeed | carriageReturn => cases hunified
      subst hempty
      obtain rfl := h.eq_nil
      exact .nil printing hcut
    | cons d rest =>
      rw [unified_cons] at hunified
      refine hcopy rfl ?_
      -- a character gives one of the lexer, or none where it only begins or ends a break
      rcases fedChars_cases last d with hfed | ⟨e, hfed⟩
      · rw [hfed] at hunified ⊢
        rw [List.nil_append] at hunified
        rw [hunified]
        exact .skip h
      · rw [hfed] at hunified ⊢
        obtain ⟨rfl, hrest⟩ := List.cons.inj hunified
        rw [List.append_eq, List.nil_append] at hrest
        rw [hrest]
        exact h
  | @site _ e d spelled seen statement statements hstart hstop hdecorator hfirst he hend hd hne h =>
    by_cases huncut : Uncut last back
    · obtain ⟨word, rest, rfl, rfl, hnone, hrest⟩ :=
        exists_of_unified_eq_append hunified hend hd hne
      have hword : word ≠ [] := by
        rintro rfl
        cases hend
      have hless : rest.length < length := by
        have := List.length_pos_iff.mpr hword
        rw [← hlength, List.length_append]
        omega
      have hbehind := hnone ▸ hcut.behind
      exact .site hcut hword hnone huncut hstart hstop hdecorator
        (ih rest.length hless hbehind (hrest.symm ▸ h) rfl)
    · -- the line feed belongs to the break in front
      obtain ⟨hreturn, hfeed⟩ : last = some .carriageReturn ∧ back.head? = some '\n' := by
        simpa [Uncut] using huncut
      obtain ⟨rest, rfl⟩ := List.head?_eq_some_iff.mp hfeed
      have hfed : fedChars last '\n' = [] := by simp [fedChars, hreturn]
      rw [unified_cons, hfed, List.nil_append] at hunified
      refine hcopy rfl ?_
      rw [hfed, hunified]
      exact .site hstart hstop hdecorator hfirst he hend hd hne h

end ExpectFile.Grammar
