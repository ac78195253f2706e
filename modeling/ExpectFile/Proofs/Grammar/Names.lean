import ExpectFile.Proofs.Grammar.Layout
import ExpectFile.Proofs.Grammar.Lines
import ExpectFile.Proofs.Grammar.Quotation

/-!
# Names and literals in front of other lexemes

The lexer takes the longest lexeme, so what it takes depends on what follows. In front of a point or
a parenthesis a name is taken as it is spelled, and in front of anything but a quotation mark a
literal is; which letters come before a literal makes no difference, although a name may consist of
the same letters.

* **`lexeme?_name`**, **`lexeme?_point`** — the parts of a dotted name.
* **`lexeme?_literal_append`** — a literal, whatever its spelling.
* **`line_argument`** — a literal in parentheses.
-/

namespace ExpectFile.Grammar

open Text Unicode

/-! ## Characters of names -/

/-- A well-formed name that is no keyword, as it is spelled. -/
structure IsName (raw : List Char) : Prop where
  wellFormed : isIdentifier raw = true
  not_keyword : String.ofList raw ∉ keywords

theorem isWordChar_of_start {c : Char} (h : isIdentifierStart c = true) : isWordChar c = true := by
  unfold isIdentifierStart at h
  unfold isWordChar
  split at h
  · rcases Bool.or_eq_true_iff.mp h with halpha | hscore
    · simp [Char.isAlphanum, halpha]
    · simp [hscore]
  · rename_i hlarge
    simp [Nat.le_of_not_lt hlarge]

theorem isWordChar_of_continue {c : Char} (h : isIdentifierContinue c = true) :
    isWordChar c = true := by
  unfold isIdentifierContinue at h
  unfold isWordChar
  split at h
  · rw [h]
    rfl
  · rename_i hlarge
    simp [Nat.le_of_not_lt hlarge]

/-- No name begins with a digit. -/
theorem isDigit_of_start {c : Char} (h : isIdentifierStart c = true) : c.isDigit = false := by
  have hall : ∀ d < 10, isIdentifierStart (Char.ofNat (48 + d)) = false := by decide
  refine Bool.eq_false_iff.mpr fun hdigit => ?_
  have hrange : 48 ≤ c.toNat ∧ c.toNat ≤ 57 := by
    simpa [Char.isDigit, UInt32.le_iff_toNat_le] using hdigit
  have hc : Char.ofNat (48 + (c.toNat - 48)) = c := by
    rw [Nat.add_sub_cancel' hrange.1, Char.ofNat_toNat]
  have hnone := hall (c.toNat - 48) (by omega)
  rw [hc] at hnone
  exact Bool.false_ne_true (hnone.symm.trans h)

variable {raw rest : List Char}

theorem IsName.exists_eq_cons (h : IsName raw) :
    ∃ c others, raw = c :: others ∧ isIdentifierStart c = true := by
  have hraw := h.wellFormed
  unfold isIdentifier at hraw
  split at hraw
  · exact absurd hraw nofun
  · exact ⟨_, _, rfl, (Bool.and_eq_true_iff.mp hraw).1⟩

theorem IsName.isWordChar (h : IsName raw) {c : Char} (hc : c ∈ raw) :
    Grammar.isWordChar c = true := by
  have hraw := h.wellFormed
  unfold isIdentifier at hraw
  split at hraw
  · exact absurd hraw nofun
  · obtain ⟨hfirst, hothers⟩ := Bool.and_eq_true_iff.mp hraw
    rcases List.mem_cons.mp hc with rfl | hmem
    · exact isWordChar_of_start hfirst
    · exact isWordChar_of_continue (List.all_eq_true.mp hothers c hmem)

theorem ne_of_isWordChar {c d : Char} (h : isWordChar c = true) (hd : isWordChar d = false) :
    c ≠ d := by
  rintro rfl
  exact absurd (h.symm.trans hd) nofun

theorem isMark_of_isWordChar {c : Char} (h : isWordChar c = true) :
    literalLetters.isMark c = false := by
  have happostrophe : c ≠ apostrophe := ne_of_isWordChar h (by decide)
  have hdouble : c ≠ doubleQuote := ne_of_isWordChar h (by decide)
  simp [literalLetters.isMark, happostrophe, hdouble]

theorem IsName.begins (h : IsName raw) : beginsLexeme raw = true := by
  obtain ⟨c, others, rfl, hc⟩ := h.exists_eq_cons
  have hword := isWordChar_of_start hc
  have hne : ∀ d, Grammar.isWordChar d = false → c ≠ d := fun d => ne_of_isWordChar hword
  simp [beginsLexeme, isGap, hne ' ' rfl, hne '\t' rfl, hne '\x0c' rfl, hne '\n' rfl, hne '#' rfl,
    hne '\\' rfl]

/-! ## Names -/

/-- No letters in front of a quotation mark begin a text, if its first characters do not allow it.
-/
theorem literalLetters_eq_none {c : Char} (hmark : literalLetters.isMark c = false)
    (hletter : literalLetters.isLetter c = true →
      ∀ q ∈ rest.head?, literalLetters.isMark q = false)
    (hpair : ∀ q r after, rest = q :: r :: after → literalLetters.isPair c q = true →
      literalLetters.isMark r = false) :
    literalLetters (c :: rest) = none := by
  have hone : ∀ q more, rest = q :: more →
      ¬(literalLetters.isMark q = true ∧ literalLetters.isLetter c = true) := by
    rintro q more rfl ⟨hq, hc⟩
    exact Bool.false_ne_true ((hletter hc q rfl).symm.trans hq)
  have htwo : ∀ q r after, rest = q :: r :: after →
      ¬(literalLetters.isMark r = true ∧ literalLetters.isPair c q = true) := by
    rintro q r after rfl ⟨hr, hc⟩
    exact Bool.false_ne_true ((hpair q r after rfl hc).symm.trans hr)
  cases rest with
  | nil => simp [literalLetters, hmark]
  | cons q more =>
    cases more with
    | nil => simp [literalLetters, hmark, hone q [] rfl]
    | cons r after => simp [literalLetters, hmark, hone q (r :: after) rfl, htwo q r after rfl]

/-- No literal begins with a character that is neither a quotation mark nor a letter. -/
theorem literalLetters_eq_none_of {c : Char} (hmark : literalLetters.isMark c = false)
    (hletter : literalLetters.isLetter c = false)
    (hpair : ∀ other, literalLetters.isPair c other = false) (rest : List Char) :
    literalLetters (c :: rest) = none :=
  literalLetters_eq_none hmark (fun hc => absurd (hletter.symm.trans hc) nofun)
    fun q _ _ _ hc => absurd ((hpair q).symm.trans hc) nofun

/-- A point or a parenthesis. -/
def goesOn (c : Char) : Bool := c == '.' || c == '('

theorem eq_of_goesOn {c : Char} (h : goesOn c = true) : c = '.' ∨ c = '(' := by
  simpa [goesOn] using h

theorem literalLetters_name (h : IsName raw) {c : Char} (hc : goesOn c = true) :
    literalLetters (raw ++ c :: rest) = none := by
  have hword : ∀ d ∈ raw, literalLetters.isMark d = false :=
    fun d hd => isMark_of_isWordChar (h.isWordChar hd)
  have hmark : literalLetters.isMark c = false := by rcases eq_of_goesOn hc with rfl | rfl <;> decide
  obtain ⟨first, others, rfl, -⟩ := h.exists_eq_cons
  refine literalLetters_eq_none (hword first List.mem_cons_self) ?_ ?_
  · intro _ q hq
    cases others with
    | nil => exact Option.some.inj hq ▸ hmark
    | cons second more => exact Option.some.inj hq ▸ hword second (by simp)
  · intro q r after heq hpair
    -- the second character goes with the first, so it is part of the name
    match others with
    | [] =>
      obtain rfl : c = q := (List.cons.inj heq).1
      rcases eq_of_goesOn hc with rfl | rfl <;> simp [literalLetters.isPair] at hpair
    | [second] =>
      obtain rfl : c = r := (List.cons.inj (List.cons.inj heq).2).1
      exact hmark
    | second :: third :: more =>
      obtain rfl : third = r := (List.cons.inj (List.cons.inj heq).2).1
      exact hword third (by simp)

/-- **A name in front of a point or a parenthesis** is taken as it is spelled. -/
theorem lexeme?_name (h : IsName raw) {c : Char} (hc : goesOn c = true) :
    lexeme? (raw ++ c :: rest) = some (.name raw, raw, c :: rest) := by
  have hstop : Grammar.isWordChar c = false := by rcases eq_of_goesOn hc with rfl | rfl <;> decide
  have htake : (raw ++ c :: rest).takeWhile Grammar.isWordChar = raw := by
    rw [List.takeWhile_append_of_pos fun d => h.isWordChar,
      List.takeWhile_cons_of_neg (by simp [hstop]), List.append_nil]
  have hdrop : (raw ++ c :: rest).dropWhile Grammar.isWordChar = c :: rest := by
    rw [List.dropWhile_append_of_pos fun d => h.isWordChar,
      List.dropWhile_cons_of_neg (by simp [hstop])]
  have hread : word raw (c :: rest) = some (.name raw, raw, c :: rest) := by
    unfold word
    rw [if_neg (by simpa using h.not_keyword), if_pos (by simp [h.wellFormed])]
  unfold lexeme?
  rw [literalLetters_name h hc, htake, hdrop, hread]
  obtain ⟨first, others, rfl, hfirst⟩ := h.exists_eq_cons
  have hpoint : first ≠ '.' := ne_of_isWordChar (isWordChar_of_start hfirst) (by decide)
  simp [isDigit_of_start hfirst, hpoint, isWordChar_of_start hfirst]

/-- **A point in front of a name.** -/
theorem lexeme?_point (h : IsName raw) :
    lexeme? ('.' :: (raw ++ rest)) = some (.operator ".", ['.'], raw ++ rest) := by
  obtain ⟨first, others, rfl, hfirst⟩ := h.exists_eq_cons
  have hpoint : '.' ≠ first := (ne_of_isWordChar (isWordChar_of_start hfirst) (by decide)).symm
  have hsymbol : operator? ('.' :: (first :: others ++ rest)) = some "." := by
    simp [operator?, longOperators, pairOperators, singleOperators, hpoint]
  unfold lexeme?
  rw [literalLetters_eq_none_of (by decide) (by decide) (fun _ => rfl), hsymbol]
  show (if _ then _ else if isWordChar '.' = true then _ else _) = _
  rw [if_neg (by simp [isDigit_of_start hfirst]), if_neg (by decide)]
  rfl

/-- **A parenthesis or a semicolon** is a lexeme of its own, whatever is behind it: no longer
operator and no literal begins with one. -/
theorem lexeme?_mark {mark : Char} (h : mark = '(' ∨ mark = ')' ∨ mark = ';') (rest : List Char) :
    lexeme? (mark :: rest) = some (.operator (.ofList [mark]), [mark], rest) := by
  unfold lexeme?
  rcases h with rfl | rfl | rfl
  all_goals
    rw [literalLetters_eq_none_of (by decide) (by decide) (fun _ => rfl)]
    rfl

/-! ## Literals -/

variable {mark : Char} {text letters quoted marks body after : List Char}

/-- Behind the letters of a literal comes a mark. What is behind the mark does not matter. -/
theorem literalLetters_eq_some (h : literalLetters text = some (letters, quoted)) :
    ∃ mark others, quoted = mark :: others ∧ literalLetters.isMark mark = true
      ∧ ∀ rest, literalLetters (letters ++ mark :: rest) = some (letters, mark :: rest) := by
  -- without letters, the first character is the mark
  have hplain : ∀ {a : Char} {others : List Char},
      (if literalLetters.isMark a then some ([], a :: others) else none) = some (letters, quoted) →
        ∃ mark others, quoted = mark :: others ∧ literalLetters.isMark mark = true
          ∧ ∀ rest, literalLetters (letters ++ mark :: rest) = some (letters, mark :: rest) := by
    intro a others h
    split at h
    · rename_i hmark
      cases h
      exact ⟨a, others, rfl, hmark, literalLetters_mark hmark⟩
    · cases h
  unfold literalLetters at h
  split at h
  · split at h
    · rename_i hone
      cases h
      exact ⟨_, _, rfl, hone.1, fun rest => by simp [literalLetters, hone]⟩
    · rename_i hone
      split at h
      · split at h
        · rename_i htwo
          cases h
          exact ⟨_, _, rfl, htwo.1, fun rest => by simp [literalLetters, hone, htwo]⟩
        · exact hplain h
      · exact hplain h
  · exact hplain h
  · cases h

/-- No blank, comment or line break comes before a literal. -/
theorem beginsLexeme_of_literalLetters (h : literalLetters text = some (letters, quoted)) :
    beginsLexeme text = true := by
  cases text with
  | nil => cases h
  | cons c rest =>
    have hne : ∀ d, literalLetters.isMark d = false → literalLetters.isLetter d = false →
        (∀ q, literalLetters.isPair d q = false) → c ≠ d := by
      rintro d hmark hletter hpair rfl
      exact absurd ((literalLetters_eq_none_of hmark hletter hpair rest).symm.trans h) nofun
    simp only [beginsLexeme, isGap, Bool.and_eq_true, Bool.not_eq_true', Bool.or_eq_false_iff,
      beq_eq_false_iff_ne, bne_iff_ne]
    refine ⟨⟨⟨⟨⟨?_, ?_⟩, ?_⟩, ?_⟩, ?_⟩, ?_⟩
    all_goals exact hne _ (by decide) (by decide) (by simp [literalLetters.isPair])

/-- What is behind a literal on one line does not matter. -/
theorem shortBody_congr (hmark : literalLetters.isMark mark = true)
    (h : shortBody mark text = some (body, after)) (rest : List Char) :
    shortBody mark (body ++ mark :: rest) = some (body, rest) := by
  have hslash : mark ≠ '\\' := by
    rintro rfl
    exact absurd hmark (by decide)
  fun_induction shortBody mark text generalizing body after with
  | case1 => cases h
  | case2 c others ih =>
    obtain ⟨run, hrun, heq⟩ := Option.map_eq_some_iff.mp h
    cases heq
    show (shortBody mark (run.1 ++ mark :: rest)).map _ = _
    rw [ih hrun]
    rfl
  | case3 others =>
    cases h
    rw [List.nil_append, shortBody, if_pos rfl]
    exact fun _ _ heq => absurd heq hslash
  | case4 others => cases h
  | case5 c others halone hne hbreak ih =>
    obtain ⟨run, hrun, heq⟩ := Option.map_eq_some_iff.mp h
    cases heq
    have hc : c ≠ '\\' := by
      rintro rfl
      cases others with
      | nil => cases hrun
      | cons d more => exact halone d more rfl rfl
    rw [List.cons_append, shortBody_cons hne hc hbreak, ih hrun]
    rfl

/-- Whether two marks come next is seen on two characters. -/
theorem isPrefixOf_congr {front : List Char} (h : 2 ≤ front.length) (rest other : List Char) :
    [mark, mark].isPrefixOf (front ++ rest) = [mark, mark].isPrefixOf (front ++ other) := by
  match front, h with
  | _ :: _ :: _, _ => rfl

/-- Nor does it matter what is behind a literal that closes with three marks. -/
theorem longBody_congr (hmark : literalLetters.isMark mark = true)
    (h : longBody mark text = some (body, after)) (rest : List Char) :
    longBody mark (body ++ mark :: mark :: mark :: rest) = some (body, rest) := by
  have hslash : mark ≠ '\\' := by
    rintro rfl
    exact absurd hmark (by decide)
  fun_induction longBody mark text generalizing body after with
  | case1 => cases h
  | case2 c others ih =>
    obtain ⟨run, hrun, heq⟩ := Option.map_eq_some_iff.mp h
    cases heq
    show (longBody mark (run.1 ++ mark :: mark :: mark :: rest)).map _ = _
    rw [ih hrun]
    rfl
  | case3 c others _ hmarks =>
    cases h
    rw [List.nil_append, longBody, if_pos ⟨rfl, by simp⟩]
    · rfl
    · exact fun _ _ heq => absurd heq hslash
  | case4 c others halone hmarks ih =>
    obtain ⟨run, hrun, heq⟩ := Option.map_eq_some_iff.mp h
    cases heq
    have hothers : others = run.1 ++ [mark, mark, mark] ++ run.2 := by
      rw [longBody_eq_append hrun, List.append_assoc]
      rfl
    have hlength : 2 ≤ (run.1 ++ [mark, mark, mark]).length := by
      rw [List.length_append]
      exact Nat.le_add_left 2 _
    -- the marks that close the literal are behind the character, so whether three marks are here is
    -- settled in front of what follows them
    have hfollow : [mark, mark].isPrefixOf (run.1 ++ mark :: mark :: mark :: rest)
        = [mark, mark].isPrefixOf others := by
      rw [hothers, ← isPrefixOf_congr hlength rest run.2, List.append_assoc]
      rfl
    have hc : c ≠ '\\' := by
      rintro rfl
      cases others with
      | nil => cases hrun
      | cons d more => exact halone d more rfl rfl
    rw [List.cons_append, longBody, hfollow, if_neg hmarks, ih hrun]
    · rfl
    · exact fun _ _ heq => absurd heq hc

/-- The mark as written begins with the mark. -/
theorem exists_eq_cons_of_quotedBody (h : quotedBody (mark :: text) = some (marks, body, after)) :
    ∃ more, marks = mark :: more := by
  unfold quotedBody at h
  dsimp only at h
  split at h
  all_goals
    obtain ⟨_, -, heq⟩ := Option.map_eq_some_iff.mp h
    exact ⟨_, (Prod.mk.inj heq).1.symm⟩

/-- What is behind a literal matters only if it is a mark. -/
theorem quotedBody_congr (hmark : literalLetters.isMark mark = true)
    (h : quotedBody (mark :: text) = some (marks, body, after))
    (hrest : rest.head? = some mark → after.head? = some mark) :
    quotedBody (marks ++ (body ++ (marks ++ rest))) = some (marks, body, rest) := by
  change (if [mark, mark].isPrefixOf text then _ else _) = _ at h
  split at h
  · obtain ⟨run, hrun, heq⟩ := Option.map_eq_some_iff.mp h
    cases heq
    have hlong := longBody_congr hmark hrun rest
    simp [quotedBody, hlong]
  · rename_i hmarks
    obtain ⟨run, hrun, heq⟩ := Option.map_eq_some_iff.mp h
    cases heq
    rw [shortBody_eq_append hrun] at hmarks
    have hnone : ¬[mark, mark].isPrefixOf (run.1 ++ mark :: rest) = true := by
      cases hbody : run.1 with
      | nil =>
        -- the closing mark must not be taken for the second of three
        rw [hbody] at hmarks
        cases rest with
        | nil => simp
        | cons c others =>
          intro hprefix
          obtain rfl : mark = c := by simpa using hprefix
          obtain ⟨left, hleft⟩ := List.head?_eq_some_iff.mp (hrest rfl)
          rw [hleft] at hmarks
          exact hmarks (by simp)
      | cons c others =>
        rw [hbody] at hmarks
        have hlength : 2 ≤ (c :: others ++ [mark]).length := by simp
        have hlook : [mark, mark].isPrefixOf (c :: others ++ [mark] ++ rest)
            = [mark, mark].isPrefixOf (c :: others ++ [mark] ++ run.2) :=
          isPrefixOf_congr hlength rest run.2
        simp only [List.append_assoc, List.singleton_append] at hlook
        rwa [hlook]
    have hshort := shortBody_congr hmark hrun rest
    simp only [List.cons_append, List.nil_append, quotedBody]
    rw [if_neg hnone, hshort]
    rfl

/-- A lexeme that is a literal begins with its letters, and its body stands between its marks. -/
theorem lexeme?_eq_literal {content : RawLiteral} {spelling : List Char}
    (h : lexeme? text = some (.literal content, spelling, after)) :
    ∃ quoted marks, literalLetters text = some (content.letters, quoted)
      ∧ quotedBody quoted = some (marks, content.body, after)
      ∧ spelling = content.letters ++ marks ++ content.body ++ marks := by
  unfold lexeme? at h
  split at h
  · rename_i letters quoted hletters
    obtain ⟨⟨marks, body, _⟩, hquoted, h⟩ := Option.bind_eq_some_iff.mp h
    cases h
    exact ⟨quoted, marks, hletters, hquoted, rfl⟩
  · split at h
    · cases h
    · split at h
      · obtain ⟨_, _, h⟩ := Option.bind_eq_some_iff.mp h
        cases h
      · split at h
        · unfold word at h
          split at h
          · cases h
          · split at h <;> cases h
        · obtain ⟨_, _, h⟩ := Option.bind_eq_some_iff.mp h
          cases h

/-- **A literal is one lexeme whatever follows it**, unless that is a mark. -/
theorem lexeme?_literal_congr {content : RawLiteral} {spelling : List Char}
    (h : lexeme? text = some (.literal content, spelling, after))
    (hrest : ∀ mark, literalLetters.isMark mark = true → rest.head? = some mark →
      after.head? = some mark) :
    lexeme? (spelling ++ rest) = some (.literal content, spelling, rest) := by
  obtain ⟨quoted, marks, hletters, hquoted, rfl⟩ := lexeme?_eq_literal h
  obtain ⟨mark, others, rfl, hmark, hany⟩ := literalLetters_eq_some hletters
  have hbody := quotedBody_congr hmark hquoted (hrest mark hmark)
  obtain ⟨more, rfl⟩ := exists_eq_cons_of_quotedBody hquoted
  have htext : content.letters ++ mark :: more ++ content.body ++ mark :: more ++ rest
      = content.letters ++ mark :: (more ++ (content.body ++ (mark :: more ++ rest))) := by simp
  unfold lexeme?
  rw [htext, hany]
  show (quotedBody (mark :: more ++ (content.body ++ (mark :: more ++ rest))) >>= _) = _
  rw [hbody]
  rfl

/-- **A literal in front of anything but a mark** is taken as it is spelled. -/
theorem lexeme?_literal_append {content : RawLiteral}
    (h : lexeme? text = some (.literal content, text, []))
    (hrest : ∀ c ∈ rest.head?, literalLetters.isMark c = false) :
    lexeme? (text ++ rest) = some (.literal content, text, rest) :=
  lexeme?_literal_congr h fun mark hmark hhead =>
    absurd (hmark.symm.trans (hrest mark hhead)) nofun

/-- **The lexemes of a literal in parentheses** at the end of a line. -/
theorem line_argument {content : RawLiteral} {literal : List Char}
    (hread : lexeme? literal = some (.literal content, literal, [])) {o r s t : Position}
    (hr : r = o.afterText ['(']) (hs : s = r.afterText literal) (ht : t = s.afterText [')']) :
    TokenLine [] o (['('] ++ (literal ++ ([')'] ++ ['\n'])))
      [⟨.operator "(", o, r⟩, ⟨.literal content, r, s⟩, ⟨.operator ")", s, t⟩, ⟨.newline, t, t⟩,
        ⟨.finish, t.after '\n', t.after '\n'⟩] := by
  obtain ⟨quoted, marks, hletters, -, -⟩ := lexeme?_eq_literal hread
  have hliteral : lexeme? (literal ++ ([')'] ++ ['\n']))
      = some (.literal content, literal, [')'] ++ ['\n']) := by
    refine lexeme?_literal_append hread fun c hc => ?_
    obtain rfl : ')' = c := Option.some.inj hc
    decide
  subst hr hs ht
  exact .lexeme rfl (lexeme?_mark (.inl rfl) _) rfl
    (.lexeme (beginsLexeme_of_literalLetters hletters) hliteral rfl
      (.lexeme rfl rfl rfl (.finish _)))

end ExpectFile.Grammar
