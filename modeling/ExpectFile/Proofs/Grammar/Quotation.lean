import ExpectFile.Grammar.Lexer
import ExpectFile.Grammar.Literal
import ExpectFile.Proofs.Text.HexDigits
import ExpectFile.Reprint

/-!
# Literals that read back

A text that is written as a literal is one lexeme, and what the literal denotes is the text. There
are two ways to write it, and for both the argument goes along the text: between fences every
character stands for itself, and nothing before the second fence looks like one; on one line every
character is written in one of three ways (`Escape`), each of which the lexer passes over and the
decoder takes back in one step.

* **`escape_escaped`** — a character is written in one of the three ways.
* **`Escape.shortBody_append`**, **`Escape.decodeFrom_append`** — what the lexer and the decoder do
  with each of them.
* **`lexeme?_literal`** — a literal is one lexeme, whatever follows it.
* **`decodeText_body`** — and denotes its text.
-/

namespace ExpectFile

open Grammar Text

/-! ## Characters on one line -/

namespace Grammar

/-- The ways to write a character between two marks so that it is read back. -/
inductive Escape (mark c : Char) : List Char → Prop where
  /-- The character stands for itself. -/
  | itself (hmark : c ≠ mark) (hslash : c ≠ '\\') (hbreak : c ≠ '\n') : Escape mark c [c]
  /-- A letter stands for it. -/
  | control (letter : Char) (hread : controlEscape? letter = some c) :
      Escape mark c ['\\', letter]
  /-- Its number stands for it. -/
  | number (letter : Char) (width : Nat)
      (hread : ∀ rest, escape? (letter :: (hexDigits width c.toNat ++ rest)) = some ([c], rest)) :
      Escape mark c ('\\' :: letter :: hexDigits width c.toNat)

variable {mark c : Char}

theorem Escape.length_pos {form : List Char} (h : Escape mark c form) : 0 < form.length := by
  cases h <;> exact Nat.succ_pos _

/-- What is written for a character does not begin with the mark. -/
theorem Escape.exists_eq_cons {form : List Char} (hmark : literalLetters.isMark mark = true)
    (h : Escape mark c form) : ∃ d more, form = d :: more ∧ d ≠ mark := by
  have hslash : '\\' ≠ mark := by
    rintro rfl
    exact absurd hmark (by decide)
  cases h with
  | itself hmark _ _ => exact ⟨c, [], rfl, hmark⟩
  | control letter _ => exact ⟨'\\', _, rfl, hslash⟩
  | number letter width _ => exact ⟨'\\', _, rfl, hslash⟩

/-! ### Numbers -/

theorem isDigitOf_of_mem_hexDigits {width n : Nat} {d : Char} (h : d ∈ hexDigits width n) :
    isDigitOf 16 d = true := by
  obtain ⟨value, hvalue, rfl⟩ := exists_of_mem_hexDigits h
  exact isDigitOf_hexDigit hvalue

theorem hexNumber?_hexDigits {width n : Nat} (h : n < Nat.pow 16 width) (rest : List Char) :
    hexNumber? width (hexDigits width n ++ rest) = some (n, rest) := by
  have hlength : (hexDigits width n).length = width := length_hexDigits width n
  have htake : (hexDigits width n ++ rest).take width = hexDigits width n :=
    List.take_left' hlength
  have hdrop : (hexDigits width n ++ rest).drop width = rest := List.drop_left' hlength
  have hdigits : (hexDigits width n).all (isDigitOf 16) = true :=
    List.all_eq_true.mpr fun c => isDigitOf_of_mem_hexDigits
  unfold hexNumber?
  simp only [htake, hdrop]
  rw [if_pos ⟨hlength, hdigits⟩, readDigits_hexDigits h]

/-- A character is no surrogate, so its number is read as the character. -/
theorem characterOf_toNat (c : Char) : characterOf c.toNat = c := by
  have hvalid : c.toNat < 0xd800 ∨ 0xdfff < c.toNat ∧ c.toNat < 0x110000 := c.valid
  unfold characterOf
  rw [if_neg (by omega), Char.ofNat_toNat]

theorem escape?_x (rest : List Char) :
    escape? ('x' :: rest)
      = (hexNumber? 2 rest).map fun number => ([Char.ofNat number.1], number.2) := rfl

theorem escape?_u (rest : List Char) :
    escape? ('u' :: rest)
      = (hexNumber? 4 rest).map fun number => ([characterOf number.1], number.2) := rfl

theorem escape?_U {rest after : List Char} {n : Nat} (hread : hexNumber? 8 rest = some (n, after))
    (hlimit : n ≤ 0x10ffff) : escape? ('U' :: rest) = some ([characterOf n], after) := by
  rw [escape?, if_neg (by decide), show controlEscape? 'U' = none from rfl]
  simp only
  rw [if_neg (by decide), if_neg (by decide), if_neg (by decide), if_pos trivial, hread]
  exact if_pos hlimit

/-- The number of a character stands for it. -/
theorem escape_escapedNumber (mark c : Char) : Escape mark c (escapedNumber c.toNat) := by
  have hvalid : c.toNat < 0xd800 ∨ 0xdfff < c.toNat ∧ c.toNat < 0x110000 := c.valid
  unfold escapedNumber
  split
  · rename_i hsmall
    refine .number 'x' 2 fun rest => ?_
    rw [escape?_x, hexNumber?_hexDigits hsmall, Option.map_some]
    simp only [Char.ofNat_toNat]
  split
  · rename_i hmiddle
    refine .number 'u' 4 fun rest => ?_
    rw [escape?_u, hexNumber?_hexDigits hmiddle, Option.map_some]
    simp only [characterOf_toNat]
  · have hlarge : c.toNat < 0x100000000 := by omega
    refine .number 'U' 8 fun rest => ?_
    rw [escape?_U (hexNumber?_hexDigits hlarge rest) (by omega), characterOf_toNat]

/-- **A character is written in one of the three ways.** -/
theorem escape_escaped (hmark : literalLetters.isMark mark = true) (c : Char) :
    Escape mark c (escaped mark c) := by
  unfold escaped
  split
  · -- the mark and the backslash stand for themselves behind a backslash
    rename_i hspecial
    refine .control c ?_
    have hkinds : c = apostrophe ∨ c = doubleQuote ∨ c = '\\' := by
      rcases hspecial with rfl | rfl
      · simpa [literalLetters.isMark, or_assoc] using Or.inl hmark
      · exact Or.inr (Or.inr rfl)
    rcases hkinds with rfl | rfl | rfl <;> rfl
  split
  · rename_i hbreak
    exact hbreak ▸ .control 'n' rfl
  split
  · rename_i hreturn
    exact hreturn ▸ .control 'r' rfl
  split
  · rename_i htab
    exact htab ▸ .control 't' rfl
  split
  · rename_i hspecial hbreak _ _ _
    exact .itself (fun h => hspecial (Or.inl h)) (fun h => hspecial (Or.inr h)) hbreak
  · exact escape_escapedNumber mark c

/-! ### The lexer passes over them -/

/-- A character that neither ends the literal nor begins an escape belongs to its body. -/
theorem shortBody_cons {d : Char} (hmark : d ≠ mark) (hslash : d ≠ '\\') (hbreak : d ≠ '\n')
    (rest : List Char) :
    shortBody mark (d :: rest) = (shortBody mark rest).map fun run => (d :: run.1, run.2) := by
  rw [shortBody, if_neg hmark, if_neg hbreak]
  intro _ _ h
  exact absurd h hslash

/-- So do several, one after the other. -/
theorem shortBody_append {text : List Char}
    (h : ∀ d ∈ text, d ≠ mark ∧ d ≠ '\\' ∧ d ≠ '\n') (rest : List Char) :
    shortBody mark (text ++ rest)
      = (shortBody mark rest).map fun run => (text ++ run.1, run.2) := by
  induction text with
  | nil =>
    rw [List.nil_append]
    cases shortBody mark rest <;> rfl
  | cons d text ih =>
    obtain ⟨⟨hmark, hslash, hbreak⟩, htext⟩ := List.forall_mem_cons.mp h
    rw [List.cons_append, shortBody_cons hmark hslash hbreak, ih htext]
    cases shortBody mark rest <;> rfl

/-- A digit is no mark, no backslash and no line feed. -/
theorem ne_of_isDigitOf {d : Char} (hmark : literalLetters.isMark mark = true)
    (h : isDigitOf 16 d = true) : d ≠ mark ∧ d ≠ '\\' ∧ d ≠ '\n' := by
  have hmarks : mark = apostrophe ∨ mark = doubleQuote := by
    simpa [literalLetters.isMark] using hmark
  refine ⟨?_, ?_, ?_⟩
  · rcases hmarks with rfl | rfl <;> rintro rfl <;> exact absurd h (by decide)
  · rintro rfl
    exact absurd h (by decide)
  · rintro rfl
    exact absurd h (by decide)

/-- **The lexer passes over a written character.** -/
theorem Escape.shortBody_append {form : List Char} (hmark : literalLetters.isMark mark = true)
    (h : Escape mark c form) (rest : List Char) :
    shortBody mark (form ++ rest)
      = (shortBody mark rest).map fun run => (form ++ run.1, run.2) := by
  cases h with
  | itself hne hslash hbreak => exact shortBody_cons hne hslash hbreak rest
  | control letter hread => rfl
  | number letter width hread =>
    have hdigits : ∀ d ∈ hexDigits width c.toNat, d ≠ mark ∧ d ≠ '\\' ∧ d ≠ '\n' :=
      fun d hd => ne_of_isDigitOf hmark (isDigitOf_of_mem_hexDigits hd)
    show (shortBody mark (hexDigits width c.toNat ++ rest)).map _ = _
    rw [Grammar.shortBody_append hdigits]
    cases shortBody mark rest <;> rfl

/-! ### The decoder takes them back -/

theorem decodeFrom_cons {d : Char} (hslash : d ≠ '\\') (fuel : Nat) (rest : List Char) :
    decodeFrom (fuel + 1) (d :: rest) = (decodeFrom fuel rest).map (d :: ·) := by
  rw [decodeFrom, if_neg hslash]

theorem decodeFrom_slash {text after rest : List Char} (hread : escape? rest = some (text, after))
    (fuel : Nat) :
    decodeFrom (fuel + 1) ('\\' :: rest) = (decodeFrom fuel after).map (text ++ ·) := by
  rw [decodeFrom, if_pos rfl, hread]
  rfl

/-- **The decoder takes a written character back**, in one step. -/
theorem Escape.decodeFrom_append {form : List Char} (h : Escape mark c form) (fuel : Nat)
    (rest : List Char) :
    decodeFrom (fuel + 1) (form ++ rest) = (decodeFrom fuel rest).map (c :: ·) := by
  cases h with
  | itself hmark hslash hbreak => exact decodeFrom_cons hslash fuel rest
  | control letter hread =>
    have hletter : letter ≠ '\n' := by
      rintro rfl
      exact absurd hread nofun
    have hescape : escape? (letter :: rest) = some ([c], rest) := by
      rw [escape?, if_neg hletter, hread]
    exact decodeFrom_slash hescape fuel
  | number letter width hread => exact decodeFrom_slash (hread rest) fuel

end Grammar

/-! ## Texts on one line -/

section

variable {mark : Char}

/-- **The body of a text on one line**: the lexer finds its end, and the decoder its text. -/
theorem shortBody_flatMap_escaped (hmark : literalLetters.isMark mark = true)
    (text rest : List Char) :
    shortBody mark (text.flatMap (escaped mark) ++ mark :: rest)
      = some (text.flatMap (escaped mark), rest) := by
  induction text with
  | nil =>
    have hslash : mark ≠ '\\' := by
      rintro rfl
      exact absurd hmark (by decide)
    rw [List.flatMap_nil, List.nil_append, shortBody, if_pos rfl]
    intro _ _ h
    exact absurd h hslash
  | cons c text ih =>
    rw [List.flatMap_cons, List.append_assoc, (escape_escaped hmark c).shortBody_append hmark, ih]
    rfl

theorem decodeFrom_flatMap_escaped (hmark : literalLetters.isMark mark = true) {text : List Char}
    {fuel : Nat} (h : text.length ≤ fuel) :
    decodeFrom fuel (text.flatMap (escaped mark)) = some text := by
  induction text generalizing fuel with
  | nil =>
    rw [List.flatMap_nil, decodeFrom]
  | cons c text ih =>
    obtain ⟨fuel, rfl⟩ : ∃ less, fuel = less + 1 := ⟨fuel - 1, by simp at h; omega⟩
    have hrest : text.length ≤ fuel := Nat.le_of_succ_le_succ h
    rw [List.flatMap_cons, (escape_escaped hmark c).decodeFrom_append, ih hrest]
    rfl

/-- Each character takes at least one to be written. -/
theorem length_le_length_flatMap_escaped (hmark : literalLetters.isMark mark = true)
    (text : List Char) : text.length ≤ (text.flatMap (escaped mark)).length := by
  induction text with
  | nil => exact Nat.le_refl _
  | cons c text ih =>
    have hone : 0 < (escaped mark c).length := (escape_escaped hmark c).length_pos
    rw [List.flatMap_cons, List.length_append, List.length_cons]
    omega

end

/-! ## Texts between fences -/

namespace Reprint

theorem fits_iff {text : List Char} :
    fits text = true ↔ holdsFence text = false ∧ '\\' ∉ text ∧ '\r' ∉ text
      ∧ text.getLast? ≠ some doubleQuote := by
  simp [fits, and_assoc]

/-- A double quote in a text between fences is no beginning of a fence: two more would have to
follow, in the text or with the help of the fence behind it. -/
theorem not_isPrefixOf_append_fence {text : List Char} (rest : List Char)
    (hholds : holdsFence (doubleQuote :: text) = false)
    (hlast : (doubleQuote :: text).getLast? ≠ some doubleQuote) :
    ¬[doubleQuote, doubleQuote].isPrefixOf (text ++ (fence ++ rest)) = true := by
  match text with
  | [] => exact absurd rfl hlast
  | [d] =>
    intro h
    obtain rfl : doubleQuote = d := by simpa [fence] using h
    exact hlast rfl
  | d :: e :: more =>
    intro h
    obtain ⟨rfl, rfl⟩ : doubleQuote = d ∧ doubleQuote = e := by simpa using h
    simp [holdsFence, fence] at hholds

/-- **A fence closes behind the text**, and nowhere in it. -/
theorem longBody_append_fence {text : List Char} (hholds : holdsFence text = false)
    (hslash : '\\' ∉ text) (hlast : text.getLast? ≠ some doubleQuote) (rest : List Char) :
    longBody doubleQuote (text ++ (fence ++ rest)) = some (text, rest) := by
  induction text with
  | nil => rfl
  | cons c text ih =>
    obtain ⟨hc, htext⟩ := not_or.mp (mt List.mem_cons.mpr hslash)
    have hcloses : ¬(c = doubleQuote
        ∧ [doubleQuote, doubleQuote].isPrefixOf (text ++ (fence ++ rest)) = true) := by
      rintro ⟨rfl, h⟩
      exact not_isPrefixOf_append_fence rest hholds hlast h
    have hrest : holdsFence text = false := (Bool.or_eq_false_iff.mp hholds).2
    have hend : text.getLast? ≠ some doubleQuote := by
      cases text with
      | nil => nofun
      | cons d more => rwa [List.getLast?_cons_cons] at hlast
    rw [List.cons_append, longBody, if_neg hcloses, ih hrest htext hend]
    · rfl
    · intro _ _ h
      exact absurd h.symm hc

/-- Without a backslash, every character stands for itself. -/
theorem decodeFrom_of_not_mem {text : List Char} (h : '\\' ∉ text) {fuel : Nat}
    (hfuel : text.length ≤ fuel) : decodeFrom fuel text = some text := by
  induction text generalizing fuel with
  | nil => rw [decodeFrom]
  | cons c text ih =>
    obtain ⟨hc, htext⟩ := not_or.mp (mt List.mem_cons.mpr h)
    obtain ⟨fuel, rfl⟩ : ∃ less, fuel = less + 1 := ⟨fuel - 1, by simp at hfuel; omega⟩
    rw [decodeFrom_cons (Ne.symm hc), ih htext (Nat.le_of_succ_le_succ hfuel)]
    rfl

/-! ## Literals -/

/-- What stands on either side of a text that is written as a literal. -/
def marks (text : List Char) : List Char := if fits text then fence else [quoteMark text]

/-- What stands between. -/
def body (text : List Char) : List Char :=
  if fits text then text else text.flatMap (escaped (quoteMark text))

theorem literal_eq (text : List Char) : literal text = marks text ++ body text ++ marks text := by
  unfold literal marks body
  split <;> rfl

theorem isMark_quoteMark (text : List Char) : literalLetters.isMark (quoteMark text) = true := by
  unfold quoteMark
  split <;> rfl

/-- A literal begins with a mark. -/
theorem exists_literal_eq_cons (text : List Char) :
    ∃ mark rest, literal text = mark :: rest ∧ literalLetters.isMark mark = true := by
  unfold literal
  split
  · exact ⟨doubleQuote, _, rfl, rfl⟩
  · exact ⟨quoteMark text, _, rfl, isMark_quoteMark text⟩

/-- **The lexer finds the body of a literal**, whatever follows it. -/
theorem quotedBody_literal (text rest : List Char) :
    quotedBody (literal text ++ rest) = some (marks text, body text, rest) := by
  unfold literal marks body
  by_cases hfits : fits text = true
  · obtain ⟨hholds, hslash, -, hlast⟩ := fits_iff.mp hfits
    simp only [if_pos hfits, List.append_assoc]
    show (longBody doubleQuote (text ++ (fence ++ rest))).map _ = _
    rw [longBody_append_fence hholds hslash hlast]
    rfl
  · simp only [if_neg hfits]
    have hmark := isMark_quoteMark text
    -- what does not fit is not empty, and its first character is no bare mark
    have hnext : ¬[quoteMark text, quoteMark text].isPrefixOf
        (text.flatMap (escaped (quoteMark text)) ++ quoteMark text :: rest) = true := by
      cases hcases : text with
      | nil => exact absurd (hcases ▸ rfl) hfits
      | cons c others =>
        rw [hcases] at hmark
        obtain ⟨d, more, hform, hd⟩ := (escape_escaped hmark c).exists_eq_cons hmark
        simp [hform, hd.symm]
    rw [quoted, List.append_assoc, List.cons_append, List.singleton_append, quotedBody,
      if_neg hnext, shortBody_flatMap_escaped hmark]
    rfl

/-- **A literal denotes its text.** -/
theorem decodeText_body (text : List Char) : decodeText false (body text) = some text := by
  show decodeFrom (body text).length (body text) = some text
  unfold body
  by_cases hfits : fits text = true
  · rw [if_pos hfits]
    exact decodeFrom_of_not_mem (fits_iff.mp hfits).2.1 (Nat.le_refl _)
  · rw [if_neg hfits]
    have hmark := isMark_quoteMark text
    exact decodeFrom_flatMap_escaped hmark (length_le_length_flatMap_escaped hmark text)

end Reprint

/-! ## Lexemes -/

/-- No letters stand in front of a mark. -/
theorem literalLetters_mark {mark : Char} (hmark : literalLetters.isMark mark = true)
    (rest : List Char) : literalLetters (mark :: rest) = some ([], mark :: rest) := by
  have hmarks : mark = apostrophe ∨ mark = doubleQuote := by
    simpa [literalLetters.isMark] using hmark
  have hletter : literalLetters.isLetter mark = false := by
    rcases hmarks with rfl | rfl <;> rfl
  have hpair : ∀ other, literalLetters.isPair mark other = false := by
    intro other
    rcases hmarks with rfl | rfl <;> simp [literalLetters.isPair, apostrophe, doubleQuote]
  match rest with
  | [] => simp [literalLetters, hmark]
  | [q] => simp [literalLetters, hmark, hletter]
  | q :: r :: after => simp [literalLetters, hmark, hletter, hpair]

/-- **A literal is one lexeme**, whatever follows it. -/
theorem lexeme?_literal (text rest : List Char) :
    lexeme? (Reprint.literal text ++ rest)
      = some (.literal ⟨[], Reprint.body text⟩, Reprint.literal text, rest) := by
  have hletters : literalLetters (Reprint.literal text ++ rest)
      = some ([], Reprint.literal text ++ rest) := by
    obtain ⟨mark, more, hmore, hmark⟩ := Reprint.exists_literal_eq_cons text
    rw [hmore, List.cons_append, literalLetters_mark hmark]
  unfold lexeme?
  rw [hletters]
  show (quotedBody (Reprint.literal text ++ rest) >>= _) = _
  rw [Reprint.quotedBody_literal, Reprint.literal_eq text]
  rfl

end ExpectFile
