import ExpectFile.Proofs.Grammar.Likeness
import ExpectFile.Proofs.Grammar.Names

/-!
# Lexemes in front of a stop

A line feed and a semicolon are stops: no token but a literal goes on behind one. A lexeme that ends
in front of a stop, or with it, is the same whatever the text goes on with. Most of the readers of a
lexeme are put together from smaller ones, and `Settles` is what all of them have in common.

* **`Settles.bind`**, **`settles_of_condition`** — readers that are put together.
* **`settles_number?`** — numbers. Every other kind is decided by its first characters.
* **`weight_le_of_lexeme?`** — no lexeme counts for more than its characters.
* **`lexeme?_append`** — a lexeme does not depend on what is behind a stop.
-/

namespace ExpectFile.Grammar

open Text

/-- The characters at which the lexer comes to rest: no token but the first of them itself, and no
token but a literal, holds one. -/
def isStop (c : Char) : Bool := c == ';' || c == '\n'

/-- **What a reader makes of a text is settled by a stop at its end.** With more text behind it, the
result is the same, with more left over. -/
def Settles {β : Type} (f : List Char → Option (β × List Char)) : Prop :=
  ∀ text d, isStop d = true → text.getLast? = some d → ∀ more,
    f (text ++ more) = (f text).map (fun result => (result.1, result.2 ++ more))
      ∧ ∀ result, f text = some result → result.2.getLast? = some d

variable {α β : Type} {text more rest : List Char} {c d : Char}

/-- There are two stops. -/
theorem eq_of_isStop (h : isStop d = true) : d = ';' ∨ d = '\n' := by
  simpa [isStop] using h

/-- A text that ends in a stop does so without its first character, if that is none. -/
theorem getLast?_tail (hd : isStop d = true) (hc : isStop c = false)
    (h : (c :: rest).getLast? = some d) : rest.getLast? = some d := by
  cases rest with
  | nil =>
    obtain rfl : c = d := by simpa using h
    exact absurd (hd.symm.trans hc) nofun
  | cons e rest => simpa [List.getLast?_cons_cons] using h

namespace Settles

/-- A reader that takes nothing is settled. -/
theorem some (a : α) : Settles fun text => Option.some (a, text) :=
  fun _ _ _ hlast _ => ⟨rfl, fun _ heq => Option.some.inj heq ▸ hlast⟩

/-- So is one that never goes through. -/
theorem none : Settles fun _ => (Option.none : Option (α × List Char)) :=
  fun _ _ _ _ _ => ⟨rfl, nofun⟩

/-- One reader after the other. -/
theorem bind {f : List Char → Option (α × List Char)} {g : α × List Char → Option (β × List Char)}
    (hf : Settles f) (hg : ∀ a, Settles fun rest => g (a, rest)) :
    Settles fun text => f text >>= g := by
  intro text d hd hlast more
  obtain ⟨heq, hkeeps⟩ := hf text d hd hlast more
  dsimp only
  rw [heq]
  cases hresult : f text with
  | none => exact ⟨rfl, nofun⟩
  | some result => exact hg result.1 result.2 d hd (hkeeps result hresult) more

/-- What is made of a result does not unsettle a reader. -/
theorem map {f : List Char → Option (α × List Char)} (hf : Settles f)
    {g : α × List Char → β × List Char}
    (hg : ∀ a rest more, g (a, rest ++ more) = ((g (a, rest)).1, (g (a, rest)).2 ++ more))
    (hkeeps : ∀ a rest, (g (a, rest)).2 = rest) : Settles fun text => (f text).map g := by
  intro text d hd hlast more
  obtain ⟨heq, hlasts⟩ := hf text d hd hlast more
  dsimp only
  rw [heq]
  cases hresult : f text with
  | none => exact ⟨rfl, nofun⟩
  | some result =>
    refine ⟨congrArg Option.some (hg result.1 result.2 more), fun _ heq => ?_⟩
    obtain rfl := Option.some.inj heq
    rw [hkeeps result.1 result.2]
    exact hlasts result hresult

end Settles

/-- A run of digits comes to rest at a stop, which is none of them. -/
theorem settles_digitRun (isDigit : Char → Bool)
    (hdigit : ∀ d, isStop d = true → isDigit d = false) :
    Settles (digitRun isDigit) := by
  intro text d hd hlast more
  induction text with
  | nil => exact absurd hlast nofun
  | cons c rest ih =>
    by_cases hc : isDigit c = true
    · have hrest := getLast?_tail hd (by
        cases hstop : isStop c with
        | false => rfl
        | true => exact absurd (hc.symm.trans (hdigit c hstop)) nofun) hlast
      obtain ⟨heq, hkeeps⟩ := ih hrest
      rw [List.cons_append, digitRun_of_digit hc, digitRun_of_digit hc, heq]
      cases hresult : digitRun isDigit rest with
      | none => exact ⟨rfl, nofun⟩
      | some result =>
        refine ⟨rfl, fun _ heq => ?_⟩
        obtain rfl := Option.some.inj heq
        exact hkeeps result hresult
    · rw [List.cons_append, digitRun_of_not_digit hc, digitRun_of_not_digit hc]
      by_cases hscore : c = '_'
      · subst hscore
        rw [if_pos rfl, if_pos rfl]
        have hrest := getLast?_tail hd (by decide) hlast
        cases rest with
        | nil => exact absurd hrest nofun
        | cons e rest =>
          rw [List.cons_append]
          dsimp only
          split
          · exact ih hrest
          · exact ⟨rfl, nofun⟩
      · rw [if_neg hscore, if_neg hscore]
        exact ⟨rfl, fun _ heq => Option.some.inj heq ▸ hlast⟩

/-- A word without a stop in it is in front of a text or not before the text comes to its stop. -/
theorem isPrefixOf_append_of_stop {word : List Char} (hword : ∀ c ∈ word, isStop c = false)
    (hd : isStop d = true) (hlast : text.getLast? = some d) (more : List Char) :
    word.isPrefixOf (text ++ more) = word.isPrefixOf text := by
  induction text generalizing word with
  | nil => exact absurd hlast nofun
  | cons c text ih =>
    cases word with
    | nil => rfl
    | cons e word =>
      rw [List.cons_append, List.isPrefixOf_cons_cons, List.isPrefixOf_cons_cons]
      by_cases hc : e = c
      · subst hc
        have he := hword e List.mem_cons_self
        rw [ih (fun a ha => hword a (List.mem_cons_of_mem e ha)) (getLast?_tail hd he hlast)]
      · rw [beq_false_of_ne hc, Bool.false_and, Bool.false_and]

/-- Whether a number may end in front of a text is settled by its first characters, up to the stop.
-/
theorem endsNumber_append (hd : isStop d = true) (hlast : text.getLast? = some d)
    (more : List Char) : endsNumber (text ++ more) = endsNumber text := by
  have hwords : ∀ word ∈ followingWords, ∀ c ∈ word.toList, isStop c = false := by
    have hall : (followingWords.all fun word => word.toList.all fun c => !isStop c) = true := by
      decide
    simpa using hall
  have hany : (followingWords.any fun word => word.toList.isPrefixOf (text ++ more))
      = followingWords.any fun word => word.toList.isPrefixOf text := by
    rw [Bool.eq_iff_iff, List.any_eq_true, List.any_eq_true]
    refine exists_congr fun word => and_congr_right fun hmem => ?_
    rw [isPrefixOf_append_of_stop (hwords word hmem) hd hlast]
  cases text with
  | nil => exact absurd hlast nofun
  | cons c rest => exact congrArg (!isWordChar c || ·) hany

/-- A choice between two readers is settled, if the condition and both of them are. -/
theorem settles_of_condition (condition : List Char → Bool)
    {f g : List Char → Option (β × List Char)}
    (hcondition : ∀ {text d}, isStop d = true → text.getLast? = some d → ∀ more : List Char,
      condition (text ++ more) = condition text) (hf : Settles f) (hg : Settles g) :
    Settles fun text => if condition text = true then f text else g text := by
  intro text d hd hlast more
  dsimp only
  rw [hcondition hd hlast more]
  split
  · exact hf text d hd hlast more
  · exact hg text d hd hlast more

/-- A number in another base is settled. -/
theorem settles_basedNumber {base : Nat}
    (hdigit : ∀ d, isStop d = true → isDigitOf base d = false) : Settles (basedNumber base) := by
  unfold basedNumber
  refine (settles_digitRun _ hdigit).bind fun digits => ?_
  refine settles_of_condition _ ?_ .none (.some _)
  intro text d hd hlast more
  rw [endsNumber_append hd hlast]
  cases text with
  | nil => cases hlast
  | cons c rest => rfl

/-- A stop is no digit. -/
theorem isDigit_of_isStop (h : isStop d = true) : d.isDigit = false := by
  rcases eq_of_isStop h with rfl | rfl <;> decide

/-- An exponent is settled. A sign behind its letter is no stop. -/
theorem settles_exponentRun : Settles exponentRun := by
  have hrun := settles_digitRun Char.isDigit fun _ => isDigit_of_isStop
  intro text d hd hlast more
  cases text with
  | nil => exact absurd hlast nofun
  | cons c rest =>
    rw [List.cons_append]
    unfold exponentRun
    dsimp only
    split
    next hc =>
      have hrest := getLast?_tail hd (by rcases hc with rfl | rfl <;> decide) hlast
      -- neither the letter nor a sign behind it is a stop, so the text goes on after them
      cases rest with
      | nil => exact absurd hrest nofun
      | cons e after =>
        rw [List.cons_append]
        dsimp only
        split
        next he =>
          have hafter := getLast?_tail hd (by rcases he with rfl | rfl <;> decide) hrest
          cases after with
          | nil => exact absurd hafter nofun
          | cons f after =>
            rw [List.cons_append]
            dsimp only
            split
            · exact (hrun.map (fun _ _ _ => rfl) fun _ _ => rfl) (f :: after) d hd hafter more
            · exact ⟨rfl, nofun⟩
        next he =>
          split
          · exact (hrun.map (fun _ _ _ => rfl) fun _ _ => rfl) (e :: after) d hd hrest more
          · exact ⟨rfl, fun _ heq => Option.some.inj heq ▸ hlast⟩
    · exact ⟨rfl, fun _ heq => Option.some.inj heq ▸ hlast⟩

/-- So is a fraction. -/
theorem settles_fractionRun : Settles fractionRun := by
  have hrun := settles_digitRun Char.isDigit fun _ => isDigit_of_isStop
  intro text d hd hlast more
  cases text with
  | nil => exact absurd hlast nofun
  | cons c rest =>
    rw [List.cons_append]
    unfold fractionRun
    dsimp only
    split
    · exact hrun (c :: rest) d hd hlast more
    · exact ⟨rfl, fun _ heq => Option.some.inj heq ▸ hlast⟩

/-- A choice that a stop settles. -/
theorem Settles.ite {p : Prop} [Decidable p] {f g : List Char → Option (β × List Char)}
    (hf : Settles f) (hg : Settles g) : Settles fun text => if p then f text else g text := by
  by_cases h : p
  · simpa only [if_pos h] using hf
  · simpa only [if_neg h] using hg

/-- So is a fraction with its point. -/
theorem settles_pointRun : Settles pointRun := by
  intro text d hd hlast more
  unfold pointRun
  cases text with
  | nil => exact absurd hlast nofun
  | cons c rest =>
    rw [List.cons_append]
    by_cases hc : c = '.'
    · subst hc
      exact (settles_fractionRun.map (fun _ _ _ => rfl) fun _ _ => rfl) rest d hd
        (getLast?_tail hd (by decide) hlast) more
    · simp only [List.cons.injEq, hc, false_and, imp_self, implies_true]
      exact Settles.some _ (c :: rest) d hd hlast more

/-- So is the letter of an imaginary number. -/
theorem settles_imaginaryRun : Settles imaginaryRun := by
  intro text d hd hlast more
  unfold imaginaryRun
  cases text with
  | nil => exact absurd hlast nofun
  | cons c rest =>
    rw [List.cons_append]
    by_cases hj : c = 'j'
    · subst hj
      exact Settles.some true rest d hd (getLast?_tail hd (by decide) hlast) more
    by_cases hJ : c = 'J'
    · subst hJ
      exact Settles.some true rest d hd (getLast?_tail hd (by decide) hlast) more
    · simp only [List.cons.injEq, hj, hJ, false_and, imp_self, implies_true]
      exact Settles.some _ (c :: rest) d hd hlast more

/-- So is the end of a number. -/
theorem settles_numberEnd (whole fraction : List Char) (hasPoint isImaginary : Bool)
    (exponent : Option Int) :
    Settles (numberEnd whole fraction hasPoint isImaginary exponent) := by
  unfold numberEnd
  refine settles_of_condition (fun rest => !endsNumber rest) ?_ .none ?_
  · intro text d hd hlast more
    rw [endsNumber_append hd hlast]
  refine .ite (.some _) (.ite (.some _) (.ite ?_ (.ite .none (.some _))))
  refine settles_of_condition (fun rest => rest.head? == some 'e') ?_ (.some _) .none
  intro text d hd hlast more
  cases text with
  | nil => exact absurd hlast nofun
  | cons c rest => rfl

/-- A number in base ten is settled, step by step. -/
theorem settles_decimalNumber : Settles decimalNumber := by
  rw [funext decimalNumber_eq]
  refine (settles_digitRun _ fun _ => isDigit_of_isStop).bind fun whole => ?_
  dsimp only
  refine settles_pointRun.bind fun point => ?_
  dsimp only
  refine settles_exponentRun.bind fun exponent => ?_
  dsimp only
  exact settles_imaginaryRun.bind fun imaginary => settles_numberEnd _ _ _ imaginary _

/-- A stop is no digit of any base. -/
theorem isDigitOf_of_isStop (base : Nat) (h : isStop d = true) : isDigitOf base d = false := by
  rcases eq_of_isStop h with rfl | rfl <;> rfl

/-- **Numbers are settled.** Which base they are in shows at the first two characters, and the
second of them may be the stop. -/
theorem settles_number? : Settles number? := by
  intro text d hd hlast more
  cases text with
  | nil => exact absurd hlast nofun
  | cons c rest =>
    by_cases hc : c = '0'
    · subst hc
      have hrest := getLast?_tail hd (by decide) hlast
      cases rest with
      | nil => exact absurd hrest nofun
      | cons e rest =>
        rw [List.cons_append, List.cons_append, number?_cons, number?_cons]
        have hbased : ∀ base, isStop e = false →
            basedNumber base (rest ++ more)
              = (basedNumber base rest).map (fun result => (result.1, result.2 ++ more))
            ∧ ∀ result, basedNumber base rest = some result → result.2.getLast? = some d :=
          fun base he => settles_basedNumber (fun _ => isDigitOf_of_isStop base) rest d hd
            (getLast?_tail hd he hrest) more
        split
        next he => exact hbased 16 (by rcases he with rfl | rfl <;> decide)
        split
        next he => exact hbased 8 (by rcases he with rfl | rfl <;> decide)
        split
        next he => exact hbased 2 (by rcases he with rfl | rfl <;> decide)
        · exact settles_decimalNumber ('0' :: e :: rest) d hd hlast more
    · rw [List.cons_append, number?_of_ne hc, number?_of_ne hc]
      exact settles_decimalNumber (c :: rest) d hd hlast more

/-! ## Words and operators -/

/-- A stop is no character of a word. -/
theorem isWordChar_of_isStop (h : isStop d = true) : isWordChar d = false := by
  rcases eq_of_isStop h with rfl | rfl <;> decide

/-- Taking characters up to a stop does not depend on what is behind it. -/
theorem takeWhile_append_of_stop {p : Char → Bool} (hp : p d = false)
    (hlast : text.getLast? = some d)
    (more : List Char) : (text ++ more).takeWhile p = text.takeWhile p
      ∧ (text ++ more).dropWhile p = text.dropWhile p ++ more
      ∧ (text.dropWhile p).getLast? = some d := by
  induction text with
  | nil => exact absurd hlast nofun
  | cons c rest ih =>
    rw [List.cons_append, List.takeWhile_cons, List.dropWhile_cons, List.takeWhile_cons,
      List.dropWhile_cons]
    cases hc : p c with
    | false => exact ⟨rfl, rfl, hlast⟩
    | true =>
      cases rest with
      | nil =>
        obtain rfl : c = d := by simpa using hlast
        exact absurd (hc.symm.trans hp) nofun
      | cons e rest =>
        obtain ⟨htake, hdrop, hkeeps⟩ := ih (by simpa [List.getLast?_cons_cons] using hlast)
        exact ⟨congrArg (c :: ·) htake, hdrop, hkeeps⟩

/-- The longest operator at the front of a text is the same with more behind a stop, as no operator
holds one behind its first character. -/
theorem operator?_append (hd : isStop d = true) (hlast : text.getLast? = some d)
    (more : List Char) : operator? (text ++ more) = operator? text := by
  have hsymbols : ∀ symbol ∈ longOperators ++ pairOperators ++ singleOperators,
      symbol = ";" ∨ ∀ c ∈ symbol.toList, isStop c = false := by
    have hall : ((longOperators ++ pairOperators ++ singleOperators).all fun symbol =>
        symbol == ";" || symbol.toList.all fun c => !isStop c) = true := by decide
    intro symbol hmem
    simpa using List.all_eq_true.mp hall symbol hmem
  have hlook : ∀ symbol ∈ longOperators ++ pairOperators ++ singleOperators,
      symbol.toList.isPrefixOf (text ++ more) = symbol.toList.isPrefixOf text := by
    intro symbol hmem
    rcases hsymbols symbol hmem with rfl | hsymbol
    · cases text with
      | nil => exact absurd hlast nofun
      | cons c rest => rfl
    · exact isPrefixOf_append_of_stop hsymbol hd hlast more
  unfold operator?
  generalize longOperators ++ pairOperators ++ singleOperators = symbols at hlook
  induction symbols with
  | nil => rfl
  | cons symbol others ih =>
    have hothers := ih fun other hmem => hlook other (List.mem_cons_of_mem symbol hmem)
    rw [List.find?_cons, List.find?_cons, hlook symbol List.mem_cons_self, hothers]

/-! ## Literals -/

/-- Whether a literal begins is settled by a stop. -/
theorem literalLetters_append_eq_none (hd : isStop d = true) (hlast : text.getLast? = some d)
    (hlength : 2 ≤ text.length) (h : literalLetters (text ++ more) = none) (other : List Char) :
    literalLetters (text ++ other) = none := by
  rcases text with _ | ⟨a, _ | ⟨q, _ | ⟨r, rest⟩⟩⟩
  · simp at hlength
  · simp at hlength
  · obtain rfl : q = d := by simpa using hlast
    have hmark : literalLetters.isMark q = false := by
      rcases eq_of_isStop hd with rfl | rfl <;> decide
    have hpair : literalLetters.isPair a q = false := by
        rcases eq_of_isStop hd with rfl | rfl <;> simp [literalLetters.isPair]
    have ha : literalLetters.isMark a = false := by
      cases ha : literalLetters.isMark a with
      | false => rfl
      | true =>
        rw [List.cons_append, literalLetters_mark ha] at h
        cases h
    cases other <;> simp [literalLetters, hmark, hpair, ha]
  · simp only [List.cons_append, literalLetters] at h ⊢
    split at h
    · cases h
    next hone =>
      rw [if_neg hone]
      split at h
      · cases h
      next hpair =>
        rw [if_neg hpair]
        split at h
        · cases h
        next ha => rw [if_neg ha]

/-! ## Lexemes -/

variable {kind : Token.Kind} {characters : List Char}

/-- Whether a number begins here. -/
def startsNumber (c : Char) (rest : List Char) : Bool :=
  c.isDigit || (c == '.' && (rest.head?.map Char.isDigit).getD false)

/-- The lexeme at the front of a text that begins with no literal. -/
theorem lexeme?_cons (h : literalLetters (c :: rest) = none) : lexeme? (c :: rest) =
    if startsNumber c rest then
      (number? (c :: rest)).bind fun found =>
        some (.number found.1, (c :: rest).take ((c :: rest).length - found.2.length), found.2)
    else if isWordChar c then
      word ((c :: rest).takeWhile isWordChar) ((c :: rest).dropWhile isWordChar)
    else (operator? (c :: rest)).bind fun symbol =>
      some (.operator symbol, symbol.toList, (c :: rest).drop symbol.length) := by
  unfold lexeme?
  rw [h]
  rfl

/-- Where a text begins with a literal, its lexeme is that literal. -/
theorem lexeme?_literal_eq {letters quoted : List Char}
    (h : literalLetters text = some (letters, quoted)) : lexeme? text =
    (quotedBody quoted).bind fun found =>
      some (.literal ⟨letters, found.2.1⟩, letters ++ found.1 ++ found.2.1 ++ found.1,
        found.2.2) := by
  unfold lexeme?
  rw [h]
  rfl

/-- What a word is does not depend on what follows. -/
theorem word_congr {front behind : List Char}
    (h : word front behind = some (kind, characters, rest)) (other : List Char) :
    word front other = some (kind, characters, other) := by
  unfold word at h ⊢
  split at h
  next hkeyword =>
    cases h
    rw [if_pos hkeyword]
  next hkeyword =>
    split at h
    next hname =>
      cases h
      rw [if_neg hkeyword, if_pos hname]
    next => cases h

/-- A word counts for one. -/
theorem weight_of_word {front behind : List Char}
    (h : word front behind = some (kind, characters, rest)) : kind.weight = 1 := by
  unfold word at h
  repeat' split at h
  all_goals first
    | (cases h; rfl)
    | cases h

/-- **No lexeme counts for more than its characters.** -/
theorem weight_le_of_lexeme? (h : lexeme? text = some (kind, characters, rest)) :
    kind.weight ≤ characters.length := by
  cases hletters : literalLetters text with
  | some found =>
    obtain ⟨letters, quoted⟩ := found
    rw [lexeme?_literal_eq hletters] at h
    obtain ⟨mark, behind, rfl, -⟩ := literalLetters_eq_some hletters
    obtain ⟨⟨marks, body, left⟩, hbody, h⟩ := Option.bind_eq_some_iff.mp h
    cases h
    -- a literal may count for more than one, but it is no longer than its quotation marks and its
    -- body
    obtain ⟨more, rfl⟩ := exists_eq_cons_of_quotedBody hbody
    simp only [Token.Kind.weight, List.length_append, List.length_cons]
    omega
  | none =>
    cases text with
    | nil => cases h
    | cons c behind =>
      have hne : kind.weight = 1 → characters ≠ [] → kind.weight ≤ characters.length := by
        intro hweight hne
        rw [hweight]
        exact List.length_pos_iff.mpr hne
      rw [lexeme?_cons hletters] at h
      split at h
      next hnumber =>
        obtain ⟨⟨value, after⟩, hvalue, h⟩ := Option.bind_eq_some_iff.mp h
        cases h
        have hc : c.isDigit = true ∨ c = '.' := by
          simp only [startsNumber, Bool.or_eq_true, Bool.and_eq_true, beq_iff_eq] at hnumber
          exact hnumber.imp id And.left
        have hlength := (number?_suffix hc hvalue).length_le
        refine hne rfl fun hnil => ?_
        have := congrArg List.length hnil
        simp only [List.length_take, List.length_cons, List.length_nil] at this
        omega
      next =>
        split at h
        next hword =>
          obtain ⟨rfl, -⟩ := word_eq_some h
          refine hne (weight_of_word h) ?_
          rw [List.takeWhile_cons_of_pos hword]
          exact List.cons_ne_nil _ _
        next =>
          obtain ⟨symbol, hsymbol, h⟩ := Option.bind_eq_some_iff.mp h
          cases h
          have hsymbols : ∀ symbol ∈ longOperators ++ pairOperators ++ singleOperators,
              symbol.toList ≠ [] := by decide
          exact hne rfl (hsymbols symbol (List.mem_of_find?_eq_some hsymbol))

/-- So no lexeme is empty. -/
theorem ne_nil_of_lexeme? (h : lexeme? text = some (kind, characters, rest)) : characters ≠ [] :=
  List.length_pos_iff.mp (kind.weight_pos.trans_le (weight_le_of_lexeme? h))

/-- A number in front of a stop. -/
theorem number?_bind_append (characters rest : List Char) {kind : Token.Kind}
    (hd : isStop d = true) (hlast : (characters ++ rest).getLast? = some d)
    (h : (number? (characters ++ rest ++ more)).bind (fun found =>
        some (Token.Kind.number found.1, (characters ++ rest ++ more).take
          ((characters ++ rest ++ more).length - found.2.length), found.2))
      = some (kind, characters, rest ++ more)) (other : List Char) :
    (number? (characters ++ rest ++ other)).bind (fun found =>
        some (Token.Kind.number found.1, (characters ++ rest ++ other).take
          ((characters ++ rest ++ other).length - found.2.length), found.2))
      = some (kind, characters, rest ++ other) := by
  obtain ⟨⟨value, after⟩, hvalue, h⟩ := Option.bind_eq_some_iff.mp h
  dsimp only at h
  obtain ⟨rfl, -, rfl⟩ : _ ∧ _ ∧ _ := by simpa using h
  have hsettles := settles_number? (characters ++ rest) d hd hlast
  rw [(hsettles more).1] at hvalue
  obtain ⟨⟨value', after⟩, hvalue', heq⟩ := Option.map_eq_some_iff.mp hvalue
  obtain ⟨rfl, hafter⟩ : _ ∧ _ := by simpa using heq
  obtain rfl := hafter
  rw [(hsettles other).1, hvalue']
  have hlengths : (characters ++ after ++ other).length - (after ++ other).length
      = characters.length := by
    simp only [List.length_append]
    omega
  simp only [Option.map_some, Option.bind_some]
  rw [hlengths, List.append_assoc, List.take_left]

/-- A word in front of a stop. -/
theorem word_append (characters rest : List Char) {kind : Token.Kind}
    (hd : isStop d = true) (hlast : (characters ++ rest).getLast? = some d)
    (h : word ((characters ++ rest ++ more).takeWhile isWordChar)
        ((characters ++ rest ++ more).dropWhile isWordChar)
      = some (kind, characters, rest ++ more)) (other : List Char) :
    word ((characters ++ rest ++ other).takeWhile isWordChar)
        ((characters ++ rest ++ other).dropWhile isWordChar)
      = some (kind, characters, rest ++ other) := by
  have htake := fun more => takeWhile_append_of_stop (isWordChar_of_isStop hd) hlast more
  rw [(htake more).1, (htake more).2.1] at h
  rw [(htake other).1, (htake other).2.1]
  obtain ⟨-, hbehind, -⟩ := word_eq_some h
  rw [word_congr h, ← List.append_cancel_right hbehind]

/-- An operator in front of a stop. -/
theorem operator?_bind_append (characters rest : List Char) {kind : Token.Kind}
    (hd : isStop d = true) (hlast : (characters ++ rest).getLast? = some d)
    (h : (operator? (characters ++ rest ++ more)).bind (fun symbol =>
        some (Token.Kind.operator symbol, symbol.toList,
          (characters ++ rest ++ more).drop symbol.length))
      = some (kind, characters, rest ++ more)) (other : List Char) :
    (operator? (characters ++ rest ++ other)).bind (fun symbol =>
        some (Token.Kind.operator symbol, symbol.toList,
          (characters ++ rest ++ other).drop symbol.length))
      = some (kind, characters, rest ++ other) := by
  obtain ⟨symbol, hsymbol, h⟩ := Option.bind_eq_some_iff.mp h
  obtain ⟨rfl, hcharacters, -⟩ : _ ∧ _ ∧ _ := by simpa using h
  rw [operator?_append hd hlast] at hsymbol
  rw [operator?_append hd hlast, hsymbol]
  have hlength : symbol.length = characters.length := by
    rw [← String.length_toList, hcharacters]
  simp only [Option.bind_some, hlength, hcharacters]
  rw [List.append_assoc, List.drop_left]

/-- **A lexeme in front of a stop does not depend on what is behind the stop.** -/
theorem lexeme?_append {rest : List Char} (hd : isStop d = true) (hlast : rest.getLast? = some d)
    (h : lexeme? (characters ++ rest ++ more) = some (kind, characters, rest ++ more))
    (other : List Char) :
    lexeme? (characters ++ rest ++ other) = some (kind, characters, rest ++ other) := by
  have hrest : rest ≠ [] := by
    rintro rfl
    exact absurd hlast nofun
  have hlast' : (characters ++ rest).getLast? = some d := by
    rw [List.getLast?_append, hlast]
    rfl
  have hlength : 2 ≤ (characters ++ rest).length := by
    have := List.length_pos_iff.mpr (ne_nil_of_lexeme? h)
    have := List.length_pos_iff.mpr hrest
    simp only [List.length_append]
    omega
  cases hletters : literalLetters (characters ++ rest ++ more) with
  | some found =>
    -- a literal is read up to its closing quotation mark, so only the character behind it matters
    obtain ⟨letters, quoted⟩ := found
    rw [lexeme?_literal_eq hletters] at h
    obtain ⟨_, hcontent, heq⟩ := Option.bind_eq_some_iff.mp h
    obtain ⟨rfl, -⟩ := Prod.mk.inj (Option.some.inj heq)
    have hhead : ∀ more, (rest ++ more).head? = rest.head? := by
      intro more
      rw [List.head?_append, Option.or_eq_left_of_isSome]
      simpa using hrest
    rw [← lexeme?_literal_eq hletters] at h
    rw [List.append_assoc]
    exact lexeme?_literal_congr h fun mark _ hmark => by rwa [hhead, ← hhead more] at hmark
  | none =>
    -- whether a text begins with a literal shows in front of the stop, which is behind at least one
    -- more character
    have hletters' := literalLetters_append_eq_none hd hlast' hlength hletters other
    obtain ⟨c, behind, rfl⟩ := List.exists_cons_of_ne_nil (ne_nil_of_lexeme? h)
    simp only [List.cons_append] at hletters hletters' h hlast' ⊢
    rw [lexeme?_cons hletters] at h
    rw [lexeme?_cons hletters']
    have hlook : ∀ more,
        startsNumber c (behind ++ rest ++ more) = startsNumber c (behind ++ rest) := by
      intro more
      unfold startsNumber
      rw [List.head?_append, Option.or_eq_left_of_isSome]
      simp [hrest]
    rw [hlook more] at h
    rw [hlook other]
    split at h
    next hnumber =>
      rw [if_pos hnumber]
      exact number?_bind_append (c :: behind) rest hd hlast' h other
    next hnumber =>
      rw [if_neg hnumber]
      split at h
      next hword =>
        rw [if_pos hword]
        exact word_append (c :: behind) rest hd hlast' h other
      next hword =>
        rw [if_neg hword]
        exact operator?_bind_append (c :: behind) rest hd hlast' h other

end ExpectFile.Grammar
