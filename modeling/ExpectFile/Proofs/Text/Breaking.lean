import ExpectFile.Proofs.Text.Positions

/-!
# Line feeds for breaks, character by character

The lexer sees a text with line feeds for its breaks. A carriage return and a line feed are one
break, so what it sees of a line feed depends on the character in front. `fed` goes through a text
with the break that it ends in so far, and can therefore be cut anywhere.

* **`unified_append`** — a text in two pieces.
* **`fed_eq_lineFeeds`** — what the lexer sees, if no break is cut in front.
* **`unifyBreaks_eq_unified`** — what it sees of a whole text.
-/

namespace ExpectFile.Grammar

/-! ## Line feeds, character by character -/

/-- The line feed, or the character, that the lexer sees of a character of a text. `last` is the
break that the characters in front of it end in. -/
def fedChars (last : Option LineBreak) (c : Char) : List Char :=
  if c = '\r' then ['\n']
  else if c = '\n' then (if last = some .carriageReturn then [] else ['\n'])
  else [c]

/-- The break that a text ends in with one more character. -/
def nextBreak (last : Option LineBreak) (c : Char) : Option LineBreak :=
  if c = '\r' then some .carriageReturn
  else if c = '\n' then (if last = some .carriageReturn then some .both else some .lineFeed)
  else none

/-- The break that a text ends in with more characters. -/
def lastBreak (last : Option LineBreak) (text : List Char) : Option LineBreak :=
  text.foldl nextBreak last

/-- What the lexer sees of the characters of a text. -/
def fed (last : Option LineBreak) : List Char → List Char
  | [] => []
  | c :: rest => fedChars last c ++ fed (nextBreak last c) rest

/-- The line feed at the end, if there is none. -/
def closing : Option LineBreak → List Char
  | some .carriageReturn | some .lineFeed => []
  | some .both | none => ['\n']

/-- What the lexer sees of the rest of a text. -/
def unified (last : Option LineBreak) (text : List Char) : List Char :=
  fed last text ++ closing (lastBreak last text)

variable {last : Option LineBreak} {text front back rest : List Char} {c : Char}

/-- No break is cut in front of a text. -/
def Uncut (last : Option LineBreak) (text : List Char) : Prop :=
  last = some .carriageReturn → text.head? ≠ some '\n'

theorem Uncut.of_ne (h : last ≠ some .carriageReturn) (text : List Char) : Uncut last text :=
  fun heq => absurd heq h

theorem Uncut.none (text : List Char) : Uncut none text := .of_ne (by simp) text

theorem fedChars_of_ne (hreturn : c ≠ '\r') (hfeed : c ≠ '\n') : fedChars last c = [c] := by
  rw [fedChars, if_neg hreturn, if_neg hfeed]

theorem nextBreak_of_ne (hreturn : c ≠ '\r') (hfeed : c ≠ '\n') : nextBreak last c = none := by
  rw [nextBreak, if_neg hreturn, if_neg hfeed]

@[simp] theorem unified_nil (last : Option LineBreak) : unified last [] = closing last := rfl

theorem unified_cons (last : Option LineBreak) (c : Char) (rest : List Char) :
    unified last (c :: rest) = fedChars last c ++ unified (nextBreak last c) rest := by
  simp [unified, fed, lastBreak]

theorem fed_append (last : Option LineBreak) (front back : List Char) :
    fed last (front ++ back) = fed last front ++ fed (lastBreak last front) back := by
  induction front generalizing last with
  | nil => rfl
  | cons c front ih =>
    rw [List.cons_append, fed, fed, ih, List.append_assoc]
    rfl

theorem lastBreak_append (last : Option LineBreak) (front back : List Char) :
    lastBreak last (front ++ back) = lastBreak (lastBreak last front) back := List.foldl_append

theorem unified_append (last : Option LineBreak) (front back : List Char) :
    unified last (front ++ back) = fed last front ++ unified (lastBreak last front) back := by
  rw [unified, unified, fed_append, lastBreak_append, List.append_assoc]

/-- **The lexer sees line feeds for breaks.** -/
theorem fed_eq_lineFeeds (h : Uncut last text) : fed last text = lineFeeds text := by
  fun_induction lineFeeds text generalizing last with
  | case1 => rfl
  | case2 rest ih => simpa [fed, fedChars, nextBreak] using ih (.of_ne (by simp) rest)
  | case3 rest halone ih =>
    have huncut : Uncut (some .carriageReturn) rest := fun _ => head?_ne_of_forall halone
    simpa [fed, fedChars, nextBreak] using ih huncut
  | case4 c rest _ hreturn ih =>
    by_cases hfeed : c = '\n'
    · subst hfeed
      have hlast : last ≠ some .carriageReturn := fun hlast => h hlast rfl
      have huncut : Uncut (some .lineFeed) rest := .of_ne (by simp) rest
      simpa [fed, fedChars, nextBreak, hlast] using ih huncut
    · rw [fed, fedChars_of_ne hreturn hfeed, nextBreak_of_ne hreturn hfeed]
      rw [ih (.none rest)]
      rfl

theorem lastBreak_concat (last : Option LineBreak) (front : List Char) (c : Char) :
    lastBreak last (front ++ [c]) = nextBreak (lastBreak last front) c := by
  rw [lastBreak_append]
  rfl

/-- A text ends in a carriage return if that is its last character. -/
theorem lastBreak_eq_carriageReturn_iff :
    lastBreak none text = some .carriageReturn ↔ text.getLast? = some '\r' := by
  rcases List.eq_nil_or_concat text with rfl | ⟨text, c, rfl⟩
  · simp [lastBreak]
  · rw [List.concat_eq_append, lastBreak_concat, List.getLast?_concat, nextBreak, Option.some.injEq]
    split
    next hc => simp [hc]
    next hc =>
      split
      · split <;> simp [hc]
      · simp [hc]

/-- **The lexer sees the text with line feeds for breaks, and one at its end.** -/
theorem unifyBreaks_eq_unified (text : List Char) : unifyBreaks text = unified none text := by
  have hfed : fed none text = lineFeeds text := fed_eq_lineFeeds nofun
  unfold unifyBreaks
  rw [unified, ← hfed]
  rcases List.eq_nil_or_concat text with rfl | ⟨text, c, rfl⟩
  · rfl
  · rw [List.concat_eq_append, lastBreak_concat, fed_append]
    have hone : fed (lastBreak none text) [c] = fedChars (lastBreak none text) c := by
      simp [fed]
    rw [hone]
    by_cases hreturn : c = '\r'
    · subst hreturn
      have hsuffix : ['\r', '\n'].isSuffixOf (text ++ ['\r']) = false := by
        simp [List.isSuffixOf, List.isPrefixOf]
      simp [fedChars, nextBreak, closing, hsuffix]
    · by_cases hfeed : c = '\n'
      · subst hfeed
        by_cases hlast : lastBreak none text = some .carriageReturn
        · obtain ⟨before, rfl⟩ := List.getLast?_eq_some_iff.mp
            (lastBreak_eq_carriageReturn_iff.mp hlast)
          simp [fedChars, nextBreak, closing, hlast]
        · have hsuffix : ['\r', '\n'].isSuffixOf (text ++ ['\n']) = false := by
            rw [Bool.eq_false_iff, ne_eq, List.isSuffixOf_iff_suffix]
            rintro ⟨before, heq⟩
            refine hlast (lastBreak_eq_carriageReturn_iff.mpr ?_)
            have hends : before ++ ['\r'] ++ ['\n'] = text ++ ['\n'] := by simpa using heq
            obtain ⟨rfl, -⟩ := List.append_inj' hends rfl
            simp
          simp [fedChars, nextBreak, closing, hlast, hsuffix]
      · simp [fedChars, nextBreak, closing, hreturn, hfeed]

end ExpectFile.Grammar
