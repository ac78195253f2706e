import ExpectFile.Proofs.Text.Positions
import Mathlib.Data.List.TakeWhile

/-!
# Lines between breaks

Where the lines of a text begin and how many there are can be said without cutting the text up: a
break ends behind a line feed, and behind a carriage return unless a line feed follows. Counting
these ends gives the number of a line, and the line itself goes up to the next carriage return or
line feed. The lines of a table are found to be exactly these.

* **`breaksUpTo_cons`** — counting, character by character.
* **`exists_of_getElem?_linesFrom`** — a line of a table starts where its number says and has the
  text that stands there.
* **`length_linesFrom`** — there is one line more than there are breaks.
* **`StartsLine.unique`**, **`getElem?_lines_of_startsLine`** — so the start of a line is enough to
  find it.
-/

namespace ExpectFile.LineTable

/-- Whether a character breaks a line, alone or with another. -/
def isBreak (c : Char) : Bool := c == '\r' || c == '\n'

/-- Whether the character with a number is the last one of a line break. -/
def endsBreak (text : List Char) (index : Nat) : Bool :=
  text[index]? == some '\n' || (text[index]? == some '\r' && text[index + 1]? != some '\n')

/-- How many line breaks end at an offset or in front of it. -/
def breaksUpTo (text : List Char) (offset : Nat) : Nat :=
  (List.range offset).countP (endsBreak text)

/-- How many lines a text has. -/
def lineCount (text : List Char) : Nat := breaksUpTo text text.length + 1

/-- What stands between an offset and the next line break. -/
def lineFrom (text : List Char) (offset : Nat) : List Char :=
  (text.drop offset).takeWhile (!isBreak ·)

/-- The line with a number starts at an offset: one break fewer ends up to there, and the last of
them right there. -/
def StartsLine (text : List Char) (number offset : Nat) : Prop :=
  breaksUpTo text offset + 1 = number ∧ ∀ index, offset = index + 1 → endsBreak text index = true

variable {text rest : List Char} {c : Char} {offset later index : Nat}

/-! ## Counting -/

theorem isBreak_eq_false (hreturn : c ≠ '\r') (hfeed : c ≠ '\n') : isBreak c = false := by
  simp [isBreak, hreturn, hfeed]

theorem endsBreak_cons_succ (c : Char) (rest : List Char) (index : Nat) :
    endsBreak (c :: rest) (index + 1) = endsBreak rest index := rfl

/-- Only a carriage return or a line feed ends a break. -/
theorem isBreak_of_endsBreak (h : endsBreak text index = true) :
    ∃ c, text[index]? = some c ∧ isBreak c = true := by
  unfold endsBreak at h
  rcases Bool.or_eq_true _ _ ▸ h with hfeed | hreturn
  · exact ⟨'\n', by simpa using hfeed, rfl⟩
  · rw [Bool.and_eq_true] at hreturn
    exact ⟨'\r', by simpa using hreturn.1, rfl⟩

/-- A break ends within the text. -/
theorem lt_length_of_endsBreak (h : endsBreak text index = true) : index < text.length := by
  obtain ⟨c, hc, -⟩ := isBreak_of_endsBreak h
  exact (List.getElem?_eq_some_iff.mp hc).1

theorem breaksUpTo_succ (text : List Char) (offset : Nat) :
    breaksUpTo text (offset + 1)
      = breaksUpTo text offset + if endsBreak text offset then 1 else 0 := by
  unfold breaksUpTo
  rw [List.range_succ, List.countP_append, List.countP_singleton]

/-- A character in front of a text adds a break if it ends one. -/
theorem breaksUpTo_cons (c : Char) (rest : List Char) (offset : Nat) :
    breaksUpTo (c :: rest) (offset + 1)
      = breaksUpTo rest offset + if endsBreak (c :: rest) 0 then 1 else 0 := by
  induction offset with
  | zero => rw [breaksUpTo_succ]; rfl
  | succ offset ih =>
    rw [breaksUpTo_succ, ih, breaksUpTo_succ, endsBreak_cons_succ]
    omega

theorem breaksUpTo_mono (h : offset ≤ later) : breaksUpTo text offset ≤ breaksUpTo text later := by
  induction h with
  | refl => exact Nat.le_refl _
  | step _ ih =>
    rw [breaksUpTo_succ]
    omega

/-- A break that ends in between is counted. -/
theorem breaksUpTo_lt (hends : endsBreak text index = true) (hfrom : offset ≤ index)
    (hto : index < later) : breaksUpTo text offset < breaksUpTo text later := by
  have hbefore : breaksUpTo text offset ≤ breaksUpTo text index := breaksUpTo_mono hfrom
  have hafter : breaksUpTo text (index + 1) ≤ breaksUpTo text later := breaksUpTo_mono hto
  rw [breaksUpTo_succ, if_pos hends] at hafter
  omega

/-- Where no break ends, none is counted. -/
theorem breaksUpTo_add_of_not_endsBreak {length : Nat}
    (h : ∀ further < length, endsBreak text (offset + further) = false) :
    breaksUpTo text (offset + length) = breaksUpTo text offset := by
  induction length with
  | zero => rfl
  | succ length ih =>
    rw [← Nat.add_assoc, breaksUpTo_succ, h length (Nat.lt_succ_self length),
      ih fun further hlt => h further (Nat.lt_succ_of_lt hlt)]
    rfl

/-- A character that breaks no line ends no break. -/
theorem endsBreak_cons_zero (h : isBreak c = false) : endsBreak (c :: rest) 0 = false := by
  cases hends : endsBreak (c :: rest) 0 with
  | false => rfl
  | true =>
    obtain ⟨d, hd, hbreak⟩ := isBreak_of_endsBreak hends
    obtain rfl : c = d := Option.some.inj hd
    rw [h] at hbreak
    exact absurd hbreak nofun

/-- A carriage return ends a break unless a line feed follows. -/
theorem endsBreak_return (h : ∀ others, rest ≠ '\n' :: others) :
    endsBreak ('\r' :: rest) 0 = true := by
  cases rest with
  | nil => rfl
  | cons c others =>
    have hc : c ≠ '\n' := by
      rintro rfl
      exact h others rfl
    simp [endsBreak, hc]

theorem lineCount_cons (c : Char) (rest : List Char) :
    lineCount (c :: rest) = lineCount rest + if endsBreak (c :: rest) 0 then 1 else 0 := by
  unfold lineCount
  rw [List.length_cons, breaksUpTo_cons]
  omega

/-! ## Starts of lines -/

/-- The first line starts where the text does. -/
theorem startsLine_one (text : List Char) : StartsLine text 1 0 := ⟨rfl, nofun⟩

/-- The start of a line lies in the text. -/
theorem StartsLine.le_length {number : Nat} (h : StartsLine text number offset) :
    offset ≤ text.length := by
  cases offset with
  | zero => exact Nat.zero_le _
  | succ index => exact lt_length_of_endsBreak (h.2 index rfl)

theorem StartsLine.not_lt {number : Nat} (h : StartsLine text number offset)
    (hlater : StartsLine text number later) : ¬offset < later := by
  intro hlt
  cases later with
  | zero => exact absurd hlt (Nat.not_lt_zero offset)
  | succ index =>
    have hcount : breaksUpTo text offset < breaksUpTo text (index + 1) :=
      breaksUpTo_lt (hlater.2 index rfl) (Nat.le_of_lt_succ hlt) (Nat.lt_add_one index)
    have hnumber := h.1
    have hsame := hlater.1
    omega

/-- **A line starts at one offset.** -/
theorem StartsLine.unique {number : Nat} (h : StartsLine text number offset)
    (hother : StartsLine text number later) : offset = later := by
  have hle := h.not_lt hother
  have hge := hother.not_lt h
  omega

/-- A start keeps its place behind one more character that ends no break; only the first line then
starts in front of it. -/
theorem StartsLine.cons_of_pos {number : Nat} (h : StartsLine rest number offset)
    (hpos : 0 < offset) (c : Char) :
    StartsLine (c :: rest) (number + if endsBreak (c :: rest) 0 then 1 else 0) (offset + 1) := by
  obtain ⟨hnumber, hends⟩ := h
  refine ⟨?_, fun index hindex => ?_⟩
  · rw [breaksUpTo_cons, ← hnumber]
    omega
  · obtain ⟨before, rfl⟩ : ∃ before, offset = before + 1 := ⟨offset - 1, by omega⟩
    obtain rfl : before + 1 = index := Nat.succ.inj hindex
    exact hends before rfl

/-- Behind a character that ends a break every start keeps its place. -/
theorem StartsLine.cons_of_endsBreak {number : Nat} (h : StartsLine rest number offset)
    (hbreak : endsBreak (c :: rest) 0 = true) :
    StartsLine (c :: rest) (number + 1) (offset + 1) := by
  cases offset with
  | succ offset =>
    have hcons := h.cons_of_pos (Nat.succ_pos offset) c
    rwa [if_pos hbreak] at hcons
  | zero =>
    refine ⟨?_, fun index hindex => ?_⟩
    · rw [breaksUpTo_cons, if_pos hbreak, ← h.1]
    · obtain rfl : 0 = index := Nat.succ.inj hindex
      exact hbreak

/-! ## Lines of a table -/

/-- Two characters that break a line together are one break. -/
theorem StartsLine.cons_both {number : Nat} (h : StartsLine rest number offset) :
    StartsLine ('\r' :: '\n' :: rest) (number + 1) (offset + 2) := by
  have hfeed : StartsLine ('\n' :: rest) (number + 1) (offset + 1) := h.cons_of_endsBreak rfl
  exact hfeed.cons_of_pos (Nat.succ_pos offset) '\r'

/-- **A line of a table** starts where the line with its number starts, and has the text that stands
there. Induction along the cutting; the offset grows by what stands in front. -/
theorem exists_of_getElem?_linesFrom {start number : Nat} {text : List Char} {line : Line}
    (h : (linesFrom start text)[number]? = some line) :
    ∃ offset, StartsLine text (number + 1) offset ∧ line.start = start + offset
      ∧ line.text = lineFrom text offset := by
  fun_induction linesFrom start text generalizing number line with
  | case1 start =>
    cases number with
    | zero =>
      obtain rfl := Option.some.inj h
      exact ⟨0, startsLine_one [], rfl, rfl⟩
    | succ number => cases h
  | case2 start rest ih =>
    cases number with
    | zero =>
      obtain rfl := Option.some.inj h
      exact ⟨0, startsLine_one _, rfl, rfl⟩
    | succ number =>
      obtain ⟨offset, hstarts, hstart, htext⟩ := ih h
      exact ⟨offset + 2, hstarts.cons_both, by omega, htext⟩
  | case3 start rest hreturn ih =>
    cases number with
    | zero =>
      obtain rfl := Option.some.inj h
      exact ⟨0, startsLine_one _, rfl, rfl⟩
    | succ number =>
      obtain ⟨offset, hstarts, hstart, htext⟩ := ih h
      have hends : endsBreak ('\r' :: rest) 0 = true := endsBreak_return hreturn
      exact ⟨offset + 1, hstarts.cons_of_endsBreak hends, by omega, htext⟩
  | case4 start rest ih =>
    cases number with
    | zero =>
      obtain rfl := Option.some.inj h
      exact ⟨0, startsLine_one _, rfl, rfl⟩
    | succ number =>
      obtain ⟨offset, hstarts, hstart, htext⟩ := ih h
      exact ⟨offset + 1, hstarts.cons_of_endsBreak rfl, by omega, htext⟩
  | case5 start c rest _ _ _ hnil _ =>
    obtain ⟨line, others, hlines, -⟩ := exists_linesFrom_eq_cons (start + 1) rest
    rw [hlines] at hnil
    cases hnil
  | case6 start c rest hboth hreturn hfeed first others hlines ih =>
    rw [hlines] at ih
    have hc : isBreak c = false := isBreak_eq_false hreturn hfeed
    have hends : endsBreak (c :: rest) 0 = false := endsBreak_cons_zero hc
    cases number with
    | zero =>
      obtain rfl := Option.some.inj h
      have hfirst : (first :: others)[0]? = some first := rfl
      obtain ⟨offset, hstarts, -, htext⟩ := ih hfirst
      -- the first line of the rest starts where the rest does
      obtain rfl : offset = 0 := hstarts.unique (startsLine_one rest)
      refine ⟨0, startsLine_one _, rfl, ?_⟩
      show c :: first.text = (c :: rest).takeWhile (!isBreak ·)
      rw [htext, List.takeWhile_cons, hc]
      rfl
    | succ number =>
      have hlater : (first :: others)[number + 1]? = some line := h
      obtain ⟨offset, hstarts, hstart, htext⟩ := ih hlater
      have hpos : 0 < offset := by
        refine Nat.pos_of_ne_zero ?_
        rintro rfl
        have hnumber : breaksUpTo rest 0 + 1 = number + 1 + 1 := hstarts.1
        exact absurd hnumber (by simp [breaksUpTo])
      have hcons := hstarts.cons_of_pos hpos c
      rw [hends] at hcons
      exact ⟨offset + 1, hcons, by omega, htext⟩

/-- **There is one line more than there are breaks.** -/
theorem length_linesFrom (start : Nat) (text : List Char) :
    (linesFrom start text).length = lineCount text := by
  fun_induction linesFrom start text with
  | case1 start => rfl
  | case2 start rest ih =>
    have hreturn : endsBreak ('\r' :: '\n' :: rest) 0 = false := rfl
    have hfeed : endsBreak ('\n' :: rest) 0 = true := rfl
    rw [List.length_cons, ih, lineCount_cons, lineCount_cons, hreturn, hfeed]
    rfl
  | case3 start rest hreturn ih =>
    rw [List.length_cons, ih, lineCount_cons, endsBreak_return hreturn]
    rfl
  | case4 start rest ih =>
    have hfeed : endsBreak ('\n' :: rest) 0 = true := rfl
    rw [List.length_cons, ih, lineCount_cons, hfeed]
    rfl
  | case5 start c rest _ _ _ hnil _ =>
    obtain ⟨line, others, hlines, -⟩ := exists_linesFrom_eq_cons (start + 1) rest
    rw [hlines] at hnil
    cases hnil
  | case6 start c rest hboth hreturn hfeed first others hlines ih =>
    have hc : isBreak c = false := isBreak_eq_false hreturn hfeed
    rw [hlines] at ih
    rw [lineCount_cons, endsBreak_cons_zero hc, ← ih]
    rfl

/-! ## Finding a line -/

/-- **The line that starts at an offset** is in the table, at the place of its number. -/
theorem getElem?_lines_of_startsLine {text : String} {number offset : Nat}
    (h : StartsLine text.toList number offset) :
    ∃ line, (ofText text).lines[number - 1]? = some line ∧ line.start = offset
      ∧ line.text = lineFrom text.toList offset := by
  have hnumber : number - 1 < (linesFrom 0 text.toList).length := by
    rw [length_linesFrom, lineCount, ← h.1, Nat.add_sub_cancel]
    exact Nat.lt_succ_of_le (breaksUpTo_mono h.le_length)
  obtain ⟨line, hline⟩ : ∃ line, (linesFrom 0 text.toList)[number - 1]? = some line :=
    ⟨_, List.getElem?_eq_getElem hnumber⟩
  obtain ⟨other, hstarts, hstart, htext⟩ := exists_of_getElem?_linesFrom hline
  have hpos : number - 1 + 1 = number := by
    have := h.1
    omega
  rw [hpos] at hstarts
  obtain rfl : other = offset := hstarts.unique h
  exact ⟨line, hline, by omega, htext⟩

/-- Every number up to the number of lines has a line, and so a start. -/
theorem exists_startsLine {text : String} {number : Nat} (hpos : 0 < number)
    (hle : number ≤ lineCount text.toList) : ∃ offset, StartsLine text.toList number offset := by
  have hnumber : number - 1 < (linesFrom 0 text.toList).length := by
    rw [length_linesFrom]
    omega
  obtain ⟨offset, hstarts, -, -⟩ :=
    exists_of_getElem?_linesFrom (List.getElem?_eq_getElem hnumber)
  rw [Nat.sub_add_cancel hpos] at hstarts
  exact ⟨offset, hstarts⟩

end ExpectFile.LineTable
