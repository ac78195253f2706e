import ExpectFile.Proofs.Text.LineFeeds
import ExpectFile.Proofs.Text.Places

/-!
# Positions on the way through a text

The lexer counts lines and bytes as it goes, in a text with line feeds for breaks; a line table looks
places up in the text itself. The two agree: the position behind some characters denotes their
number, unless a break is cut there.

* **`onLine_afterText`** — the line that a position is on, by induction on the characters.
* **`denotes_lineFeeds`** — the offset that it denotes.
-/

namespace ExpectFile

open Grammar LineTable

theorem Grammar.Position.afterText_append (p : Position) (front back : List Char) :
    p.afterText (front ++ back) = (p.afterText front).afterText back :=
  List.foldl_append

/-- There is a first line, and it starts where the text does. -/
theorem exists_linesFrom_eq_cons (start : Nat) (text : List Char) :
    ∃ line others, linesFrom start text = line :: others ∧ line.start = start := by
  fun_induction linesFrom start text with
  | case1 start => exact ⟨_, _, rfl, rfl⟩
  | case2 start rest _ => exact ⟨_, _, rfl, rfl⟩
  | case3 start rest _ _ => exact ⟨_, _, rfl, rfl⟩
  | case4 start rest _ => exact ⟨_, _, rfl, rfl⟩
  | case5 start c rest _ _ _ _ => exact ⟨_, _, rfl, rfl⟩
  | case6 start c rest _ _ _ line others _ _ => exact ⟨_, _, rfl, rfl⟩

/-- A character that breaks no line stands at the front of the first line. -/
theorem linesFrom_cons {start : Nat} {c : Char} {rest : List Char} {line : Line}
    {others : List Line} (hreturn : c ≠ '\r') (hfeed : c ≠ '\n')
    (hrest : linesFrom (start + 1) rest = line :: others) :
    linesFrom start (c :: rest) = ⟨start, c :: line.text, line.ending⟩ :: others := by
  rw [linesFrom, hrest]
  · rintro _ rfl
    exact absurd rfl hreturn
  · rintro rfl
    exact absurd rfl hreturn
  · rintro rfl
    exact absurd rfl hfeed

/-- A carriage return is a break of its own if no line feed follows. -/
theorem linesFrom_return {start : Nat} {rest : List Char} (h : rest.head? ≠ some '\n') :
    linesFrom start ('\r' :: rest)
      = ⟨start, [], some .carriageReturn⟩ :: linesFrom (start + 1) rest := by
  rw [linesFrom]
  rintro others rfl
  exact h rfl

/-- `OnLine lines number column p offset`: the position is on one of the lines, of which the first
has the number, and in front of which so many bytes are counted already; and it is where the offset
is. -/
def OnLine (lines : List Line) (number column : Nat) (p : Position) (offset : Nat) : Prop :=
  ∃ further line chars, lines[further]? = some line ∧ chars ≤ line.text.length
    ∧ p = ⟨number + further,
        (if further = 0 then column else 0) + byteLength (line.text.take chars)⟩
    ∧ offset = line.start + chars

namespace OnLine

variable {lines others : List Line} {line : Line} {start number column offset : Nat} {p : Position}

theorem front (line : Line) (others : List Line) (number column : Nat) :
    OnLine (line :: others) number column ⟨number, column⟩ line.start :=
  ⟨0, line, 0, rfl, Nat.zero_le _, rfl, rfl⟩

/-- What is on a later line stays there. -/
theorem behind_line (line : Line) (h : OnLine lines (number + 1) 0 p offset) :
    OnLine (line :: lines) number column p offset := by
  obtain ⟨further, found, chars, hfound, hchars, hposition, hoffset⟩ := h
  refine ⟨further + 1, found, chars, hfound, hchars, ?_, hoffset⟩
  rw [hposition, ite_self, if_neg (Nat.succ_ne_zero further), Nat.add_right_comm, Nat.add_assoc]

/-- A character in front of the first line is counted with it, no longer apart. -/
theorem behind_char (c : Char) (hstart : line.start = start + 1)
    (h : OnLine (line :: others) number (column + c.utf8Size) p offset) :
    OnLine (⟨start, c :: line.text, line.ending⟩ :: others) number column p offset := by
  obtain ⟨further, found, chars, hfound, hchars, hposition, hoffset⟩ := h
  cases further with
  | zero =>
    obtain rfl : line = found := Option.some.inj hfound
    refine ⟨0, _, chars + 1, rfl, Nat.succ_le_succ hchars, ?_, ?_⟩
    · rw [hposition, List.take_succ_cons, byteLength_cons, if_pos rfl, if_pos rfl, Nat.add_assoc]
    · show offset = start + (chars + 1)
      omega
  | succ further => exact ⟨further + 1, found, chars, hfound, hchars, hposition, hoffset⟩

end OnLine

/-- **The line that a position is on**, behind the characters of `front` with line feeds for breaks.
Induction on them; a break leads to the next line, and any other character belongs to the first. -/
theorem onLine_afterText {front back : List Char} (h : Apart front back)
    (start number column : Nat) :
    OnLine (linesFrom start (front ++ back)) number column
      (Position.afterText ⟨number, column⟩ (lineFeeds front)) (start + front.length) := by
  fun_induction lineFeeds front generalizing start number column with
  | case1 =>
    obtain ⟨line, others, hlines, rfl⟩ := exists_linesFrom_eq_cons start back
    rw [List.nil_append, hlines]
    exact .front line others number column
  | case2 front ih =>
    have hlength : start + ('\r' :: '\n' :: front).length = start + 2 + front.length := by
      simp only [List.length_cons]
      omega
    rw [hlength]
    exact (ih h.of_cons.of_cons (start + 2) (number + 1) 0).behind_line _
  | case3 front halone ih =>
    have hlength : start + ('\r' :: front).length = start + 1 + front.length := by
      rw [List.length_cons]
      omega
    -- a carriage return ends a line of its own, unless a line feed is behind it; the cut is not
    -- between the two
    rw [hlength, List.cons_append, linesFrom_return (h.head?_ne halone)]
    exact (ih h.of_cons (start + 1) (number + 1) 0).behind_line _
  | case4 c front hboth hreturn ih =>
    have hlength : start + (c :: front).length = start + 1 + front.length := by
      rw [List.length_cons]
      omega
    rw [List.cons_append, hlength]
    by_cases hfeed : c = '\n'
    · subst hfeed
      rw [linesFrom]
      exact (ih h.of_cons (start + 1) (number + 1) 0).behind_line _
    · have hafter : Position.afterText ⟨number, column⟩ (c :: lineFeeds front)
          = Position.afterText ⟨number, column + c.utf8Size⟩ (lineFeeds front) := by
        show Position.afterText (Position.after ⟨number, column⟩ c) (lineFeeds front) = _
        rw [Position.after, if_neg hfeed]
      obtain ⟨line, others, hlines, hstart⟩ :=
        exists_linesFrom_eq_cons (start + 1) (front ++ back)
      have hfound := ih h.of_cons (start + 1) number (column + c.utf8Size)
      rw [hlines] at hfound
      rw [hafter, linesFrom_cons hreturn hfeed hlines]
      exact hfound.behind_char c hstart

/-- **The position behind some characters denotes their number**, if line breaks are read as line
feeds and none is cut. -/
theorem denotes_lineFeeds {text : String} {front back : List Char}
    (htext : text.toList = front ++ back) (h : Apart front back) :
    (ofText text).Denotes (Position.afterText ⟨1, 0⟩ (lineFeeds front)) front.length := by
  obtain ⟨further, line, chars, hline, hchars, hposition, hoffset⟩ := onLine_afterText h 0 1 0
  rw [ite_self, Nat.zero_add] at hposition
  rw [Nat.zero_add] at hoffset
  have hindex : 1 + further - 1 = further := by omega
  rw [hposition]
  refine ⟨line, chars, Nat.add_pos_left Nat.one_pos further, ?_, hchars, rfl, hoffset⟩
  show (linesFrom 0 text.toList)[1 + further - 1]? = some line
  rw [hindex, htext, hline]

end ExpectFile
