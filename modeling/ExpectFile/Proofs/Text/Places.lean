import ExpectFile.Grammar.Token
import ExpectFile.Proofs.Outcome
import ExpectFile.Text.LineTable

/-!
# Places and offsets

A parser may give any two numbers as a place. A place is good if there is something at it: its line
exists, and its column ends a character of the line or is zero. `LineTable.Denotes` says so, and
says which offset is meant, without going through the conversion.

* **`offset_of_denotes`** — at a good place the conversion succeeds, and finds that offset.
* **`le_of_denotes`** — no good place is beyond the end of the text.
-/

namespace ExpectFile.LineTable

open Grammar Outcome

/-- `table.Denotes p offset`: the place is on some line, behind the characters of that line whose
bytes its column counts, and the offset is the start of the line with those characters added. -/
def Denotes (table : LineTable) (p : Position) (offset : Nat) : Prop :=
  ∃ line chars, 0 < p.line ∧ table.lines[p.line - 1]? = some line
    ∧ chars ≤ line.text.length ∧ p.column = byteLength (line.text.take chars)
    ∧ offset = line.start + chars

/-! ## Columns -/

theorem byteLength_cons (c : Char) (text : List Char) :
    byteLength (c :: text) = c.utf8Size + byteLength text := rfl

/-- The bytes of the first characters hold those characters. -/
theorem charsBefore_byteLength {text : List Char} {chars : Nat} (position : Nat)
    (h : chars ≤ text.length) :
    charsBefore position (byteLength (text.take chars)) text = .ok chars := by
  induction text generalizing position chars with
  | nil =>
    obtain rfl : chars = 0 := Nat.le_zero.mp h
    rfl
  | cons c rest ih =>
    cases chars with
    | zero => rfl
    | succ chars =>
      have hrest : chars ≤ rest.length := Nat.le_of_succ_le_succ h
      have hpos : 0 < c.utf8Size := c.utf8Size_pos
      obtain ⟨bytes, hbytes⟩ :
          ∃ bytes, c.utf8Size + byteLength (rest.take chars) = bytes + 1 :=
        ⟨c.utf8Size + byteLength (rest.take chars) - 1, by omega⟩
      -- the column is not zero, so the first character is counted
      rw [List.take_succ_cons, byteLength_cons, hbytes]
      show (if c.utf8Size ≤ bytes + 1 then _ else _) = _
      rw [if_pos (by omega),
        show bytes + 1 - c.utf8Size = byteLength (rest.take chars) from by omega, ih _ hrest]
      rfl

/-! ## Lines -/

/-- A line begins no earlier than the text it is a line of, and ends within it. -/
theorem bounds_of_mem_linesFrom {start : Nat} {text : List Char} {line : Line}
    (h : line ∈ linesFrom start text) :
    start ≤ line.start ∧ line.start + line.text.length ≤ start + text.length := by
  fun_induction linesFrom start text generalizing line with
  | case1 start =>
    rw [List.mem_singleton.mp h]
    exact ⟨Nat.le_refl _, Nat.le_refl _⟩
  | case2 start rest ih =>
    rw [List.length_cons, List.length_cons]
    rcases List.mem_cons.mp h with rfl | hrest
    · exact ⟨Nat.le_refl start, Nat.le_add_right start _⟩
    · have := ih hrest
      omega
  | case3 start rest _ ih | case4 start rest ih =>
    -- a break of one character
    rw [List.length_cons]
    rcases List.mem_cons.mp h with rfl | hrest
    · exact ⟨Nat.le_refl start, Nat.le_add_right start _⟩
    · have := ih hrest
      omega
  | case5 start c rest _ _ _ _ =>
    rw [List.mem_singleton.mp h, List.length_cons]
    exact ⟨Nat.le_refl start, Nat.add_le_add_left (Nat.le_add_left 1 _) start⟩
  | case6 start c rest _ _ _ first others hlines ih =>
    rw [hlines] at ih
    rw [List.length_cons]
    rcases List.mem_cons.mp h with rfl | hothers
    · -- the first line of the rest grows by the character
      have := ih List.mem_cons_self
      show start ≤ start ∧ start + (first.text.length + 1) ≤ _
      omega
    · have := ih (List.mem_cons_of_mem first hothers)
      omega

/-! ## Places -/

/-- A line with a number is found. -/
theorem line_eq_ok {table : LineTable} {number : Nat} {found : Line} (hpos : 0 < number)
    (h : table.lines[number - 1]? = some found) : table.line number = .ok found := by
  have hindex : ¬(number : Int) - 1 < 0 := by omega
  have htoNat : ((number : Int) - 1).toNat = number - 1 := by omega
  unfold line
  simp only [if_neg hindex, htoNat, h]

/-- **Good places convert.** -/
theorem offset_of_denotes {table : LineTable} {p : Position} {offset : Nat}
    (h : table.Denotes p offset) : table.offset p.line p.column = .ok offset := by
  obtain ⟨line, chars, hpos, hline, hchars, hcolumn, rfl⟩ := h
  unfold LineTable.offset
  rw [line_eq_ok hpos hline]
  show charsBefore 0 _ line.text >>= _ = _
  rw [if_neg (by omega), Int.toNat_natCast, hcolumn, charsBefore_byteLength 0 hchars]
  rfl

/-- **Good places are in the text.** -/
theorem le_of_denotes {text : String} {p : Position} {offset : Nat}
    (h : (ofText text).Denotes p offset) : offset ≤ text.length := by
  obtain ⟨line, chars, -, hline, hchars, -, rfl⟩ := h
  have hmem : line ∈ linesFrom 0 text.toList := List.mem_of_getElem? hline
  have hbounds := bounds_of_mem_linesFrom hmem
  rw [String.length_toList] at hbounds
  omega

end ExpectFile.LineTable
