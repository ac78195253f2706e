import ExpectFile.Proofs.Text.Breaks

/-!
# Offsets of places

A place names a line and counts bytes in it; an offset counts characters from the start of the
text. The conversion finds the characters that the bytes belong to, so it can be undone, except
where a column is not the end of a character or lies behind the line, and it never leaves the line.

* **`charsBefore_of_le`**, **`charsBefore_of_inside`** — columns behind the line, and inside a
  character; with `charsBefore_byteLength` these are all (`column_cases`).
* **`breaksUpTo_add`** — no break ends on the way through a line.
* **`exists_startsLine_le`** — every offset is on a line, the middle of a break excepted.
* **`offset_inverts`** — the conversion and its inverse.
-/

namespace ExpectFile.LineTable

open Outcome

/-- The offset is between the two characters of a line break. -/
def InsideBreak (text : List Char) (offset : Nat) : Prop :=
  ∃ index, offset = index + 1 ∧ text[index]? = some '\r' ∧ text[index + 1]? = some '\n'

/-! ## Columns -/

/-- Bytes behind the end of a text hold all of its characters. -/
theorem charsBefore_of_le {text : List Char} {bytes : Nat} (position : Nat)
    (h : byteLength text ≤ bytes) : charsBefore position bytes text = .ok text.length := by
  induction text generalizing position bytes with
  | nil => cases bytes <;> rfl
  | cons c rest ih =>
    rw [byteLength_cons] at h
    have hpos : 0 < c.utf8Size := c.utf8Size_pos
    obtain ⟨less, rfl⟩ : ∃ less, bytes = less + 1 := ⟨bytes - 1, by omega⟩
    have hrest : byteLength rest ≤ less + 1 - c.utf8Size := by omega
    show (if c.utf8Size ≤ less + 1 then _ else _) = _
    rw [if_pos (by omega), ih _ hrest]
    rfl

/-- A column inside a character cannot be converted. The fault says where the character begins, how
many of its bytes are in front of the column, and the first of them. -/
theorem charsBefore_of_inside {text : List Char} {bytes chars : Nat} {c : Char} (position : Nat)
    (hc : text[chars]? = some c) (hfrom : byteLength (text.take chars) < bytes)
    (hto : bytes < byteLength (text.take (chars + 1))) :
    charsBefore position bytes text
      = .error (.splitCharacter (position + byteLength (text.take chars))
          (bytes - byteLength (text.take chars)) (firstByte c)) := by
  induction text generalizing position bytes chars with
  | nil => exact absurd hc nofun
  | cons d rest ih =>
    obtain ⟨less, rfl⟩ : ∃ less, bytes = less + 1 := ⟨bytes - 1, by omega⟩
    rw [List.take_succ_cons, byteLength_cons] at hto
    show (if d.utf8Size ≤ less + 1 then _ else _) = _
    cases chars with
    | zero =>
      -- the first character is the one that the column cuts
      obtain rfl : d = c := Option.some.inj hc
      have hzero : byteLength (rest.take 0) = 0 := rfl
      rw [if_neg (by omega)]
      rfl
    | succ chars =>
      rw [List.take_succ_cons, byteLength_cons] at hfrom
      -- a column in the rest, counted from where the rest starts
      have hrest : byteLength (rest.take chars) < less + 1 - d.utf8Size := by omega
      rw [if_pos (by omega), ih _ hc hrest (by omega), List.take_succ_cons, byteLength_cons,
        Nat.add_assoc, Nat.sub_sub]
      rfl

/-- **The columns of a line**: the end of some of its characters, a place inside one, or a place
behind them all. -/
theorem column_cases (text : List Char) (column : Nat) :
    (∃ chars ≤ text.length, column = byteLength (text.take chars))
      ∨ (∃ chars c, text[chars]? = some c ∧ byteLength (text.take chars) < column
        ∧ column < byteLength (text.take (chars + 1)))
      ∨ byteLength text < column := by
  induction text generalizing column with
  | nil =>
    cases column with
    | zero => exact Or.inl ⟨0, Nat.le_refl 0, rfl⟩
    | succ column => exact Or.inr (Or.inr (Nat.succ_pos column))
  | cons c rest ih =>
    rcases Nat.lt_or_ge column c.utf8Size with hlt | hge
    · cases column with
      | zero => exact Or.inl ⟨0, Nat.zero_le _, rfl⟩
      | succ column =>
        refine Or.inr (Or.inl ⟨0, c, rfl, Nat.succ_pos column, ?_⟩)
        rwa [List.take_succ_cons, byteLength_cons]
    · -- behind the first character, the column is one of the rest
      rcases ih (column - c.utf8Size) with ⟨chars, hle, heq⟩ | ⟨chars, d, hd, hfrom, hto⟩ | hbehind
      · refine Or.inl ⟨chars + 1, Nat.succ_le_succ hle, ?_⟩
        rw [List.take_succ_cons, byteLength_cons]
        omega
      · refine Or.inr (Or.inl ⟨chars + 1, d, hd, ?_, ?_⟩)
        · rw [List.take_succ_cons, byteLength_cons]
          omega
        · rw [List.take_succ_cons, byteLength_cons]
          omega
      · refine Or.inr (Or.inr ?_)
        rw [byteLength_cons]
        omega

/-! ## Within a line -/

/-- A line holds no break. -/
theorem isBreak_of_lt_length {text : List Char} {start further : Nat} {c : Char}
    (h : further < (lineFrom text start).length) (hc : text[start + further]? = some c) :
    isBreak c = false := by
  obtain ⟨behind, hbehind⟩ : lineFrom text start <+: text.drop start := List.takeWhile_prefix _
  have hline : (lineFrom text start)[further]? = some c := by
    rw [← List.getElem?_append_left h, hbehind, List.getElem?_drop, hc]
  have hkept := List.mem_takeWhile_imp (List.mem_of_getElem? hline)
  simpa using hkept

/-- No break ends on the way through a line. -/
theorem breaksUpTo_add {text : List Char} {start chars : Nat}
    (h : chars ≤ (lineFrom text start).length) :
    breaksUpTo text (start + chars) = breaksUpTo text start := by
  refine breaksUpTo_add_of_not_endsBreak fun further hlt => ?_
  cases hends : endsBreak text (start + further) with
  | false => rfl
  | true =>
    obtain ⟨c, hc, hbreak⟩ := isBreak_of_endsBreak hends
    rw [isBreak_of_lt_length (Nat.lt_of_lt_of_le hlt h) hc] at hbreak
    exact absurd hbreak nofun

/-- What holds no break in front of an offset is part of the line. -/
theorem le_add_length_lineFrom {text : List Char} {start place : Nat} (hle : place ≤ text.length)
    (h : ∀ index c, start ≤ index → index < place → text[index]? = some c → isBreak c = false) :
    place ≤ start + (lineFrom text start).length := by
  by_contra hbeyond
  have hwhole : lineFrom text start ++ (text.drop start).dropWhile (!isBreak ·)
      = text.drop start := List.takeWhile_append_dropWhile
  cases hbehind : (text.drop start).dropWhile (!isBreak ·) with
  | nil =>
    -- the line goes up to the end of the text
    have hlength := congrArg List.length hwhole
    rw [hbehind, List.append_nil, List.length_drop] at hlength
    omega
  | cons c others =>
    have hc : text[start + (lineFrom text start).length]? = some c := by
      rw [← List.getElem?_drop, ← hwhole, hbehind, List.getElem?_append_right (Nat.le_refl _),
        Nat.sub_self]
      rfl
    have hbreak : isBreak c = true := by
      have hstop := List.dropWhile_get_zero_not (!isBreak ·) (text.drop start)
        (by rw [hbehind]; exact Nat.succ_pos _)
      simpa [hbehind] using hstop
    rw [h _ c (Nat.le_add_right _ _) (by omega) hc] at hbreak
    exact absurd hbreak nofun

/-- **Every offset is on a line**, unless it is in the middle of a break. -/
theorem exists_startsLine_le {text : String} {place : Nat} (hplace : place ≤ text.length)
    (hinside : ¬InsideBreak text.toList place) :
    ∃ start, StartsLine text.toList (breaksUpTo text.toList place + 1) start ∧ start ≤ place
      ∧ place ≤ start + (lineFrom text.toList start).length := by
  have hlength : place ≤ text.toList.length := by rwa [String.length_toList]
  obtain ⟨start, hstarts⟩ :=
    exists_startsLine (Nat.succ_pos _) (Nat.succ_le_succ (breaksUpTo_mono hlength))
  have hcount : breaksUpTo text.toList start = breaksUpTo text.toList place :=
    Nat.succ.inj hstarts.1
  have hstart : start ≤ place := by
    by_contra hbehind
    obtain ⟨index, rfl⟩ : ∃ index, start = index + 1 := ⟨start - 1, by omega⟩
    have hmore : breaksUpTo text.toList place < breaksUpTo text.toList (index + 1) :=
      breaksUpTo_lt (hstarts.2 index rfl) (by omega) (Nat.lt_add_one index)
    omega
  refine ⟨start, hstarts, hstart, le_add_length_lineFrom hlength fun index c hfrom hto hc => ?_⟩
  -- a break that ends between the start and the place would be counted for the place only
  have hnone : ∀ last, start ≤ last → last < place → endsBreak text.toList last = false := by
    intro last hlow hhigh
    cases hends : endsBreak text.toList last with
    | false => rfl
    | true =>
      have hmore := breaksUpTo_lt hends hlow hhigh
      omega
  cases hbreak : isBreak c with
  | false => rfl
  | true =>
    -- so `c` begins a break that ends behind the place
    have hhere := hnone index hfrom hto
    obtain ⟨rfl, hfeed⟩ : c = '\r' ∧ text.toList[index + 1]? = some '\n' := by
      rcases (Bool.or_eq_true _ _).mp hbreak with hreturn | hfeed
      · obtain rfl : c = '\r' := beq_iff_eq.mp hreturn
        refine ⟨rfl, ?_⟩
        simpa [endsBreak, hc] using hhere
      · obtain rfl : c = '\n' := beq_iff_eq.mp hfeed
        simp [endsBreak, hc] at hhere
    have hends : endsBreak text.toList (index + 1) = true := by simp [endsBreak, hfeed]
    rcases Nat.lt_or_ge (index + 1) place with hlt | hge
    · rw [hnone (index + 1) (by omega) hlt] at hends
      cases hends
    · exact absurd ⟨index, by omega, hc, hfeed⟩ hinside

/-! ## There and back -/

/-- The conversion, given the start of the line. -/
theorem offset_eq_map {text : String} {number start : Nat} (h : StartsLine text.toList number start)
    (column : Nat) :
    (ofText text).offset number column
      = (charsBefore 0 column (lineFrom text.toList start)).map (start + ·) := by
  obtain ⟨line, hline, rfl, htext⟩ := getElem?_lines_of_startsLine h
  have hpos : 0 < number := by
    have := h.1
    omega
  rw [← htext]
  unfold LineTable.offset
  rw [line_eq_ok hpos hline]
  show charsBefore 0 _ line.text >>= _ = _
  rw [if_neg (by omega), Int.toNat_natCast]
  cases charsBefore 0 column line.text <;> rfl

/-- **The conversion of places can be undone.** Take the line with a number, from its start to the
next break. A column that counts the bytes of its first characters leads behind these; a column
behind all of its bytes leads to its end; and any other column is inside a character and cannot be
converted. Wherever a place leads, as many line breaks end up to there as lie in front of the line.
Every number up to the number of lines has a line. And every offset that is not in the middle of a
break is on a line, whose number and whose bytes up to there lead back to it. -/
theorem offset_inverts (text : String) :
    (∀ number start content, StartsLine text.toList number start →
        content = lineFrom text.toList start →
        (∀ chars ≤ content.length,
            (ofText text).offset number (byteLength (content.take chars)) = .ok (start + chars))
          ∧ (∀ column : Nat, byteLength content < column →
            (ofText text).offset number column = .ok (start + content.length))
          ∧ (∀ column : Nat, column ≤ byteLength content →
            (∀ chars ≤ content.length, column ≠ byteLength (content.take chars)) →
              ∃ chars c, content[chars]? = some c ∧ byteLength (content.take chars) < column
                ∧ column < byteLength (content.take (chars + 1))
                ∧ (ofText text).offset number column
                  = .error (.splitCharacter (byteLength (content.take chars))
                      (column - byteLength (content.take chars)) (firstByte c)))
          ∧ ∀ column result, 0 ≤ column → (ofText text).offset number column = .ok result →
            breaksUpTo text.toList result = number - 1)
      ∧ (∀ number, 0 < number → number ≤ lineCount text.toList →
        ∃ start, StartsLine text.toList number start)
      ∧ ∀ place ≤ text.length, ¬InsideBreak text.toList place →
        ∃ number start content, number = breaksUpTo text.toList place + 1
          ∧ StartsLine text.toList number start ∧ content = lineFrom text.toList start
          ∧ start ≤ place ∧ place ≤ start + content.length
          ∧ (ofText text).offset number (byteLength (content.take (place - start))) = .ok place := by
  have hforth : ∀ {number start}, StartsLine text.toList number start →
      ∀ chars ≤ (lineFrom text.toList start).length,
        (ofText text).offset number (byteLength ((lineFrom text.toList start).take chars))
          = .ok (start + chars) := by
    intro number start hstarts chars hchars
    rw [offset_eq_map hstarts, charsBefore_byteLength 0 hchars]
    rfl
  refine ⟨?_, fun number hpos hle => exists_startsLine hpos hle, ?_⟩
  · rintro number start line hstarts rfl
    have hbehind : ∀ column : Nat, byteLength (lineFrom text.toList start) < column →
        (ofText text).offset number column
          = .ok (start + (lineFrom text.toList start).length) := by
      intro column hcolumn
      rw [offset_eq_map hstarts, charsBefore_of_le 0 (Nat.le_of_lt hcolumn)]
      rfl
    have hinside : ∀ {column chars c}, (lineFrom text.toList start)[chars]? = some c →
        byteLength ((lineFrom text.toList start).take chars) < column →
        column < byteLength ((lineFrom text.toList start).take (chars + 1)) →
        (ofText text).offset number (column : Nat)
          = .error (.splitCharacter (byteLength ((lineFrom text.toList start).take chars))
              (column - byteLength ((lineFrom text.toList start).take chars)) (firstByte c)) := by
      intro column chars c hc hfrom hto
      rw [offset_eq_map hstarts, charsBefore_of_inside 0 hc hfrom hto, Nat.zero_add]
      rfl
    refine ⟨hforth hstarts, hbehind, ?_, ?_⟩
    · intro column hle hnone
      -- a column of the line is at a character, inside of one, or behind the line; the first and
      -- the last are excluded here
      rcases column_cases (lineFrom text.toList start) column with
        ⟨chars, hchars, heq⟩ | ⟨chars, c, hc, hfrom, hto⟩ | hlt
      · exact absurd heq (hnone chars hchars)
      · exact ⟨chars, c, hc, hfrom, hto, hinside hc hfrom hto⟩
      · exact absurd hlt (Nat.not_lt.mpr hle)
    · intro column result hcolumn hresult
      obtain ⟨bytes, rfl⟩ := Int.eq_ofNat_of_zero_le hcolumn
      have hnumber : number - 1 = breaksUpTo text.toList start := by
        rw [← hstarts.1, Nat.add_sub_cancel]
      rw [hnumber]
      -- an offset is given at a character and behind the line, and no break ends on the way there
      rcases column_cases (lineFrom text.toList start) bytes with
        ⟨chars, hchars, rfl⟩ | ⟨chars, c, hc, hfrom, hto⟩ | hlt
      · rw [hforth hstarts chars hchars] at hresult
        rw [← Except.ok.inj hresult, breaksUpTo_add hchars]
      · rw [hinside hc hfrom hto] at hresult
        exact absurd hresult nofun
      · rw [hbehind bytes hlt] at hresult
        rw [← Except.ok.inj hresult, breaksUpTo_add (Nat.le_refl _)]
  · intro place hplace hinside
    -- the way back: the last line that starts at or in front of the place
    obtain ⟨start, hstarts, hle, hwithin⟩ := exists_startsLine_le hplace hinside
    have hback := hforth hstarts (place - start) (by omega)
    rw [Nat.add_sub_cancel' hle] at hback
    exact ⟨_, start, _, rfl, hstarts, rfl, hle, hwithin, hback⟩

/-- The second line of the text starts behind both characters of the break, and its only character
has two bytes. -/
example : StartsLine "a\r\né".toList 2 3
    ∧ (ofText "a\r\né").offset 2 2 = .ok 4
    ∧ (ofText "a\r\né").offset 2 1 = .error (.splitCharacter 0 1 0xc3) :=
  ⟨⟨rfl, fun index h => by obtain rfl : 2 = index := Nat.succ.inj h; rfl⟩, rfl, rfl⟩

end ExpectFile.LineTable
