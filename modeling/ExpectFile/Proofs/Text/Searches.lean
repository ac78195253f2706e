import ExpectFile.Proofs.Text.Offsets

/-!
# Lines and the breaks between them

A table cuts its lines in one pass. They can be found by searching as well: a search from an offset
goes to the first place where a break stands and takes the longest that stands there. Searching
again from the end of each break finds the breaks of a text one after another, and searching from
the start of a line finds the end of that line. All three see the same breaks.

* **`LineBreak.atFront?_eq_some_iff`**, **`nextBreak?_eq_some_iff`** — what a search finds.
* **`linesFrom_of_some`**, **`linesFrom_of_none`** — a search cuts off one line of a table.
* **`lines_alternate_with_breaks`** — lines and breaks in turn are the text.
-/

namespace ExpectFile

namespace LineBreak

variable {text rest : List Char} {kind : LineBreak}

/-- The break at the front of a text. A carriage return takes a line feed behind it along. -/
def atFront? : List Char → Option LineBreak
  | '\r' :: '\n' :: _ => some .both
  | '\r' :: _ => some .carriageReturn
  | '\n' :: _ => some .lineFeed
  | _ => none

theorem length_chars_pos (kind : LineBreak) : 0 < kind.chars.length := by
  cases kind <;> decide

theorem exists_append_of_atFront? (h : atFront? text = some kind) :
    ∃ rest, text = kind.chars ++ rest ∧ (kind = .carriageReturn → rest.head? ≠ some '\n') := by
  unfold atFront? at h
  split at h
  next rest =>
    obtain rfl := Option.some.inj h
    exact ⟨rest, rfl, nofun⟩
  next rest halone =>
    obtain rfl := Option.some.inj h
    exact ⟨rest, rfl, fun _ => Grammar.head?_ne_of_forall halone⟩
  next rest =>
    obtain rfl := Option.some.inj h
    exact ⟨rest, rfl, nofun⟩
  next => cases h

theorem atFront?_append (h : kind = .carriageReturn → rest.head? ≠ some '\n') :
    atFront? (kind.chars ++ rest) = some kind := by
  cases kind with
  | lineFeed => rfl
  | both => rfl
  | carriageReturn =>
    show atFront? ('\r' :: rest) = _
    rw [atFront?]
    rintro others rfl
    exact h rfl rfl

/-- **The longest break** of those that a text begins with. -/
theorem atFront?_eq_some_iff : atFront? text = some kind ↔ kind.chars <+: text
    ∧ ∀ other : LineBreak, other.chars <+: text → other.chars.length ≤ kind.chars.length := by
  constructor
  · intro h
    obtain ⟨rest, rfl, halone⟩ := exists_append_of_atFront? h
    refine ⟨List.prefix_append kind.chars rest, fun other hother => ?_⟩
    cases kind with
    | both => cases other <;> decide
    | lineFeed =>
      cases other with
      | both => simp [chars] at hother
      | _ => decide
    | carriageReturn =>
      cases other with
      | both =>
        -- the line feed would stand behind the carriage return
        obtain ⟨others, hothers⟩ := hother
        obtain rfl : '\n' :: others = rest := (List.cons.inj hothers).2
        exact absurd rfl (halone rfl)
      | _ => decide
  · rintro ⟨⟨rest, rfl⟩, hlongest⟩
    refine atFront?_append ?_
    rintro rfl hfeed
    obtain ⟨others, rfl⟩ := List.head?_eq_some_iff.mp hfeed
    exact absurd (hlongest .both ⟨others, rfl⟩) (by decide)

/-- A character at which no break stands belongs to the line. -/
theorem ne_of_atFront?_eq_none {c : Char} (h : atFront? (c :: rest) = none) :
    c ≠ '\r' ∧ c ≠ '\n' := by
  constructor
  · rintro rfl
    by_cases hfeed : rest.head? = some '\n'
    · obtain ⟨others, rfl⟩ := List.head?_eq_some_iff.mp hfeed
      cases h
    · have hreturn : atFront? (carriageReturn.chars ++ rest) = some .carriageReturn :=
        atFront?_append fun _ => hfeed
      exact absurd (hreturn.symm.trans h) nofun
  · rintro rfl
    cases h

end LineBreak

/-- A line break and where it stands. -/
structure PlacedBreak where
  start : Nat
  kind : LineBreak
deriving DecidableEq

/-- Where the text goes on behind a break. -/
def PlacedBreak.stop (found : PlacedBreak) : Nat := found.start + found.kind.chars.length

namespace LineTable

open LineBreak (atFront?)

/-- The first break of a text that starts at an offset. -/
def findBreak? (offset : Nat) : List Char → Option PlacedBreak
  | [] => none
  | c :: rest =>
    match atFront? (c :: rest) with
    | some kind => some ⟨offset, kind⟩
    | none => findBreak? (offset + 1) rest

/-- The first break of a text at an offset or behind it. -/
def nextBreak? (text : List Char) (offset : Nat) : Option PlacedBreak :=
  findBreak? offset (text.drop offset)

/-- What stands between an offset and the next break, or the end of the text if there is none. -/
def searchedLine (text : List Char) (offset : Nat) : List Char :=
  match nextBreak? text offset with
  | some found => (text.drop offset).take (found.start - offset)
  | none => text.drop offset

variable {text rest : List Char} {kind : LineBreak} {found : PlacedBreak} {offset : Nat}

/-! ## What a search finds -/

/-- Where a break stands and none stands in front of it, counted from the start of the search. -/
theorem findBreak?_eq_some_iff : findBreak? offset rest = some found ↔
    ∃ further, found.start = offset + further
      ∧ atFront? (rest.drop further) = some found.kind
      ∧ ∀ less < further, atFront? (rest.drop less) = none := by
  induction rest generalizing offset with
  | nil =>
    constructor
    · exact nofun
    · rintro ⟨further, -, hkind, -⟩
      rw [List.drop_nil] at hkind
      cases hkind
  | cons c rest ih =>
    unfold findBreak?
    cases hfront : atFront? (c :: rest) with
    | some kind =>
      constructor
      · intro h
        obtain rfl := Option.some.inj h
        exact ⟨0, rfl, hfront, nofun⟩
      · rintro ⟨further, hstart, hkind, hfirst⟩
        cases further with
        | zero =>
          rw [List.drop_zero, hfront] at hkind
          rw [Option.some.inj hkind, ← Nat.add_zero offset, ← hstart]
        | succ further =>
          have hnone := hfirst 0 (Nat.succ_pos further)
          rw [List.drop_zero, hfront] at hnone
          cases hnone
    | none =>
      -- no break stands at the first character, so the search goes on behind it, and distances are
      -- one more
      show findBreak? (offset + 1) rest = some found ↔ _
      rw [ih]
      constructor
      · rintro ⟨further, hstart, hkind, hfirst⟩
        refine ⟨further + 1, by omega, hkind, fun less hless => ?_⟩
        cases less with
        | zero => exact hfront
        | succ less => exact hfirst less (Nat.lt_of_succ_lt_succ hless)
      · rintro ⟨further, hstart, hkind, hfirst⟩
        cases further with
        | zero =>
          rw [List.drop_zero, hfront] at hkind
          cases hkind
        | succ further =>
          exact ⟨further, by omega, hkind, fun less hless => hfirst (less + 1) (by omega)⟩

/-- **The first break** from an offset on: one stands there, and none at any place in between. -/
theorem nextBreak?_eq_some_iff : nextBreak? text offset = some found ↔
    offset ≤ found.start ∧ atFront? (text.drop found.start) = some found.kind
      ∧ ∀ place, offset ≤ place → place < found.start → atFront? (text.drop place) = none := by
  unfold nextBreak?
  rw [findBreak?_eq_some_iff]
  simp only [List.drop_drop]
  constructor
  · rintro ⟨further, hstart, hkind, hfirst⟩
    refine ⟨by omega, by rwa [hstart], fun place hfrom hto => ?_⟩
    obtain ⟨less, rfl⟩ := Nat.exists_eq_add_of_le hfrom
    exact hfirst less (by omega)
  · rintro ⟨hle, hkind, hfirst⟩
    obtain ⟨further, hstart⟩ := Nat.exists_eq_add_of_le hle
    exact ⟨further, hstart, by rwa [← hstart], fun less hless => hfirst _ (by omega) (by omega)⟩

theorem searchedLine_of_some (h : nextBreak? text offset = some found) :
    searchedLine text offset = (text.drop offset).take (found.start - offset) := by
  unfold searchedLine
  rw [h]

theorem searchedLine_of_none (h : nextBreak? text offset = none) :
    searchedLine text offset = text.drop offset := by
  unfold searchedLine
  rw [h]

/-- A search goes forward, and what it finds lies in the text. -/
theorem bounds_of_nextBreak? (h : nextBreak? text offset = some found) :
    offset ≤ found.start ∧ found.start < found.stop ∧ found.stop ≤ text.length := by
  obtain ⟨hle, hkind, -⟩ := nextBreak?_eq_some_iff.mp h
  obtain ⟨rest, hrest, -⟩ := LineBreak.exists_append_of_atFront? hkind
  have hlength := congrArg List.length hrest
  rw [List.length_drop, List.length_append] at hlength
  have hpos := LineBreak.length_chars_pos found.kind
  unfold PlacedBreak.stop
  omega

/-- The breaks of a text from an offset on, each searched for behind the one before it. -/
def breaksFrom (text : List Char) (offset : Nat) : List PlacedBreak :=
  match _hfound : nextBreak? text offset with
  | some found => found :: breaksFrom text found.stop
  | none => []
termination_by text.length - offset
decreasing_by
  have := bounds_of_nextBreak? _hfound
  omega

/-! ## Cutting off a line -/

theorem linesFrom_of_atFront? (h : atFront? rest = some kind) (offset : Nat) :
    linesFrom offset rest = ⟨offset, [], some kind⟩
      :: linesFrom (offset + kind.chars.length) (rest.drop kind.chars.length) := by
  obtain ⟨others, rfl, halone⟩ := LineBreak.exists_append_of_atFront? h
  rw [List.drop_left]
  cases kind with
  | lineFeed => rfl
  | both => rfl
  | carriageReturn => exact linesFrom_return (halone rfl)

/-- **A search cuts off one line** and leaves the lines behind it. Induction on the text; a
character at which no break stands belongs to the line. -/
theorem linesFrom_of_findBreak? (h : findBreak? offset rest = some found) :
    linesFrom offset rest = ⟨offset, rest.take (found.start - offset), some found.kind⟩
      :: linesFrom found.stop (rest.drop (found.stop - offset)) := by
  induction rest generalizing offset with
  | nil => cases h
  | cons c rest ih =>
    unfold findBreak? at h
    split at h
    next kind hfront =>
      obtain rfl := Option.some.inj h
      have hlength : offset + kind.chars.length - offset = kind.chars.length :=
        Nat.add_sub_cancel_left ..
      rw [linesFrom_of_atFront? hfront, Nat.sub_self, PlacedBreak.stop, hlength]
      rfl
    next hnone =>
      obtain ⟨hreturn, hfeed⟩ := LineBreak.ne_of_atFront?_eq_none hnone
      obtain ⟨further, hstart, -, -⟩ := findBreak?_eq_some_iff.mp h
      have hbefore : found.start - offset = found.start - (offset + 1) + 1 := by omega
      have hbehind : found.stop - offset = found.stop - (offset + 1) + 1 := by
        unfold PlacedBreak.stop
        omega
      rw [linesFrom_cons hreturn hfeed (ih h), hbefore, hbehind]
      rfl

theorem linesFrom_of_findBreak?_eq_none (h : findBreak? offset rest = none) :
    linesFrom offset rest = [⟨offset, rest, none⟩] := by
  induction rest generalizing offset with
  | nil => rfl
  | cons c rest ih =>
    unfold findBreak? at h
    split at h
    next => cases h
    next hnone =>
      obtain ⟨hreturn, hfeed⟩ := LineBreak.ne_of_atFront?_eq_none hnone
      rw [linesFrom_cons hreturn hfeed (ih h)]

/-- The last line of a table is one from which no break is found. -/
theorem linesFrom_of_none (h : nextBreak? text offset = none) :
    linesFrom offset (text.drop offset) = [⟨offset, searchedLine text offset, none⟩] := by
  rw [linesFrom_of_findBreak?_eq_none h, searchedLine_of_none h]

/-- **Any other line** ends where the break begins that is found, and the next one starts where it
ends. -/
theorem linesFrom_of_some (h : nextBreak? text offset = some found) :
    linesFrom offset (text.drop offset) = ⟨offset, searchedLine text offset, some found.kind⟩
      :: linesFrom found.stop (text.drop found.stop) := by
  obtain ⟨hle, hlt, -⟩ := bounds_of_nextBreak? h
  have hstop : offset + (found.stop - offset) = found.stop := by omega
  rw [linesFrom_of_findBreak? h, searchedLine_of_some h, List.drop_drop, hstop]

/-- What is cut off, put together again. -/
theorem searchedLine_append (h : nextBreak? text offset = some found) :
    searchedLine text offset ++ (found.kind.chars ++ text.drop found.stop) = text.drop offset := by
  obtain ⟨hle, hkind, -⟩ := nextBreak?_eq_some_iff.mp h
  obtain ⟨rest, hrest, -⟩ := LineBreak.exists_append_of_atFront? hkind
  have hbehind : text.drop found.stop = rest := by
    rw [PlacedBreak.stop, ← List.drop_drop, hrest, List.drop_left]
  have hfront : text.drop found.start = (text.drop offset).drop (found.start - offset) := by
    rw [List.drop_drop, Nat.add_sub_cancel' hle]
  rw [searchedLine_of_some h, hbehind, ← hrest, hfront, List.take_append_drop]

/-! ## From line to line -/

/-- The starts of the lines. -/
def starts (table : LineTable) : List Nat := table.lines.map Line.start

/-- The breaks of a text. -/
def breaks (text : List Char) : List PlacedBreak := breaksFrom text 0

/-- Lines and breaks in turn, as long as there are both. -/
def alternated : List (List Char) → List PlacedBreak → List Char
  | line :: lines, found :: others => line ++ (found.kind.chars ++ alternated lines others)
  | lines, _ => lines.flatten

theorem length_linesFrom_drop (text : List Char) (offset : Nat) :
    (linesFrom offset (text.drop offset)).length = (breaksFrom text offset).length + 1 := by
  fun_induction breaksFrom text offset with
  | case1 offset found h ih => rw [linesFrom_of_some h, List.length_cons, ih, List.length_cons]
  | case2 offset h => rw [linesFrom_of_none h]; rfl

/-- Each line but the first starts where a break ends. -/
theorem map_start_linesFrom_drop (text : List Char) (offset : Nat) :
    (linesFrom offset (text.drop offset)).map Line.start
      = offset :: (breaksFrom text offset).map PlacedBreak.stop := by
  fun_induction breaksFrom text offset with
  | case1 offset found h ih => rw [linesFrom_of_some h, List.map_cons, ih, List.map_cons]
  | case2 offset h => rw [linesFrom_of_none h]; rfl

theorem alternated_linesFrom_drop (text : List Char) (offset : Nat) :
    alternated ((linesFrom offset (text.drop offset)).map Line.text) (breaksFrom text offset)
      = text.drop offset := by
  fun_induction breaksFrom text offset with
  | case1 offset found h ih =>
    rw [linesFrom_of_some h, List.map_cons, alternated, ih, searchedLine_append h]
  | case2 offset h =>
    rw [linesFrom_of_none h, searchedLine_of_none h]
    exact List.append_nil _

/-- The breaks follow each other. -/
theorem pairwise_stop_breaksFrom (text : List Char) (offset : Nat) :
    (offset :: (breaksFrom text offset).map PlacedBreak.stop).Pairwise (· < ·) := by
  fun_induction breaksFrom text offset with
  | case1 offset found h ih =>
    obtain ⟨hle, hlt, -⟩ := bounds_of_nextBreak? h
    refine List.pairwise_cons.mpr ⟨fun stop hstop => ?_, ih⟩
    rcases List.mem_cons.mp hstop with rfl | hothers
    · omega
    · have := (List.pairwise_cons.mp ih).1 stop hothers
      omega
  | case2 offset h => exact List.pairwise_singleton _ offset

/-- **Every line is found from its start**, and so is the start of the next one. -/
theorem searched_of_getElem?_linesFrom_drop {index : Nat} {line : Line}
    (h : (linesFrom offset (text.drop offset))[index]? = some line) :
    line.text = searchedLine text line.start
      ∧ (linesFrom offset (text.drop offset))[index + 1]?.map Line.start
        = (nextBreak? text line.start).map PlacedBreak.stop := by
  fun_induction breaksFrom text offset generalizing index with
  | case1 offset found hfound ih =>
    rw [linesFrom_of_some hfound] at h ⊢
    cases index with
    | zero =>
      obtain rfl := Option.some.inj h
      obtain ⟨next, others, hnext, hstart⟩ :=
        exists_linesFrom_eq_cons found.stop (text.drop found.stop)
      rw [hnext, hfound]
      exact ⟨rfl, congrArg some hstart⟩
    | succ index => exact ih h
  | case2 offset hnone =>
    rw [linesFrom_of_none hnone] at h ⊢
    cases index with
    | zero =>
      obtain rfl := Option.some.inj h
      rw [hnone]
      exact ⟨rfl, rfl⟩
    | succ index => cases h

/-! ## The table of a text -/

/-- A line does not start in the middle of a break. -/
theorem StartsLine.not_insideBreak {number : Nat} (h : StartsLine text number offset) :
    ¬InsideBreak text offset := by
  rintro ⟨index, rfl, hreturn, hfeed⟩
  have hends := h.2 index rfl
  simp [endsBreak, hreturn, hfeed] at hends

/-- **A table cuts a text exactly at its breaks.** Its lines hold no character that breaks a line,
and there is one more of them than there are breaks; with the breaks put in between, they are the
text. The first line starts where the text does, and each other one where a break ends; so the
starts go up, and none is in the middle of a break. And a search from the start of a line ends that
line and finds where the next one starts, if there is a next one. -/
theorem lines_alternate_with_breaks (text : String) :
    (∃ lines : List String, lines.length = (breaks text.toList).length + 1
        ∧ (∀ index line, lines[index]? = some line →
          (ofText text).lineText (index + 1 : Nat) = .ok line)
        ∧ (∀ line ∈ lines, '\r' ∉ line.toList ∧ '\n' ∉ line.toList)
        ∧ alternated (lines.map String.toList) (breaks text.toList) = text.toList)
      ∧ (ofText text).starts = 0 :: (breaks text.toList).map PlacedBreak.stop
      ∧ (ofText text).starts.Pairwise (· < ·)
      ∧ (∀ start ∈ (ofText text).starts, ¬InsideBreak text.toList start)
      ∧ ∀ index start, (ofText text).starts[index]? = some start →
        (ofText text).lineText (index + 1 : Nat)
            = .ok (String.ofList (searchedLine text.toList start))
          ∧ (ofText text).starts[index + 1]?
            = (nextBreak? text.toList start).map PlacedBreak.stop := by
  have hstarts : (ofText text).starts = 0 :: (breaks text.toList).map PlacedBreak.stop :=
    map_start_linesFrom_drop text.toList 0
  have htext : ∀ {index line}, (ofText text).lines[index]? = some line →
      (ofText text).lineText (index + 1 : Nat) = .ok (String.ofList line.text) := by
    intro index line hline
    unfold lineText
    rw [line_eq_ok (Nat.succ_pos index) hline]
    rfl
  refine ⟨⟨(ofText text).lines.map fun line => String.ofList line.text, ?_, ?_, ?_, ?_⟩,
    hstarts, hstarts ▸ pairwise_stop_breaksFrom text.toList 0, ?_, ?_⟩
  · rw [List.length_map]
    exact length_linesFrom_drop text.toList 0
  · intro index content hcontent
    rw [List.getElem?_map] at hcontent
    obtain ⟨line, hline, rfl⟩ := Option.map_eq_some_iff.mp hcontent
    exact htext hline
  · intro content hcontent
    obtain ⟨line, hline, rfl⟩ := List.mem_map.mp hcontent
    obtain ⟨index, hindex⟩ := List.mem_iff_getElem?.mp hline
    -- a line is cut from the text up to the first character of a break, so it holds none
    obtain ⟨offset, -, -, hcut⟩ := exists_of_getElem?_linesFrom hindex
    rw [String.toList_ofList, hcut]
    constructor
    · intro hreturn
      exact absurd (List.mem_takeWhile_imp hreturn) (by decide)
    · intro hfeed
      exact absurd (List.mem_takeWhile_imp hfeed) (by decide)
  · rw [List.map_map]
    simp only [Function.comp_def, String.toList_ofList]
    exact alternated_linesFrom_drop text.toList 0
  · intro start hstart
    obtain ⟨line, hline, rfl⟩ := List.mem_map.mp hstart
    obtain ⟨index, hindex⟩ := List.mem_iff_getElem?.mp hline
    obtain ⟨offset, hstarts, hoffset, -⟩ := exists_of_getElem?_linesFrom hindex
    rw [hoffset, Nat.zero_add]
    exact hstarts.not_insideBreak
  · intro index start hstart
    unfold starts at hstart ⊢
    rw [List.getElem?_map] at hstart
    obtain ⟨line, hline, rfl⟩ := Option.map_eq_some_iff.mp hstart
    -- the line with a number is the one that the search from its start cuts off
    obtain ⟨hcut, hnext⟩ := searched_of_getElem?_linesFrom_drop hline
    rw [htext hline, hcut, List.getElem?_map]
    exact ⟨rfl, hnext⟩

/-- In a run of the characters, each carriage return takes only the line feed right behind it. -/
example : nextBreak? "a\r\r\n\n".toList 1 = some ⟨1, .carriageReturn⟩
    ∧ nextBreak? "a\r\r\n\n".toList 2 = some ⟨2, .both⟩
    ∧ (ofText "a\r\r\n\n").starts = [0, 2, 4, 5] := by decide

end LineTable

end ExpectFile
