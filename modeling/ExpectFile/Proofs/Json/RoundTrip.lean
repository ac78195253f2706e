import ExpectFile.Proofs.Json.Numbers
import ExpectFile.Proofs.Json.Strings

/-!
# JSON values read back

A value that is written in any style, and read, is the value again, if what is written tells all
about it (`Plain`). The proof goes along the value: for an array and an object the reader passes
over the white space that the writer has put in, takes one item or field after the other, and knows
by the mark behind it whether another follows.

* **`readItems_writeItems`**, **`readFields_writeFields`** — items and fields that read back do so
  one after the other.
* **`readsBack_of_plain`** — a plain value inside any other.
* **`read?_write`** — and on its own.
-/

namespace ExpectFile.Json

open Text

/-- A value that what is written of it tells all about: no number in it has a fraction or an
exponent, and the fields of an object have different names. -/
inductive Plain : Json → Prop where
  | null : Plain .null
  | bool (value : Bool) : Plain (.bool value)
  | integer (value : Int) : Plain (.integer value)
  | string (text : String) : Plain (.string text)
  | array {items : List Json} (hitems : ∀ item ∈ items, Plain item) : Plain (.array items)
  | object {fields : List (String × Json)} (hnames : (fields.map (·.1)).Nodup)
      (hfields : ∀ field ∈ fields, Plain field.2) : Plain (.object fields)

variable {style : Style} {level lower depth fuel : Nat} {text rest after blank : List Char}

/-! ## White space -/

/-- White space, which a reader passes over. -/
def Blank (blank : List Char) : Prop := ∀ rest, skipBlank (blank ++ rest) = skipBlank rest

/-- Whether a character is no white space. -/
def isSolid (c : Char) : Bool := c != ' ' && c != '\n' && c != '\r' && c != '\t'

theorem Blank.nil : Blank [] := fun _ => rfl

theorem skipBlank_cons {c : Char} (h : isSolid c = true) (rest : List Char) :
    skipBlank (c :: rest) = c :: rest := by
  obtain ⟨⟨⟨hspace, hline⟩, hreturn⟩, htab⟩ :
      ((c ≠ ' ' ∧ c ≠ '\n') ∧ c ≠ '\r') ∧ c ≠ '\t' := by
    simpa [isSolid] using h
  unfold skipBlank
  rw [List.dropWhile_cons_of_neg (by simp [hspace, hline, hreturn, htab])]

/-- What comes first behind white space. -/
theorem Blank.skipBlank_append {c : Char} (hblank : Blank blank) (hc : isSolid c = true)
    (rest : List Char) : skipBlank (blank ++ c :: rest) = c :: rest := by
  rw [hblank, skipBlank_cons hc]

theorem blank_replicate (count : Nat) : Blank (List.replicate count ' ') := by
  induction count with
  | zero => exact .nil
  | succ count ih => exact fun rest => ih rest

theorem blank_gap (style : Style) (level : Nat) : Blank (style.gap level) := by
  unfold Style.gap
  split
  · exact fun rest => blank_replicate (2 * level) rest
  · exact .nil

/-- Behind the comma between two items there is nothing but white space. -/
theorem exists_comma_eq (style : Style) (level : Nat) :
    ∃ blank, style.comma level = ',' :: blank ∧ Blank blank := by
  unfold Style.comma
  split
  · exact ⟨_, rfl, blank_gap style level⟩
  · exact ⟨_, rfl, blank_replicate 1⟩

/-- A number ends where the items around it end. -/
theorem ends_gap_append {bracket : Char}
    (h : bracket.isDigit = false ∧ bracket ≠ '.' ∧ bracket ≠ 'e' ∧ bracket ≠ 'E')
    (rest : List Char) : Ends (style.gap level ++ bracket :: rest) := by
  unfold Style.gap
  split
  · exact .cons (by decide) _
  · exact .cons h rest

theorem ends_comma_append (rest : List Char) : Ends (style.comma level ++ rest) := by
  obtain ⟨blank, hcomma, -⟩ := exists_comma_eq style level
  rw [hcomma]
  exact .cons (by decide) _

/-! ## One value -/

/-- `ReadsBack style value`: wherever the value stands, it is read back from what is written of it,
by a reader that may go as deep as that is long. -/
def ReadsBack (style : Style) (value : Json) : Prop :=
  ∀ {level depth : Nat} {rest : List Char}, Ends rest →
    (writeAt style level value).length ≤ depth →
      readNested depth (writeAt style level value ++ rest) = some (value, rest)

theorem readNested_succ (depth : Nat) (text : List Char) :
    readNested (depth + 1) text = readValue (readNested depth) text := rfl

/-- White space in front of a value makes no difference. -/
theorem readNested_append (hblank : Blank blank) (depth : Nat) (text : List Char) :
    readNested depth (blank ++ text) = readNested depth text := by
  cases depth with
  | zero => rfl
  | succ depth =>
    rw [readNested_succ, readNested_succ]
    unfold readValue
    rw [hblank]

theorem readWord_append (word : String) (value : Json) (rest : List Char) :
    readWord word value (word.toList ++ rest) = some (value, rest) := by
  have hprefix : word.toList.isPrefixOf (word.toList ++ rest) = true :=
    List.isPrefixOf_iff_prefix.mpr (List.prefix_append _ _)
  unfold readWord
  rw [if_pos hprefix, ← String.length_toList, List.drop_left]

/-- What begins with a sign or a digit is read as a number. -/
theorem readValue_number {item : Reader Json} {c : Char} (h : c = '-' ∨ c.isDigit = true)
    (rest : List Char) : readValue item (c :: rest) = readNumber (c :: rest) := by
  have hne : ∀ d : Char, d ≠ '-' ∧ d.isDigit = false → c ≠ d := fun d => ne_of_begins_number h
  have hsolid : isSolid c = true := by
    simp [isSolid, hne ' ' (by decide), hne '\n' (by decide), hne '\r' (by decide),
      hne '\t' (by decide)]
  unfold readValue
  rw [skipBlank_cons hsolid]
  simp only
  rw [if_neg (hne doubleQuote (by decide)), if_neg (hne '[' (by decide)),
    if_neg (hne '\x7b' (by decide)), if_neg (hne 'n' (by decide)), if_neg (hne 't' (by decide)),
    if_neg (hne 'f' (by decide))]

/-- A value begins with a mark that is no white space and closes no array. -/
theorem exists_writeAt_eq_cons {value : Json} (h : Plain value) (style : Style) (level : Nat) :
    ∃ c more, writeAt style level value = c :: more ∧ isSolid c = true ∧ c ≠ ']' := by
  cases h with
  | null => exact ⟨'n', _, rfl, by decide⟩
  | bool value => cases value <;> exact ⟨_, _, rfl, by decide⟩
  | integer value =>
    obtain ⟨c, more, hcons, hc⟩ := exists_integer_eq_cons value
    refine ⟨c, more, hcons, ?_⟩
    have hne : ∀ d : Char, d ≠ '-' ∧ d.isDigit = false → c ≠ d := fun d => ne_of_begins_number hc
    simp [isSolid, hne ' ' (by decide), hne '\n' (by decide), hne '\r' (by decide),
      hne '\t' (by decide), hne ']' (by decide)]
  | string text => exact ⟨doubleQuote, _, rfl, by decide⟩
  | @array items _ => cases items <;> exact ⟨'[', _, rfl, by decide⟩
  | @object fields _ _ => cases fields <;> exact ⟨'\x7b', _, rfl, by decide⟩

/-! ## Items -/

section

variable {item : Reader Json} {value : Json} {read : List Json}

theorem readItems_last (hitem : item text = some (value, rest))
    (hend : skipBlank rest = ']' :: after) :
    readItems item (fuel + 1) read text = some ((value :: read).reverse, after) := by
  simp [readItems, hitem, hend]

theorem readItems_next (hitem : item text = some (value, rest))
    (hcomma : skipBlank rest = ',' :: after) :
    readItems item (fuel + 1) read text = readItems item fuel (value :: read) after := by
  simp [readItems, hitem, hcomma]

/-- **Items read back one after the other**, up to the bracket behind the last. Induction on the
items; behind each there is either a comma or the bracket. -/
theorem readItems_writeItems {first : Json} {others : List Json}
    (hreads : ∀ item ∈ first :: others, ReadsBack style item) (hblank : Blank blank)
    (hdepth : (writeAt style level first ++ writeItems style level others).length ≤ depth)
    (hfuel : others.length < fuel) :
    readItems (readNested depth) fuel read
        (blank ++ (writeAt style level first
          ++ (writeItems style level others ++ (style.gap lower ++ ']' :: rest))))
      = some (read.reverse ++ first :: others, rest) := by
  induction others generalizing first fuel read blank with
  | nil =>
    obtain ⟨fuel, rfl⟩ := Nat.exists_eq_add_one_of_ne_zero (Nat.ne_zero_of_lt hfuel)
    have hfirst : readNested depth (blank ++ (writeAt style level first
          ++ (writeItems style level [] ++ (style.gap lower ++ ']' :: rest))))
        = some (first, style.gap lower ++ ']' :: rest) := by
      rw [readNested_append hblank]
      refine hreads first List.mem_cons_self (ends_gap_append (by decide) rest) ?_
      simpa [writeItems] using hdepth
    rw [readItems_last hfirst ((blank_gap style lower).skipBlank_append (by decide) rest)]
    simp
  | cons second more ih =>
    obtain ⟨fuel, rfl⟩ := Nat.exists_eq_add_one_of_ne_zero (Nat.ne_zero_of_lt hfuel)
    obtain ⟨next, hcomma, hnext⟩ := exists_comma_eq style level
    simp only [writeItems, List.length_append] at hdepth
    -- behind the first item is a comma; the white space after it is what is in front of the second
    have hfirst : readNested depth (blank ++ (writeAt style level first
          ++ (writeItems style level (second :: more) ++ (style.gap lower ++ ']' :: rest))))
        = some (first, style.comma level ++ (writeAt style level second
          ++ (writeItems style level more ++ (style.gap lower ++ ']' :: rest)))) := by
      rw [readNested_append hblank, writeItems, List.append_assoc, List.append_assoc]
      exact hreads first List.mem_cons_self (ends_comma_append _) (by omega)
    have hskip : skipBlank (style.comma level ++ (writeAt style level second
          ++ (writeItems style level more ++ (style.gap lower ++ ']' :: rest))))
        = ',' :: (next ++ (writeAt style level second
          ++ (writeItems style level more ++ (style.gap lower ++ ']' :: rest)))) := by
      rw [hcomma, List.cons_append, skipBlank_cons (by decide)]
    have hothers : ∀ item ∈ second :: more, ReadsBack style item :=
      fun item hitem => hreads item (List.mem_cons_of_mem first hitem)
    have hlength : (writeAt style level second ++ writeItems style level more).length ≤ depth := by
      rw [List.length_append]
      omega
    rw [readItems_next hfirst hskip, ih hothers hnext hlength (Nat.lt_of_succ_lt_succ hfuel)]
    simp

end

/-! ## Fields -/

section

variable {item : Reader Json} {value : Json} {read : List (String × Json)} {name : String}

/-- A field set under a new name comes last. -/
theorem setField_of_not_mem (h : name ∉ read.map (·.1)) (value : Json) :
    setField read name value = read ++ [(name, value)] := by
  have hnone : ¬(read.any fun field => field.1 == name) = true := by
    intro hany
    obtain ⟨field, hfield, hname⟩ := List.any_eq_true.mp hany
    exact h (List.mem_map.mpr ⟨field, hfield, eq_of_beq hname⟩)
  unfold setField
  rw [if_neg hnone]

/-- Where no name is there twice, the name of a field is none of those in front of it. -/
theorem not_mem_of_nodup {others : List (String × Json)}
    (h : ((read ++ (name, value) :: others).map (·.1)).Nodup) : name ∉ read.map (·.1) := by
  rw [List.map_append, List.map_cons] at h
  exact fun hmem => (List.nodup_append.mp h).2.2 name hmem name List.mem_cons_self rfl

/-- `FieldAt item text name value rest`: a field stands at the front of the text, and the rest is
behind it. -/
def FieldAt (item : Reader Json) (text : List Char) (name : String) (value : Json)
    (rest : List Char) : Prop :=
  ∃ tail colon found, takeMark doubleQuote text = some tail
    ∧ readString (tail.length + 1) tail = some (name.toList, colon)
    ∧ takeMark ':' colon = some found ∧ item found = some (value, rest)

theorem FieldAt.readFields_last (h : FieldAt item text name value rest)
    (hend : skipBlank rest = '\x7d' :: after) :
    readFields item (fuel + 1) read text = some (setField read name value, after) := by
  obtain ⟨tail, colon, found, htail, hname, hcolon, hitem⟩ := h
  simp [readFields, htail, hname, hcolon, hitem, hend]

theorem FieldAt.readFields_next (h : FieldAt item text name value rest)
    (hcomma : skipBlank rest = ',' :: after) :
    readFields item (fuel + 1) read text
      = readFields item fuel (setField read name value) after := by
  obtain ⟨tail, colon, found, htail, hname, hcolon, hitem⟩ := h
  simp [readFields, htail, hname, hcolon, hitem, hcomma]

/-- A field is found where it was written. -/
theorem fieldAt_of_readsBack (h : ReadsBack style value) (hblank : Blank blank) (hends : Ends rest)
    (hdepth : (writeAt style level value).length ≤ depth) (name : String) :
    FieldAt (readNested depth)
      (blank ++ (style.string name.toList ++ ':' :: ' ' :: (writeAt style level value ++ rest)))
      name value rest := by
  have hspace : Blank [' '] := blank_replicate 1
  obtain ⟨tail, htail, hname⟩ := readString_string style name.toList
    (':' :: ' ' :: (writeAt style level value ++ rest))
  refine ⟨tail, _, ' ' :: (writeAt style level value ++ rest), ?_, hname, ?_, ?_⟩
  · unfold takeMark
    rw [htail, hblank.skipBlank_append (by decide)]
    exact if_pos rfl
  · rfl
  · exact (readNested_append hspace depth _).trans (h hends hdepth)

/-- **Fields read back one after the other**, up to the brace behind the last, where no name is
there twice. Induction on the fields, as for items. -/
theorem readFields_writeFields {first : Json} {others : List (String × Json)}
    (hreads : ∀ field ∈ (name, first) :: others, ReadsBack style field.2)
    (hnames : ((read ++ (name, first) :: others).map (·.1)).Nodup) (hblank : Blank blank)
    (hdepth : (writeAt style level first ++ writeFields style level others).length ≤ depth)
    (hfuel : others.length < fuel) :
    readFields (readNested depth) fuel read
        (blank ++ (style.string name.toList ++ ':' :: ' ' :: (writeAt style level first
          ++ (writeFields style level others ++ (style.gap lower ++ '\x7d' :: rest)))))
      = some (read ++ (name, first) :: others, rest) := by
  induction others generalizing name first fuel read blank with
  | nil =>
    obtain ⟨fuel, rfl⟩ := Nat.exists_eq_add_one_of_ne_zero (Nat.ne_zero_of_lt hfuel)
    have hfirst : ReadsBack style first := hreads (name, first) List.mem_cons_self
    have hends : Ends (style.gap lower ++ '\x7d' :: rest) := ends_gap_append (by decide) rest
    have hlength : (writeAt style level first).length ≤ depth := by
      simpa [writeFields] using hdepth
    have hfield := fieldAt_of_readsBack hfirst hblank hends hlength name
    rw [writeFields, List.nil_append,
      hfield.readFields_last ((blank_gap style lower).skipBlank_append (by decide) rest),
      setField_of_not_mem (not_mem_of_nodup hnames)]
  | cons second more ih =>
    obtain ⟨secondName, secondValue⟩ := second
    have hfirst : ReadsBack style first := hreads (name, first) List.mem_cons_self
    obtain ⟨fuel, rfl⟩ := Nat.exists_eq_add_one_of_ne_zero (Nat.ne_zero_of_lt hfuel)
    obtain ⟨next, hcomma, hnext⟩ := exists_comma_eq style level
    simp only [writeFields, List.length_append] at hdepth
    have htext : writeFields style level ((secondName, secondValue) :: more)
          ++ (style.gap lower ++ '\x7d' :: rest)
        = style.comma level ++ (style.string secondName.toList ++ ':' :: ' '
          :: (writeAt style level secondValue
            ++ (writeFields style level more ++ (style.gap lower ++ '\x7d' :: rest)))) := by
      simp [writeFields]
    have hskip : ∀ text, skipBlank (style.comma level ++ text) = ',' :: (next ++ text) := by
      intro text
      rw [hcomma, List.cons_append, skipBlank_cons (by decide)]
    have hlengthFirst : (writeAt style level first).length ≤ depth := by omega
    have hfield : ∀ text, FieldAt (readNested depth) (blank ++ (style.string name.toList
          ++ ':' :: ' ' :: (writeAt style level first ++ (style.comma level ++ text))))
        name first (style.comma level ++ text) :=
      fun text => fieldAt_of_readsBack hfirst hblank (ends_comma_append text) hlengthFirst name
    have hothers : ∀ field ∈ (secondName, secondValue) :: more, ReadsBack style field.2 :=
      fun field hfield => hreads field (List.mem_cons_of_mem _ hfield)
    -- the first field joins those that have been read, so the names stay the same all along
    have hleft : ((read ++ [(name, first)] ++ (secondName, secondValue) :: more).map
        (·.1)).Nodup := by
      rwa [List.append_assoc, List.singleton_append]
    have hlength : (writeAt style level secondValue ++ writeFields style level more).length
        ≤ depth := by
      rw [List.length_append]
      omega
    rw [htext, (hfield _).readFields_next (hskip _), setField_of_not_mem (not_mem_of_nodup hnames),
      ih hothers hleft hnext hlength (Nat.lt_of_succ_lt_succ hfuel)]
    simp

end

/-! ## Values -/

/-- Every comma takes a character. -/
theorem length_le_length_writeItems (style : Style) (level : Nat) (items : List Json) :
    items.length ≤ (writeItems style level items).length := by
  induction items with
  | nil => exact Nat.le_refl _
  | cons item rest ih =>
    obtain ⟨blank, hcomma, -⟩ := exists_comma_eq style level
    simp only [writeItems, hcomma, List.length_append, List.length_cons]
    omega

theorem length_le_length_writeFields (style : Style) (level : Nat)
    (fields : List (String × Json)) :
    fields.length ≤ (writeFields style level fields).length := by
  induction fields with
  | nil => exact Nat.le_refl _
  | cons field rest ih =>
    obtain ⟨blank, hcomma, -⟩ := exists_comma_eq style level
    simp only [writeFields, hcomma, List.length_append, List.length_cons]
    omega

/-! ### What the first mark says -/

section

variable {item : Reader Json} {tail : List Char}

theorem readValue_string {content : List Char}
    (h : readString (tail.length + 1) tail = some (content, rest)) :
    readValue item (doubleQuote :: tail) = some (.string (String.ofList content), rest) := by
  unfold readValue
  rw [skipBlank_cons (by decide)]
  simp only
  rw [if_pos trivial, h]
  rfl

theorem readValue_items {items : List Json} (hmark : takeMark ']' tail = none)
    (hitems : readItems item (tail.length + 1) [] tail = some (items, rest)) :
    readValue item ('[' :: tail) = some (.array items, rest) := by
  unfold readValue
  rw [skipBlank_cons (by decide)]
  simp only
  rw [if_neg (by decide), if_pos trivial, hmark, hitems]
  rfl

theorem readValue_fields {fields : List (String × Json)} (hmark : takeMark '\x7d' tail = none)
    (hfields : readFields item (tail.length + 1) [] tail = some (fields, rest)) :
    readValue item ('\x7b' :: tail) = some (.object fields, rest) := by
  unfold readValue
  rw [skipBlank_cons (by decide)]
  simp only
  rw [if_neg (by decide), if_neg (by decide), if_pos trivial, hmark, hfields]
  rfl

end

/-- A mark that is not the one looked for is not taken. -/
theorem takeMark_of_ne (hblank : Blank blank) {mark c : Char} (hc : isSolid c = true)
    (hne : c ≠ mark) (rest : List Char) : takeMark mark (blank ++ c :: rest) = none := by
  unfold takeMark
  rw [hblank.skipBlank_append hc]
  exact if_neg hne

/-! ### Any value -/

/-- A value has a mark to begin with, so a reader that may go as deep as the value is long can take
its first step. -/
theorem ReadsBack.of_readValue {value : Json} (hplain : Plain value)
    (h : ∀ {level depth : Nat} {rest : List Char}, Ends rest →
      (writeAt style level value).length ≤ depth + 1 →
        readValue (readNested depth) (writeAt style level value ++ rest) = some (value, rest)) :
    ReadsBack style value := by
  intro level depth rest hends hdepth
  cases depth with
  | zero =>
    obtain ⟨c, more, hcons, -⟩ := exists_writeAt_eq_cons hplain style level
    rw [hcons] at hdepth
    exact absurd hdepth (Nat.not_succ_le_zero _)
  | succ depth => exact h hends hdepth

/-- An array reads back if its items do. The first of them is no closing bracket. -/
theorem ReadsBack.array {items : List Json} (hplain : ∀ item ∈ items, Plain item)
    (h : ∀ item ∈ items, ReadsBack style item) : ReadsBack style (.array items) := by
  refine ReadsBack.of_readValue (.array hplain) fun {level depth rest} _ hdepth => ?_
  cases items with
  | nil => rfl
  | cons first others =>
    have hcount := length_le_length_writeItems style (level + 1) others
    simp only [writeAt, List.length_append, List.length_cons] at hdepth
    obtain ⟨tail, htail⟩ : ∃ tail, tail = style.gap (level + 1)
        ++ (writeAt style (level + 1) first
          ++ (writeItems style (level + 1) others ++ (style.gap level ++ ']' :: rest))) := ⟨_, rfl⟩
    have htext : writeAt style level (.array (first :: others)) ++ rest = '[' :: tail := by
      simp [writeAt, htail]
    -- an item stands at the front, so the array is not the empty one
    have hmark : takeMark ']' tail = none := by
      obtain ⟨c, more, hcons, hsolid, hclosing⟩ :=
        exists_writeAt_eq_cons (hplain first List.mem_cons_self) style (level + 1)
      rw [htail, hcons]
      exact takeMark_of_ne (blank_gap style (level + 1)) hsolid hclosing _
    have hlength : (writeAt style (level + 1) first
        ++ writeItems style (level + 1) others).length ≤ depth := by
      rw [List.length_append]
      omega
    have hfuel : others.length < tail.length + 1 := by
      simp only [htail, List.length_append]
      omega
    have hitems : readItems (readNested depth) (tail.length + 1) [] tail
        = some (first :: others, rest) := by
      rw [htail] at hfuel ⊢
      exact readItems_writeItems h (blank_gap style (level + 1)) hlength hfuel
    rw [htext, readValue_items hmark hitems]

/-- An object reads back if its fields do, and has no two of one name. -/
theorem ReadsBack.object {fields : List (String × Json)} (hnames : (fields.map (·.1)).Nodup)
    (hplain : ∀ field ∈ fields, Plain field.2) (h : ∀ field ∈ fields, ReadsBack style field.2) :
    ReadsBack style (.object fields) := by
  refine ReadsBack.of_readValue (.object hnames hplain) fun {level depth rest} _ hdepth => ?_
  cases fields with
  | nil => rfl
  | cons first others =>
    obtain ⟨name, value⟩ := first
    have hcount := length_le_length_writeFields style (level + 1) others
    simp only [writeAt, List.length_append, List.length_cons] at hdepth
    obtain ⟨tail, htail⟩ : ∃ tail, tail = style.gap (level + 1)
        ++ (style.string name.toList ++ ':' :: ' ' :: (writeAt style (level + 1) value
          ++ (writeFields style (level + 1) others ++ (style.gap level ++ '\x7d' :: rest)))) :=
      ⟨_, rfl⟩
    have htext : writeAt style level (.object ((name, value) :: others)) ++ rest
        = '\x7b' :: tail := by
      simp [writeAt, htail]
    -- behind the opening mark stands the first name, so the object is not empty
    have hmark : takeMark '\x7d' tail = none := by
      rw [htail]
      have hsolid : isSolid doubleQuote = true := by decide
      exact takeMark_of_ne (blank_gap style (level + 1)) hsolid (by decide) _
    have hlength : (writeAt style (level + 1) value
        ++ writeFields style (level + 1) others).length ≤ depth := by
      rw [List.length_append]
      omega
    have hfuel : others.length < tail.length + 1 := by
      simp only [htail, List.length_append, List.length_cons]
      omega
    have hfields : readFields (readNested depth) (tail.length + 1) [] tail
        = some ((name, value) :: others, rest) := by
      rw [htail] at hfuel ⊢
      exact readFields_writeFields h hnames (blank_gap style (level + 1)) hlength hfuel
    rw [htext, readValue_fields hmark hfields]

/-- **A plain value reads back**, inside any other. Induction on the value. -/
theorem readsBack_of_plain {value : Json} (h : Plain value) : ReadsBack style value := by
  induction h with
  | null =>
    exact ReadsBack.of_readValue .null fun {_ _ rest} _ _ => readWord_append "null" .null rest
  | bool value =>
    refine ReadsBack.of_readValue (.bool value) fun {_ _ rest} _ _ => ?_
    cases value with
    | false => exact readWord_append "false" (.bool false) rest
    | true => exact readWord_append "true" (.bool true) rest
  | integer value =>
    refine ReadsBack.of_readValue (.integer value) fun {level _ rest} hends _ => ?_
    have hform : writeAt style level (.integer value) = Text.integer value := rfl
    obtain ⟨c, more, hcons, hc⟩ := exists_integer_eq_cons value
    rw [hform, ← readNumber_integer value hends, hcons, List.cons_append, readValue_number hc]
  | string text =>
    refine ReadsBack.of_readValue (.string text) fun {level _ rest} _ _ => ?_
    obtain ⟨tail, htail, hread⟩ := readString_string style text.toList rest
    have hform : writeAt style level (.string text) ++ rest = doubleQuote :: tail := htail
    rw [hform, readValue_string hread, String.ofList_toList]
  | array hitems ih => exact ReadsBack.array hitems ih
  | object hnames hfields ih => exact ReadsBack.object hnames hfields ih

/-- **What is written of a plain value is read as this value.** -/
theorem read?_write {value : Json} (h : Plain value) (style : Style) :
    read? (write style value) = some value := by
  have hread : readNested ((writeAt style 0 value).length + 1) (writeAt style 0 value ++ [])
      = some (value, []) := readsBack_of_plain h .nil (Nat.le_succ _)
  rw [List.append_nil] at hread
  unfold read? write
  rw [String.toList_ofList]
  simp only [hread]
  rfl

end ExpectFile.Json
