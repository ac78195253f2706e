import ExpectFile.Proofs.Grammar.Statements
import ExpectFile.Proofs.Phrase.Placement
import ExpectFile.Proofs.Phrase.Spelling

/-!
# Where decorated definitions start

What `Placement` asks of a parser, the parser of this library keeps: the places that it gives are in
the text, and its statements come one after the other. So every text that parses has phrases.

A decorated definition is to start at the `@` of its first decorator. The parser only says where the
expression of the decorator starts, and the `@` is looked for backwards from there, in the text. It is
found, unless a comment between it and the expression holds another one.

* **`inOrder_of_parseStatements`** — the promise of the parser, kept.
* **`lastBefore?_eq_iff`** — what the search finds.
* **`decorated_start`** — where decorated definitions start.
-/

namespace ExpectFile

open Extent Grammar LineTable Outcome

variable {text : String} {front back : List Char} {parsed : ParsedStatement}
  {before after : List Token}

/-! ## One statement -/

/-- The text of a statement without decorators: from its first token to its last visible one. -/
theorem Spelled.of_body {first : Token} {more : List Token} (hbegins : first.kind.begins = true)
    (h : Spelled text front back (first :: (more ++ after))) :
    ∃ gap passed behind, back = gap ++ (passed ++ behind)
      ∧ (ofText text).Denotes first.start (front ++ gap).length
      ∧ (ofText text).Denotes (stopBehind more first.stop) (front ++ gap ++ passed).length
      ∧ Spelled text (front ++ gap ++ passed) behind after := by
  obtain ⟨gap, spelling, behind, rfl, -, -, hstart, hstop, hrest⟩ :=
    h.of_visible (Token.isVisible_of_begins hbegins)
  obtain ⟨passed, last, rfl, hlast, hend⟩ := hrest.of_append
  have hdenotes := hend first.stop hstop
  rw [List.append_assoc (front ++ gap)] at hlast hdenotes
  exact ⟨gap, spelling ++ passed, last, by rw [List.append_assoc], hstart, hdenotes, hlast⟩

/-- A decorated definition in the text. Behind `front` stands the `@` of its first decorator, where
the token is, and behind `between` the expression of the decorator. -/
structure Grammar.ParsedStatement.Decorated (text : String) (parsed : ParsedStatement)
    (sign : Token) (front between : List Char) : Prop where
  spelled : ∃ back, text.toList = front ++ '@' :: (between ++ back)
  sign_denotes : (ofText text).Denotes sign.start front.length
  expression_denotes : ∃ place, parsed.decorator = some place
    ∧ (ofText text).Denotes place (front ++ '@' :: between).length

/-- **A statement in the text.** It is in its place behind what is in front of its tokens, and ends
where they do. If it begins with an `@`, it is a decorated definition, and the definition itself
starts behind the `@`. -/
theorem Grammar.ParsedStatement.Reads.placed (h : parsed.Reads before after)
    (htext : text.toList = front ++ back) (hspelled : Spelled text front back before) :
    ∃ start passed behind first rest, back = passed ++ behind
      ∧ parsed.Placed text front.length start (front ++ passed).length
      ∧ Spelled text (front ++ passed) behind after
      ∧ before = first :: rest
      ∧ (first.kind = .operator "@" → ∃ lead between,
          parsed.Decorated text first lead between ∧ OnlyInComments '@' between
            ∧ lead.length < start) := by
  cases h with
  | @plain first more _ hbegins hstart hstop hdecorator =>
    -- only filler is in front of the first visible token of the statement
    obtain ⟨gap, passed, behind, rfl, hfirst, hlast, hrest⟩ := hspelled.of_body hbegins
    rw [List.append_assoc] at hlast hrest
    refine ⟨(front ++ gap).length, gap ++ passed, behind, first, _, ?_, ⟨?_, ?_, ?_, ?_, ?_⟩, hrest,
      rfl, ?_⟩
    · rw [List.append_assoc]
    · rwa [hstart]
    · rwa [hstop]
    · simp
    · simp
    · intro place hplace
      exact absurd (hdecorator.symm.trans hplace) nofun
    · intro hsign
      rw [hsign] at hbegins
      exact absurd hbegins (by decide)
  | @decorated sign opened first parens others lead more _ hsign hparens hopened hdecorator hsame
      hbegins hstart hstop =>
    have hvisible : sign.isVisible = true := by
      unfold Token.isVisible
      rw [hsign]
    obtain ⟨gap, spelling, behind, rfl, -, hspelling, hsignAt, -, hnext⟩ :=
      hspelled.of_visible hvisible
    obtain rfl : spelling = ['@'] := eq_of_lineFeeds_eq (hspelling _ hsign) (by decide)
    -- between the sign and the expression stand parentheses and fillers, in which the sign can only
    -- be part of a comment
    obtain ⟨between, last, rfl, hcomments, hexpression⟩ :=
      hnext.of_parens hparens (Token.isVisible_of_begins hopened)
    rw [hsame] at hnext
    -- the definition itself comes behind the decorators
    obtain ⟨passed, body, hbody, hdefinition, -⟩ := hnext.of_append
    obtain ⟨space, run, behind, rfl, hfirst, hlast, hrest⟩ := hdefinition.of_body hbegins
    have hback : gap ++ (['@'] ++ (between ++ last))
        = (gap ++ ['@'] ++ passed ++ space ++ run) ++ behind := by
      rw [hbody]
      simp only [List.append_assoc]
    have hend : front ++ gap ++ ['@'] ++ passed ++ space ++ run
        = front ++ (gap ++ ['@'] ++ passed ++ space ++ run) := by
      simp only [List.append_assoc]
    rw [hend] at hlast hrest
    have hdecorated : parsed.Decorated text sign (front ++ gap) between := by
      refine ⟨⟨last, ?_⟩, hsignAt, opened.start, hdecorator, ?_⟩
      · rw [htext, List.append_assoc, List.singleton_append]
      · rwa [List.append_assoc (front ++ gap)] at hexpression
    have hfront : (front ++ gap).length < (front ++ gap ++ ['@'] ++ passed ++ space).length := by
      simp only [List.length_append, List.length_singleton]
      omega
    refine ⟨_, _, behind, sign, _, hback, ⟨hstart ▸ hfirst, hstop ▸ hlast, ?_, ?_, ?_⟩, hrest, rfl,
      fun _ => ⟨front ++ gap, between, hdecorated, hcomments, hfront⟩⟩
    · simp only [List.length_append]
      omega
    · simp only [List.length_append]
      omega
    · intro place hplace
      obtain ⟨_, hsame, hdenotes⟩ := hdecorated.expression_denotes
      obtain rfl := Option.some.inj (hsame.symm.trans hplace)
      refine ⟨_, (front ++ gap).length, hdenotes, ?_, ?_, ?_⟩
      · simp
      · simp
      · rw [htext, List.singleton_append, ← List.append_assoc,
          List.getElem?_append_right (Nat.le_refl _), Nat.sub_self]
        rfl

/-! ## All statements -/

/-- What is known of one of the statements of a text: it is read from the tokens from `first` on, is
in its place, and is a decorated definition if it begins with an `@`. -/
structure Grammar.ParsedStatement.FoundAt (text : String) (tokens : List Token)
    (parsed : ParsedStatement) (first : Token) (start stop : Nat) : Prop where
  reads : ∃ skipped rest after, tokens = skipped ++ first :: rest ∧ parsed.Reads (first :: rest) after
  placed : ∃ floor, parsed.Placed text floor start stop
  decorated : first.kind = .operator "@" →
    ∃ front between, parsed.Decorated text first front between ∧ OnlyInComments '@' between
      ∧ front.length < start

/-- Earlier is a promise less. -/
theorem Grammar.ParsedStatement.Placed.mono {floor lower start stop : Nat} (hle : lower ≤ floor)
    (h : parsed.Placed text floor start stop) : parsed.Placed text lower start stop where
  start_denotes := h.start_denotes
  stop_denotes := h.stop_denotes
  floor_le := Nat.le_trans hle h.floor_le
  start_le_stop := h.start_le_stop
  decorated place hplace := by
    obtain ⟨expression, sign, hexpression, hbehind, hfront, hsign⟩ := h.decorated place hplace
    exact ⟨expression, sign, hexpression, Nat.le_trans hle hbehind, hfront, hsign⟩

/-- **The statements of a text** come one after the other, each where it is read. Induction on them.
-/
theorem inOrder_of_readsAll {statements : List ParsedStatement}
    (h : ReadsAll before statements after) (htext : text.toList = front ++ back)
    (hspelled : Spelled text front back before) :
    InOrder text front.length statements
      ∧ ∀ parsed ∈ statements, ∃ first start stop, parsed.FoundAt text before first start stop := by
  induction h generalizing front back with
  | nil => exact ⟨trivial, nofun⟩
  | cons skipped hfirst _ ih =>
    obtain ⟨passed, last, rfl, hbefore, -⟩ := hspelled.of_append
    rw [← List.append_assoc] at htext
    obtain ⟨start, own, behind, first, more, rfl, hplaced, hafter, rfl, hsign⟩ :=
      hfirst.placed htext hbefore
    rw [← List.append_assoc] at htext
    obtain ⟨hinOrder, hothers⟩ := ih htext hafter
    have hfloor : front.length ≤ (front ++ passed).length := by simp
    refine ⟨⟨start, _, hplaced.mono hfloor, hinOrder⟩, List.forall_mem_cons.mpr ⟨?_, ?_⟩⟩
    · exact ⟨first, start, _, ⟨skipped, more, _, rfl, hfirst⟩, ⟨_, hplaced⟩, hsign⟩
    · intro parsed hmem
      obtain ⟨token, place, stop, ⟨others, rest, final, rfl, hreads⟩, hfound, hdecorated⟩ :=
        hothers parsed hmem
      obtain ⟨taken, htaken⟩ := hfirst.exists_eq_append
      refine ⟨token, place, stop, ⟨skipped ++ taken ++ others, rest, final, ?_, hreads⟩, hfound,
        hdecorated⟩
      rw [htaken]
      simp only [List.append_assoc]

/-- **The promise of the parser, kept.** -/
theorem inOrder_of_parseStatements {statements : List ParsedStatement}
    (h : parseStatements text.toList = some statements) :
    ∃ tokens, tokens? text.toList = some tokens ∧ InOrder text 0 statements
      ∧ ∀ parsed ∈ statements, ∃ first start stop, parsed.FoundAt text tokens first start stop := by
  obtain ⟨tokens, after, htokens, hreads⟩ := readsAll_of_parseStatements h
  exact ⟨tokens, htokens, inOrder_of_readsAll hreads rfl (spelled_of_tokens? htokens)⟩

/-! ## Looking for the sign -/

/-- What the search backwards finds is there. -/
theorem getElem?_of_lastBefore? {c : Char} {offset last : Nat} {text : List Char}
    (h : lastBefore? c offset text = some last) : last < offset ∧ text[last]? = some c := by
  unfold lastBefore? at h
  dsimp only at h
  split at h
  · rename_i hmem
    obtain rfl := Option.some.inj h
    -- counted from the back, the first occurrence is one
    have hback : c ∈ (text.take offset).reverse :=
      List.mem_reverse.mpr (List.contains_iff_mem.mp hmem)
    have hlt : (text.take offset).reverse.idxOf c < (text.take offset).length := by
      rw [← List.length_reverse]
      exact List.idxOf_lt_length_of_mem hback
    have hget : (text.take offset)[(text.take offset).length - 1
        - (text.take offset).reverse.idxOf c]? = some c := by
      rw [← List.getElem?_reverse hlt, List.getElem?_eq_getElem (by simpa using hlt),
        List.getElem_idxOf]
    have hoffset : (text.take offset).length ≤ offset := List.length_take_le _ _
    refine ⟨by omega, ?_⟩
    rwa [List.getElem?_take_of_lt (by omega)] at hget
  · cases h

/-- **What the search backwards finds** is the character at the end of `front`, unless it occurs
once more on the way. -/
theorem lastBefore?_eq_iff {c : Char} {front between back text : List Char}
    (htext : text = front ++ c :: (between ++ back)) :
    ∃ last, lastBefore? c (front ++ c :: between).length text = some last ∧ front.length ≤ last
      ∧ (last = front.length ↔ c ∉ between) := by
  have hsign : text[front.length]? = some c := by
    rw [htext, List.getElem?_append_right (Nat.le_refl _), Nat.sub_self]
    rfl
  have hget : ∀ i < between.length, text[front.length + 1 + i]? = between[i]? := by
    intro i hi
    have hindex : front.length + 1 + i - front.length = i + 1 := by omega
    rw [htext, List.getElem?_append_right (by omega), hindex, List.getElem?_cons_succ,
      List.getElem?_append_left hi]
  have hoffset : (front ++ c :: between).length = front.length + 1 + between.length := by
    simp only [List.length_append, List.length_cons]
    omega
  have hfront : front.length < (front ++ c :: between).length := by omega
  obtain ⟨last, hlast, hle⟩ := le_lastBefore? hsign hfront
  obtain ⟨hlt, hfound⟩ := getElem?_of_lastBefore? hlast
  refine ⟨last, hlast, hle, fun heq hmem => ?_, fun hnone => ?_⟩
  · -- an occurrence on the way is nearer
    obtain ⟨i, hi, hc⟩ := List.getElem_of_mem hmem
    have hnear : text[front.length + 1 + i]? = some c := by
      rw [hget i hi, List.getElem?_eq_getElem hi, hc]
    have hback : front.length + 1 + i < (front ++ c :: between).length := by omega
    obtain ⟨other, hother, hbehind⟩ := le_lastBefore? hnear hback
    obtain rfl := Option.some.inj (hother.symm.trans hlast)
    omega
  -- if what is found is farther on, it stands on the way
  · by_contra hne
    have hi : last - front.length - 1 < between.length := by omega
    have hindex : front.length + 1 + (last - front.length - 1) = last := by omega
    have hmem := hget _ hi
    rw [hindex, hfound] at hmem
    exact hnone (List.mem_of_getElem? hmem.symm)

/-! ## Decorated definitions -/

/-- **Where a decorated definition starts**: at its sign, unless another one stands between it and
the expression of the decorator. -/
theorem start_eq_iff {sign : Token} {front between : List Char} {start stop floor : Nat}
    {statement : Statement} (hdecorated : parsed.Decorated text sign front between)
    (hplaced : parsed.Placed text floor start stop) (hfront : front.length < start)
    (hstatement : Statement.ofParsed (.ofText text) text.toList parsed = .ok statement) :
    statement.extent.start = front.length ↔ '@' ∉ between := by
  obtain ⟨back, htext⟩ := hdecorated.spelled
  obtain ⟨place, hplace, hexpression⟩ := hdecorated.expression_denotes
  have hat : parsed.At text start stop (some (front ++ '@' :: between).length) :=
    ⟨hplaced.start_denotes, hplaced.stop_denotes, hplaced.start_le_stop, hplace ▸ .some hexpression⟩
  obtain ⟨last, hlast, hle, hiff⟩ := lastBefore?_eq_iff htext
  obtain rfl := Except.ok.inj (hat.ofParsed.symm.trans hstatement)
  show Statement.widened text.toList start (some _) = front.length ↔ _
  rw [Statement.widened_eq_min hlast, ← hiff]
  omega

/-- **Where decorated definitions start.** Take any text that parses. Its phrases can be built, and
each of its statements is read from tokens of its own. If the first of them is an `@`, the statement
is a decorated definition: behind the `@`, the expression of its first decorator follows, with at
most parentheses and fillers in between. The statement starts at the `@`, unless a comment in
between holds another one. -/
theorem decorated_start {sourceName contents : String} {statements : List ParsedStatement}
    (h : parseSource sourceName contents = .ok statements) :
    ∃ tokens phrases, tokens? contents.toList = some tokens
      ∧ phrasesOf sourceName contents = .ok phrases
      ∧ List.Forall₂
          (fun parsed statement => ∃ skipped first rest after,
            tokens = skipped ++ first :: rest ∧ parsed.Reads (first :: rest) after
              ∧ (first.kind = .operator "@" → ∃ front between,
                  parsed.Decorated contents first front between ∧ OnlyInComments '@' between
                    ∧ (statement.extent.start = front.length ↔ '@' ∉ between)))
          statements (phrases.flatMap (·.statements)) := by
  obtain ⟨tokens, htokens, hinOrder, hfound⟩ :=
    inOrder_of_parseStatements (parseSource_eq_ok_iff.mp h).2.2
  obtain ⟨phrases, hphrases, hstatements, -⟩ := Phrase.ofParsed_of_inOrder hinOrder
  refine ⟨tokens, phrases, htokens, ?_, ?_⟩
  · exact bind_eq_ok.mpr ⟨statements, h, hphrases⟩
  · refine ((List.forall₂_and_left _ _).mpr ⟨hfound, hstatements⟩).imp ?_
    rintro parsed statement ⟨⟨first, start, stop, hfirst⟩, hstatement⟩
    obtain ⟨skipped, rest, after, hsame, hreads⟩ := hfirst.reads
    obtain ⟨floor, hplaced⟩ := hfirst.placed
    refine ⟨skipped, first, rest, after, hsame, hreads, fun hsign => ?_⟩
    obtain ⟨front, between, hdecorated, hcomments, hfront⟩ := hfirst.decorated hsign
    exact ⟨front, between, hdecorated, hcomments,
      start_eq_iff hdecorated hplaced hfront hstatement⟩

namespace Sample

/-- A decorator in parentheses, with a comment behind the first of them. -/
def commented : String := "@(  # of f\n  deco)\ndef f(): pass\n"

/-- The same with a sign in the comment. -/
def signInComment : String := "@(  # x @ y\n  deco)\ndef f(): pass\n"

end Sample

/-- The comment in the sample holds no sign, so the definition starts at the one in front of it. -/
theorem decorated_start_sample :
    ∃ statements phrases, parseSource "sample" Sample.commented = .ok statements
      ∧ phrasesOf "sample" Sample.commented = .ok phrases
      ∧ (phrases.flatMap (·.statements)).map (·.extent) = [⟨0, 32, by decide⟩] := by
  have hplaces : (parseSource "sample" Sample.commented).toOption.map (·.map (·.places))
      = some [(⟨3, 0⟩, ⟨3, 13⟩, some ⟨2, 2⟩)] := by decide +kernel
  obtain ⟨statements, hstatements, -⟩ := Option.map_eq_some_iff.mp hplaces
  have hparse := toOption_eq_some_iff.mp hstatements
  obtain ⟨tokens, phrases, -, hphrases, -⟩ := decorated_start hparse
  have hextents : (phrasesOf "sample" Sample.commented).toOption.map
      (fun phrases => (phrases.flatMap (·.statements)).map (·.extent))
        = some [⟨0, 32, by decide⟩] := by decide +kernel
  rw [hphrases] at hextents
  exact ⟨statements, phrases, hparse, hphrases, Option.some.inj hextents⟩

/-- **Not every decorated definition starts at its sign.** In the sample, the search stops at the
sign in the comment: the definition starts inside it, and what is in front is left behind as code.
-/
theorem not_forall_start_eq_sign :
    ¬∀ (sourceName contents : String) (statements : List ParsedStatement) (tokens : List Token)
        (phrases : List Phrase), parseSource sourceName contents = .ok statements →
        tokens? contents.toList = some tokens → phrasesOf sourceName contents = .ok phrases →
          List.Forall₂
            (fun parsed statement => ∀ skipped first rest after front between,
              tokens = skipped ++ first :: rest → parsed.Reads (first :: rest) after →
                first.kind = .operator "@" → parsed.Decorated contents first front between →
                  statement.extent.start = front.length)
            statements (phrases.flatMap (·.statements)) := by
  intro h
  have hplaces : (parseSource "sample" Sample.signInComment).toOption.map (·.map (·.places))
      = some [(⟨3, 0⟩, ⟨3, 13⟩, some ⟨2, 2⟩)] := by decide +kernel
  have hextents : (phrasesOf "sample" Sample.signInComment).toOption.map
      (fun phrases => (phrases.flatMap (·.statements)).map (·.extent))
        = some [⟨8, 33, by decide⟩] := by decide +kernel
  have hsigns : (tokens? Sample.signInComment.toList).map
      (fun tokens => (tokens.filter fun token => token.kind = .operator "@").map (·.start))
        = some [⟨1, 0⟩] := by decide +kernel
  obtain ⟨statements, hstatements, hsame⟩ := Option.map_eq_some_iff.mp hplaces
  obtain ⟨phrases, hphrases, hextent⟩ := Option.map_eq_some_iff.mp hextents
  obtain ⟨parsed, rfl, hparsed⟩ := List.map_eq_singleton_iff.mp hsame
  obtain ⟨statement, hstatement, hwhere⟩ := List.map_eq_singleton_iff.mp hextent
  have hparse := toOption_eq_some_iff.mp hstatements
  obtain ⟨tokens, htokens, -, hfound⟩ :=
    inOrder_of_parseStatements (parseSource_eq_ok_iff.mp hparse).2.2
  obtain ⟨first, start, stop, ⟨skipped, rest, after, hsplit, hreads⟩, -, hdecorated⟩ :=
    hfound parsed (List.mem_singleton.mpr rfl)
  have hsign : first.kind = .operator "@" := by
    cases hreads with
    | plain _ _ _ hdecorator =>
      rw [ParsedStatement.places, hdecorator] at hparsed
      exact absurd hparsed (by simp)
    | decorated hsign => exact hsign
  obtain ⟨front, between, hsigned, -⟩ := hdecorated hsign
  -- by the statement that is refuted, the definition starts at the only token that is a sign
  have hstarts := h "sample" _ _ _ _ hparse htokens (toOption_eq_some_iff.mp hphrases)
  rw [hstatement, List.forall₂_cons] at hstarts
  have hstart := hstarts.1 skipped first rest after front between hsplit hreads hsign hsigned
  have hplace : first.start = ⟨1, 0⟩ := by
    rw [htokens, Option.map_some, Option.some.injEq] at hsigns
    have hmem : first ∈ tokens.filter fun token => token.kind = .operator "@" := by
      rw [hsplit]
      simp [hsign]
    simpa [hsigns] using List.mem_map_of_mem (f := (·.start)) hmem
  have hoffset := LineTable.offset_of_denotes hsigned.sign_denotes
  rw [hplace] at hoffset
  have hzero : 0 = front.length := Except.ok.inj hoffset
  rw [hwhere, ← hzero] at hstart
  exact absurd hstart (by decide)

end ExpectFile
