import ExpectFile.Proofs.Grammar.Openings
import ExpectFile.Proofs.Grammar.Courses

/-!
# Parsers that carry over to other tokens

Inside of a statement two parsers agree on tokens that are alike (`Agree`). A compound statement
goes over many lines, and what follows it may be something else: `Beside` says that two lists of
tokens have the same kinds up to there, and `Carries` that a parser goes through on the second list
where another has gone through on the first. A number goes along with the lists, that of the tokens
which are left in front of what follows. It is not zero inside of a line, because every piece ends
with a mark of layout. The depth of blocks is bounded by the characters of the tokens.

* **`Beside.like`** — in front of a mark of layout the tokens are alike.
* **`Carries.bind`**, **`Carries.whenFound`**, **`Carries.behind`** — parsers that are put together.
* **`Carries.of_agree`** — what stays inside of a statement.
-/

namespace ExpectFile.Grammar

open TokenParser

variable {α β : Type}

/-! ## Characters of tokens -/

/-- How many characters a token has at least. The marks of indentation, and that of the end, have
none of their own. -/
def Token.Kind.size : Token.Kind → Nat
  | .indent | .dedent | .finish => 0
  | _ => 1

/-- How many characters tokens have at least. -/
def bulk : List Token → Nat
  | [] => 0
  | token :: ts => token.kind.size + bulk ts

@[simp] theorem bulk_cons (token : Token) (ts : List Token) :
    bulk (token :: ts) = token.kind.size + bulk ts := rfl

@[simp] theorem bulk_append (ts ts' : List Token) : bulk (ts ++ ts') = bulk ts + bulk ts' := by
  induction ts with
  | nil => exact (Nat.zero_add _).symm
  | cons token ts ih => rw [List.cons_append, bulk_cons, bulk_cons, ih, Nat.add_assoc]

/-- A token has one character at least, or none. -/
theorem Token.Kind.size_le (kind : Token.Kind) : kind.size ≤ 1 := by cases kind <;> simp [size]

/-- A token to begin with has one. -/
theorem Token.Kind.size_of_begins {kind : Token.Kind} (h : kind.begins = true) : kind.size = 1 := by
  cases kind <;> first | rfl | cases h

/-- So has one inside of a statement. -/
theorem Token.Kind.size_of_isInner {kind : Token.Kind} (h : kind.isInner = true) :
    kind.size = 1 := by
  cases kind <;> first | rfl | cases h

/-- Tokens at the end have no more characters than all. -/
theorem bulk_le_of_suffix {ts ts' : List Token} (h : ts <:+ ts') : bulk ts ≤ bulk ts' := by
  obtain ⟨front, rfl⟩ := h
  rw [bulk_append]
  exact Nat.le_add_left _ _

/-- What is left behind taken tokens is at the end of what there was. -/
theorem Cursor.Reaches.suffix {c d : Cursor} (h : c.Reaches d) : d.rest <:+ c.rest := by
  obtain ⟨taken, hrest, -⟩ := h
  exact ⟨taken, hrest.symm⟩

/-- So it has no more characters. -/
theorem Cursor.Reaches.bulk_le {c d : Cursor} (h : c.Reaches d) : bulk d.rest ≤ bulk c.rest :=
  bulk_le_of_suffix h.suffix

/-- A parser takes at least one character, if it goes through. -/
def Consumes (parser : TokenParser α) : Prop :=
  ∀ c a d, parser.run c = some (a, d) → bulk d.rest < bulk c.rest

namespace Consumes

variable {parser : TokenParser α} {f : α → TokenParser β}

/-- A parser that takes a token to begin with takes a character. -/
theorem of_opens [Opens parser] : Consumes parser := by
  intro c a d h
  obtain ⟨token, taken, hrest, hbegins, -⟩ := Opens.enters h
  rw [hrest, bulk_cons, bulk_append, Token.Kind.size_of_begins hbegins]
  omega

/-- A chain takes a character if its first part does. -/
theorem first (h : Consumes parser) [∀ a, Advances (f a)] : Consumes (parser >>= f) := by
  intro c b d hrun
  obtain ⟨a, e, hfirst, hsecond⟩ := run_bind_eq_some.mp hrun
  exact (Advances.reaches hsecond).bulk_le.trans_lt (h c a e hfirst)

/-- A chain takes a character if its second part does. -/
theorem second [Advances parser] (h : ∀ a, Consumes (f a)) : Consumes (parser >>= f) := by
  intro c b d hrun
  obtain ⟨a, e, hfirst, hsecond⟩ := run_bind_eq_some.mp hrun
  exact (h a e b d hsecond).trans_le (Advances.reaches hfirst).bulk_le

/-- So does a parser that takes a token which has one. -/
theorem expect {kind : Token.Kind} (hsize : kind.size = 1) : Consumes (expect kind) := by
  intro c a d h
  obtain ⟨token, rest, hrest, rfl, rfl⟩ := expect_eq_some h
  rw [hrest, bulk_cons, hsize, Nat.add_comm]
  exact Nat.lt_succ_self _

/-- A parser that fails never goes through. -/
theorem failure : Consumes (failure : TokenParser α) := nofun

/-- Where a character is taken, there are fewer tokens. -/
theorem length_lt [Advances parser] (h : Consumes parser) {c d : Cursor} {a : α}
    (hrun : parser.run c = some (a, d)) : d.rest.length < c.rest.length := by
  have hless := h c a d hrun
  refine lt_of_le_of_ne (Advances.reaches hrun).suffix.length_le fun heq => ?_
  rw [(Advances.reaches hrun).suffix.eq_of_length heq] at hless
  exact absurd hless (Nat.lt_irrefl _)

/-- Looking for a token, and taking one in any case. -/
theorem whenFound {kind : Token.Kind} {other then' : TokenParser β} [Advances then']
    (hsize : kind.size = 1) (helse : Consumes other) :
    Consumes (found kind >>= fun isNext => if isNext = true then then' else other) := by
  intro c b d hrun
  obtain ⟨isNext, e, hfound, hrest⟩ := run_bind_eq_some.mp hrun
  rcases found_eq_some hfound with ⟨rfl, token, rest, hc, rfl, rfl⟩ | ⟨rfl, -, rfl⟩
  · have hthen : then'.run _ = some (b, d) := hrest
    have hle := (Advances.reaches hthen).bulk_le
    rw [hc, bulk_cons, hsize, Nat.add_comm]
    exact Nat.lt_succ_of_le hle
  · exact helse _ b d hrest

end Consumes

/-! ## Lists of tokens beside each other -/

/-- The kind of the first token. -/
def nextKind (ts : List Token) : Token.Kind := (ts.head?.map (·.kind)).getD .finish

/-- **Two lists of tokens beside each other**: `n` tokens of the same kinds, the last of which is a
mark, and then a tail of either list. No statement in it counts for more than `l`. -/
inductive Beside (l : Nat) (tail tail' : List Token) : Nat → List Token → List Token → Prop where
  | tail : Beside l tail tail' 0 tail tail'
  | cons {n : Nat} {token token' : Token} {ts ts' : List Token} (hkind : token.kind = token'.kind)
      (hload : load (token :: ts) ≤ l) (hlast : n = 0 → token.kind.isInner = false)
      (h : Beside l tail tail' n ts ts') :
      Beside l tail tail' (n + 1) (token :: ts) (token' :: ts')

variable {l low mid high r r' n : Nat} {tail tail' ts ts' : List Token} {c c' d d' : Cursor}

namespace Beside

/-- The number that goes along counts the tokens in front of the tail. -/
theorem length_eq (h : Beside l tail tail' n ts ts') : ts.length = n + tail.length := by
  induction h with
  | tail => exact (Nat.zero_add _).symm
  | cons _ _ _ _ ih =>
    rw [List.length_cons, ih]
    omega

/-- It is less than the number of tokens in the second list, whose tail is not empty. -/
theorem lt_length (h : Beside l tail tail' n ts ts') (htail : tail' ≠ []) : n < ts'.length := by
  induction h with
  | tail => exact List.length_pos_iff.mpr htail
  | cons _ _ _ _ ih => exact Nat.succ_lt_succ ih

/-- It bounds the characters in front of the tail. -/
theorem bulk_le (h : Beside l tail tail' n ts ts') : bulk ts ≤ n + bulk tail := by
  induction h with
  | tail => exact (Nat.zero_add _).ge
  | @cons _ token _ _ _ _ _ _ _ ih =>
    have := token.kind.size_le
    rw [bulk_cons]
    omega

/-- The first list ends in its tail. -/
theorem suffix (h : Beside l tail tail' n ts ts') : tail <:+ ts := by
  induction h with
  | tail => exact List.suffix_refl _
  | cons _ _ _ _ ih => exact ih.trans (List.suffix_cons _ _)

/-- The second list ends in its tail. -/
theorem suffix' (h : Beside l tail tail' n ts ts') : tail' <:+ ts' := by
  induction h with
  | tail => exact List.suffix_refl _
  | cons _ _ _ _ ih => exact ih.trans (List.suffix_cons _ _)

/-- The rest of a statement is in front of the tail, and each of its tokens has a character. -/
theorem room_le (h : Beside l tail tail' n ts ts') (hn : 0 < n) :
    room ts + bulk tail ≤ bulk ts := by
  induction h with
  | tail => cases hn
  | @cons n token token' ts ts' _ _ hlast hrest ih =>
    rw [room, bulk_cons]
    split
    · rename_i hinner
      rw [Token.Kind.size_of_isInner hinner]
      cases n with
      | zero => cases hinner.symm.trans (hlast rfl)
      | succ n =>
        have := ih (Nat.succ_pos n)
        omega
    · have := bulk_le_of_suffix hrest.suffix
      omega

/-- Where no tokens are left in front, the tails are. -/
theorem eq_of_zero (h : Beside l tail tail' 0 ts ts') : ts = tail ∧ ts' = tail' := by
  cases h
  exact ⟨rfl, rfl⟩

/-- The tokens in front of the tails have equally many characters. -/
theorem bulk_eq (h : Beside l tail tail' n ts ts') :
    bulk ts + bulk tail' = bulk ts' + bulk tail := by
  induction h with
  | tail => exact Nat.add_comm _ _
  | cons hkind _ _ _ ih =>
    rw [bulk_cons, bulk_cons, hkind, Nat.add_assoc, Nat.add_assoc, ih]

/-- **In front of a mark** the tokens are alike. -/
theorem like (h : Beside l tail tail' (n + 1) ts ts') : Like ts ts' := by
  generalize hn : n + 1 = m at h
  induction h generalizing n with
  | tail => cases hn
  | @cons m token _ _ _ hkind _ hlast _ ih =>
    cases hinner : token.kind.isInner with
    | false => exact .stop hkind hinner
    | true =>
      cases m with
      | zero => cases hinner.symm.trans (hlast rfl)
      | succ m => exact .inner hkind hinner (ih rfl)

/-- No statement counts for more than the bound. -/
theorem load_le (h : Beside l tail tail' (n + 1) ts ts') : load ts ≤ l := by
  cases h with
  | cons _ hload => exact hload

/-- Moving along inside of a statement does not lead to the end of the line. -/
theorem of_along {due left : List String} (h : Along due left c c' d d')
    (hbeside : Beside l tail tail' (n + 1) c.rest c'.rest) :
    d.rest <:+ c.rest ∧ ∃ m, Beside l tail tail' (m + 1) d.rest d'.rest := by
  induction h generalizing n with
  | refl => exact ⟨List.suffix_refl _, n, hbeside⟩
  | @take _ _ _ token _ _ _ _ _ _ _ _ hturn _ ih =>
    generalize htokens : token :: _ = tokens at hbeside
    cases hbeside with
    | @cons _ _ _ _ _ _ _ hlast hrest =>
      obtain ⟨rfl, rfl⟩ := List.cons.inj htokens
      cases n with
      | zero => cases (Token.Kind.isInner_of_turn hturn).symm.trans (hlast rfl)
      | succ n =>
        obtain ⟨hsuffix, hmore⟩ := ih hrest
        exact ⟨hsuffix.trans (List.suffix_cons _ _), hmore⟩

/-- In front of the tail, the next tokens have the same kind. -/
theorem next_eq (h : Beside l tail tail' n c.rest c'.rest) (hn : 0 < n) : c.next = c'.next := by
  generalize hrest : c.rest = ts at h
  generalize hrest' : c'.rest = ts' at h
  cases h with
  | tail => cases hn
  | cons hkind => rw [Cursor.next, Cursor.next, hrest, hrest']; exact hkind

end Beside

/-! ## Parsers that carry over -/

/-- **A parser carries over**: where it goes through on one list of tokens without coming past the
tail, the other goes through on the list beside it. At least `low` tokens are left in front of the
tail before it, of at most `r` characters; and at least `high` behind it. -/
def Carries (l : Nat) (tail tail' : List Token) (low high r : Nat) (same : α → α → Prop)
    (parser parser' : TokenParser α) : Prop :=
  ∀ n c c' a d, low ≤ n → bulk c.rest ≤ r + bulk tail → Beside l tail tail' n c.rest c'.rest →
    parser.run c = some (a, d) → tail <:+ d.rest →
    ∃ a' d' m, parser'.run c' = some (a', d') ∧ same a a' ∧ high ≤ m
      ∧ bulk d.rest ≤ bulk c.rest ∧ Beside l tail tail' m d.rest d'.rest

/-- The same where the next token is of a kind. -/
def CarriesAt (kind : Token.Kind) (l : Nat) (tail tail' : List Token) (low high r : Nat)
    (same : α → α → Prop) (parser parser' : TokenParser α) : Prop :=
  ∀ n c c' a d, low ≤ n → bulk c.rest ≤ r + bulk tail → Beside l tail tail' n c.rest c'.rest →
    c.next = kind → parser.run c = some (a, d) → tail <:+ d.rest →
    ∃ a' d' m, parser'.run c' = some (a', d') ∧ same a a' ∧ high ≤ m
      ∧ bulk d.rest ≤ bulk c.rest ∧ Beside l tail tail' m d.rest d'.rest

/-- The same where the next two tokens are of two kinds. -/
def CarriesAtPair (kind second : Token.Kind) (l : Nat) (tail tail' : List Token)
    (low high r : Nat) (same : α → α → Prop) (parser parser' : TokenParser α) : Prop :=
  ∀ n c c' a d, low ≤ n → bulk c.rest ≤ r + bulk tail → Beside l tail tail' n c.rest c'.rest →
    c.next = kind → c.second = second → parser.run c = some (a, d) → tail <:+ d.rest →
    ∃ a' d' m, parser'.run c' = some (a', d') ∧ same a a' ∧ high ≤ m
      ∧ bulk d.rest ≤ bulk c.rest ∧ Beside l tail tail' m d.rest d'.rest

/-- What is behind a token: where it is a mark, perhaps the tail. -/
def Token.Kind.behindAtLeast (kind : Token.Kind) : Nat := if kind.isInner then 1 else 0

/-- Nothing is taken off the tail. -/
theorem not_suffix_of_bulk_lt (h : bulk ts < bulk tail) : ¬tail <:+ ts :=
  fun hsuffix => Nat.not_le.mpr h (bulk_le_of_suffix hsuffix)

namespace Carries

variable {same : α → α → Prop} {same' : β → β → Prop} {parser parser' other other' : TokenParser α}
  {f f' : α → TokenParser β}

/-- What carries over with many characters does so with fewer. -/
theorem mono (h : Carries l tail tail' low high r same parser parser') (hr : r' ≤ r) :
    Carries l tail tail' low high r' same parser parser' :=
  fun n c c' a d hlow hn => h n c c' a d hlow (hn.trans (Nat.add_le_add_right hr _))

/-- What carries over near to the tail does so farther from it. -/
theorem of_low (h : Carries l tail tail' low high r same parser parser') (hlow : low ≤ mid) :
    Carries l tail tail' mid high r same parser parser' :=
  fun n c c' a d hmid => h n c c' a d (hlow.trans hmid)

/-- What carries over does so in front of any token. -/
theorem atNext (h : Carries l tail tail' low high r same parser parser') (kind : Token.Kind) :
    CarriesAt kind l tail tail' low high r same parser parser' :=
  fun n c c' a d hlow hn hbeside _ => h n c c' a d hlow hn hbeside

/-- Results that are the same carry over. -/
theorem pure {a a' : α} (h : same a a') (hhigh : high ≤ low) :
    Carries l tail tail' low high r same (pure a) (Pure.pure a') := by
  rintro n c c' _ _ hlow hn hbeside ⟨⟩ -
  exact ⟨a', c', n, rfl, h, hhigh.trans hlow, Nat.le_refl _, hbeside⟩

/-- What does not go through carries over to anything. -/
theorem failure : Carries l tail tail' low high r same (failure : TokenParser α) parser' := nofun

/-- So does what fails first. -/
theorem failing {g : TokenParser β} :
    Carries l tail tail' low high r same' ((Alternative.failure : TokenParser α) >>= f) g := nofun

/-- A choice by a condition carries over if both of its parts do. -/
theorem ite {p : Prop} [Decidable p]
    (hthen : p → Carries l tail tail' low high r same parser parser')
    (helse : ¬p → Carries l tail tail' low high r same other other') :
    Carries l tail tail' low high r same (if p then parser else other)
      (if p then parser' else other') := by
  by_cases h : p
  · rw [if_pos h, if_pos h]
    exact hthen h
  · rw [if_neg h, if_neg h]
    exact helse h

/-- One parser after the other. -/
theorem bind [∀ a, Advances (f a)] (h : Carries l tail tail' low mid r same parser parser')
    (hf : ∀ a a', same a a' → Carries l tail tail' mid high r same' (f a) (f' a')) :
    Carries l tail tail' low high r same' (parser >>= f) (parser' >>= f') := by
  intro n c c' b e hlow hn hbeside hrun htail
  obtain ⟨a, d, hfirst, hsecond⟩ := run_bind_eq_some.mp hrun
  have hsuffix : tail <:+ d.rest := htail.trans (Advances.reaches hsecond).suffix
  obtain ⟨a', d', m, hfirst', hsame, hmid, hm, hbetween⟩ :=
    h n c c' a d hlow hn hbeside hfirst hsuffix
  obtain ⟨b', e', k, hsecond', hsame', hhigh, hk, hrest⟩ :=
    hf a a' hsame m d d' b e hmid (hm.trans hn) hbetween hsecond htail
  exact ⟨b', e', k, by rw [run_bind_of hfirst', hsecond'], hsame', hhigh, hk.trans hm, hrest⟩

/-- One parser after another that takes a character. -/
theorem bindLess [∀ a, Advances (f a)] (h : Carries l tail tail' low mid r same parser parser')
    (hconsumes : Consumes parser)
    (hf : 0 < r → ∀ a a', same a a' →
      Carries l tail tail' mid high (r - 1) same' (f a) (f' a')) :
    Carries l tail tail' low high r same' (parser >>= f) (parser' >>= f') := by
  intro n c c' b e hlow hn hbeside hrun htail
  obtain ⟨a, d, hfirst, hsecond⟩ := run_bind_eq_some.mp hrun
  have hsuffix : tail <:+ d.rest := htail.trans (Advances.reaches hsecond).suffix
  have hless := hconsumes c a d hfirst
  have hleft := bulk_le_of_suffix hsuffix
  obtain ⟨a', d', m, hfirst', hsame, hmid, -, hbetween⟩ :=
    h n c c' a d hlow hn hbeside hfirst hsuffix
  obtain ⟨b', e', k, hsecond', hsame', hhigh, hk, hrest⟩ :=
    hf (by omega) a a' hsame m d d' b e hmid (by omega) hbetween hsecond htail
  exact ⟨b', e', k, by rw [run_bind_of hfirst', hsecond'], hsame', hhigh, by omega, hrest⟩

/-- Where a character is taken, the tail is not reached yet. -/
theorem of_consumes (h : Carries l tail tail' 1 high r same parser parser')
    (hconsumes : Consumes parser) : Carries l tail tail' low high r same parser parser' := by
  intro n c c' a d _ hn hbeside hrun htail
  cases n with
  | zero =>
    have hless := hconsumes c a d hrun
    rw [hbeside.eq_of_zero.1] at hless
    exact absurd htail (not_suffix_of_bulk_lt hless)
  | succ n => exact h (n + 1) c c' a d (Nat.succ_pos n) hn hbeside hrun htail

/-- Where no character is left, none can be taken. -/
theorem of_spent (hconsumes : Consumes parser) :
    Carries l tail tail' low high 0 same parser parser' := by
  intro n c c' a d _ hn _ hrun htail
  have hless := hconsumes c a d hrun
  exact absurd htail (not_suffix_of_bulk_lt (by omega))

/-- The cursor may be looked at, as what is made of it need not be the same. -/
theorem get {f f' : Cursor → TokenParser β}
    (h : ∀ cursor cursor', Carries l tail tail' low high r same' (f cursor) (f' cursor')) :
    Carries l tail tail' low high r same' (MonadState.get >>= f) (MonadState.get >>= f') :=
  fun n c c' => h c c' n c c'

/-- So may the place of the next token, of which there is one. -/
theorem start {f f' : Position → TokenParser β} (htail' : tail' ≠ [])
    (h : ∀ position position', Carries l tail tail' low high r same' (f position) (f' position')) :
    Carries l tail tail' low high r same' (TokenParser.start >>= f)
      (TokenParser.start >>= f') := by
  intro n c c' b e hn hr hbeside hrun htail
  obtain ⟨position, d, hstart, hrest⟩ := run_bind_eq_some.mp hrun
  obtain ⟨rfl, -⟩ := eq_of_run_start hstart
  have hlength := (Nat.zero_le n).trans_lt (hbeside.lt_length htail')
  obtain ⟨rest, stop⟩ := c'
  cases rest with
  | nil => cases hlength
  | cons token rest =>
    rw [run_bind_of (run_start token rest stop)]
    exact h position token.start n _ _ b e hn hr hbeside hrest htail

/-- Looking at the number of tokens that are left, of which nothing is known but that the tail is
not reached sooner. -/
theorem remaining {f f' : Nat → TokenParser β} (htail' : tail' ≠ [])
    (h : ∀ r' ≤ r, ∀ m m', r' < m' → Carries l tail tail' low high r' same' (f m) (f' m')) :
    Carries l tail tail' low high r same' (TokenParser.remaining >>= f)
      (TokenParser.remaining >>= f') := by
  intro n c c' b e hlow hn hbeside hrun htail
  rw [run_bind_of (run_remaining c)] at hrun
  rw [run_bind_of (run_remaining c')]
  have hbulk := hbeside.bulk_le
  have hless := hbeside.lt_length htail'
  exact h (bulk c.rest - bulk tail) (by omega) _ _ (by omega) n c c' b e hlow (by omega) hbeside
    hrun htail

/-- Looking at the next token. -/
theorem peek {f f' : Token.Kind → TokenParser β} (hlow : 0 < low)
    (h : ∀ kind, CarriesAt kind l tail tail' low high r same' (f kind) (f' kind)) :
    Carries l tail tail' low high r same' (TokenParser.peek >>= f) (TokenParser.peek >>= f') := by
  intro n c c' b e hn hr hbeside hrun htail
  rw [run_bind_of (run_peek c)] at hrun
  rw [run_bind_of (run_peek c'), ← hbeside.next_eq (hlow.trans_le hn)]
  exact h c.next n c c' b e hn hr hbeside rfl hrun htail

/-- **What stays inside of a statement carries over.** -/
theorem of_agree (due left : List String)
    (h : ∀ r' ≤ r, Agree due left r' l parser parser') :
    Carries l tail tail' 1 1 r Eq parser parser' := by
  intro n c c' a d hlow hn hbeside hrun htail
  obtain ⟨n, rfl⟩ : ∃ m, n = m + 1 := ⟨n - 1, by omega⟩
  have hroom := hbeside.room_le hlow
  have hsame := h (room c.rest) (by omega) c c' hbeside.like (Nat.le_refl _) hbeside.load_le
  rw [hrun] at hsame
  generalize parser'.run c' = result at hsame
  cases hsame with
  | some _ halong =>
    obtain ⟨hsuffix, m, hrest⟩ := Beside.of_along halong hbeside
    exact ⟨a, _, m + 1, rfl, rfl, Nat.succ_pos m, bulk_le_of_suffix hsuffix, hrest⟩

end Carries

/-! ### Taking tokens -/

section Taking

variable {kind : Token.Kind} {same : β → β → Prop} {size : Nat}

/-- A token is next in both lists. -/
theorem Beside.exists_cons (h : Beside l tail tail' n c.rest c'.rest) (hn : 0 < n) :
    ∃ m token token' rest rest', n = m + 1 ∧ c = ⟨token :: rest, c.stop⟩
      ∧ c' = ⟨token' :: rest', c'.stop⟩ ∧ token.kind = token'.kind ∧ token.kind = c.next
      ∧ token.kind.behindAtLeast ≤ m ∧ Beside l tail tail' m rest rest' := by
  obtain ⟨tokens, stop⟩ := c
  obtain ⟨tokens', stop'⟩ := c'
  cases h with
  | tail => cases hn
  | @cons m token token' rest rest' hkind _ hlast hrest =>
    refine ⟨m, token, token', rest, rest', rfl, rfl, rfl, hkind, rfl, ?_, hrest⟩
    unfold Token.Kind.behindAtLeast
    split
    · rename_i hinner
      refine Nat.pos_of_ne_zero fun hm => ?_
      cases hinner.symm.trans (hlast hm)
    · exact Nat.zero_le m

/-- What is left of the characters behind a token. -/
theorem bulk_behind {token : Token} {rest : List Token} (hsize : token.kind.size = size)
    (hr : bulk (token :: rest) ≤ r + bulk tail) (hsuffix : tail <:+ rest) :
    size ≤ r ∧ bulk rest ≤ r - size + bulk tail := by
  have := bulk_le_of_suffix hsuffix
  rw [bulk_cons, hsize] at hr
  omega

/-- Taking the first of two tokens. -/
theorem CarriesAtPair.advance {second : Token.Kind} {f f' : Unit → TokenParser β}
    [Advances (f ())] (hlow : 0 < low) (hmid : kind.behindAtLeast = mid) (hsize : kind.size = 1)
    (h : 0 < r → CarriesAt second l tail tail' mid high (r - 1) same (f ()) (f' ())) :
    CarriesAtPair kind second l tail tail' low high r same (TokenParser.advance >>= f)
      (TokenParser.advance >>= f') := by
  intro n c c' b e hn hr hbeside hkind hsecond hrun htail
  obtain ⟨m, token, token', rest, rest', rfl, hc, hc', -, hnext, hm, hrest⟩ :=
    hbeside.exists_cons (hlow.trans_le hn)
  obtain rfl : token.kind = kind := hnext.trans hkind
  rw [hc] at hsecond hr ⊢
  rw [hc, run_bind_of (run_advance token rest _)] at hrun
  rw [hc', run_bind_of (run_advance token' rest' _)]
  have hbehind : (Cursor.behind token rest c.stop).next = second := by
    rw [← hsecond, Cursor.next, Cursor.second]
    cases rest <;> rfl
  have hbehind' : (f ()).run _ = some (b, e) := hrun
  have hsuffix : tail <:+ rest := htail.trans (Advances.reaches hbehind').suffix
  obtain ⟨hle, hleft⟩ := bulk_behind hsize hr hsuffix
  obtain ⟨b', e', k, hrun', hsame, hhigh, hk, hmore⟩ :=
    h hle m (.behind token rest c.stop) (.behind token' rest' c'.stop) b e (hmid ▸ hm) hleft hrest
      hbehind hrun htail
  exact ⟨b', e', k, hrun', hsame, hhigh, hk.trans (bulk_le_of_suffix (List.suffix_cons _ _)), hmore⟩

/-- Taking the next token. -/
theorem CarriesAt.advance {f f' : Unit → TokenParser β} [Advances (f ())] (hlow : 0 < low)
    (hmid : kind.behindAtLeast = mid) (hsize : kind.size = 1)
    (h : 0 < r → Carries l tail tail' mid high (r - 1) same (f ()) (f' ())) :
    CarriesAt kind l tail tail' low high r same (TokenParser.advance >>= f)
      (TokenParser.advance >>= f') :=
  fun n c c' b e hn hr hbeside hkind =>
    CarriesAtPair.advance hlow hmid hsize (fun hr => (h hr).atNext c.second) n c c' b e hn hr
      hbeside hkind rfl

/-- What carries over in front of a token does so in front of that and another. -/
theorem CarriesAt.pair {parser parser' : TokenParser β}
    (h : CarriesAt kind l tail tail' low high r same parser parser') (second : Token.Kind) :
    CarriesAtPair kind second l tail tail' low high r same parser parser' :=
  fun n c c' a d hlow hn hbeside hkind _ => h n c c' a d hlow hn hbeside hkind

/-- Looking at the token after the next one. -/
theorem CarriesAt.peekSecond {f f' : Token.Kind → TokenParser β} (hlow : 0 < low)
    (hinner : kind.isInner = true)
    (h : ∀ second, CarriesAtPair kind second l tail tail' low high r same (f second) (f' second)) :
    CarriesAt kind l tail tail' low high r same (TokenParser.peekSecond >>= f)
      (TokenParser.peekSecond >>= f') := by
  intro n c c' b e hn hr hbeside hkind hrun htail
  have hpositive := hlow.trans_le hn
  have hsecond : c.second = c'.second := by
    obtain ⟨m, rfl⟩ : ∃ m, n = m + 1 := ⟨n - 1, by omega⟩
    exact hbeside.like.second_eq (hkind ▸ hinner)
  rw [run_bind_of (run_peekSecond c)] at hrun
  rw [run_bind_of (run_peekSecond c'), ← hsecond]
  exact h c.second n c c' b e hn hr hbeside hkind rfl hrun htail

/-- A choice carries over in front of a token if both of its parts do. -/
theorem CarriesAt.ite {parser parser' other other' : TokenParser β} {p : Prop} [Decidable p]
    (hthen : p → CarriesAt kind l tail tail' low high r same parser parser')
    (helse : ¬p → CarriesAt kind l tail tail' low high r same other other') :
    CarriesAt kind l tail tail' low high r same (if p then parser else other)
      (if p then parser' else other') := by
  by_cases h : p
  · rw [if_pos h, if_pos h]
    exact hthen h
  · rw [if_neg h, if_neg h]
    exact helse h

/-- Going on in one way or another, by whether a token of a kind is next. Where the tail may be
reached, that of the second list must not go on with it. -/
theorem Carries.whenSized {parser parser' other other' : TokenParser β} [Advances parser]
    (htails : low = 0 → nextKind tail' ≠ kind) (hmid : kind.behindAtLeast = mid)
    (hsize : kind.size = size)
    (hthen : size ≤ r → Carries l tail tail' mid high (r - size) same parser parser')
    (helse : Carries l tail tail' low high r same other other') :
    Carries l tail tail' low high r same
      (TokenParser.found kind >>= fun isNext => if isNext = true then parser else other)
      (TokenParser.found kind >>= fun isNext => if isNext = true then parser' else other') := by
  intro n c c' b e hlow hr hbeside hrun htail
  obtain ⟨isNext, d, hfound, hrest⟩ := run_bind_eq_some.mp hrun
  by_cases hn : 0 < n
  · obtain ⟨m, token, token', rest, rest', rfl, hc, hc', hkinds, hnext, hm, hmore⟩ :=
      hbeside.exists_cons hn
    by_cases hkind : c.next = kind
    · obtain rfl : token.kind = kind := hnext.trans hkind
      rw [hc] at hr ⊢
      rw [hc, run_bind_of (run_found token rest _), if_pos rfl] at hrun
      rw [hc', hkinds, run_bind_of (run_found token' rest' _), if_pos rfl]
      have hthen' : parser.run _ = some (b, e) := hrun
      have hsuffix : tail <:+ rest := htail.trans (Advances.reaches hthen').suffix
      obtain ⟨hle, hleft⟩ := bulk_behind hsize hr hsuffix
      obtain ⟨b', e', k, hrun', hsame, hhigh, hk, hlast⟩ :=
        hthen hle m (.behind token rest c.stop) (.behind token' rest' c'.stop) b e (hmid ▸ hm)
          hleft hmore hrun htail
      exact ⟨b', e', k, hrun', hsame, hhigh,
        hk.trans (bulk_le_of_suffix (List.suffix_cons _ _)), hlast⟩
    · rw [run_bind_of (run_found_of_ne hkind)] at hrun
      rw [run_bind_of (run_found_of_ne (hbeside.next_eq hn ▸ hkind))]
      exact helse _ c c' b e hlow hr hbeside hrun htail
  · obtain rfl := Nat.eq_zero_of_not_pos hn
    obtain ⟨hrest₀, hrest₀'⟩ := hbeside.eq_of_zero
    rcases found_eq_some hfound with ⟨rfl, token, rest, hc, -, rfl⟩ | ⟨rfl, -, rfl⟩
    · -- the tail would be broken into
      have hthen' : parser.run _ = some (b, e) := hrest
      have hsuffix : tail <:+ rest := htail.trans (Advances.reaches hthen').suffix
      rw [← hrest₀, hc] at hsuffix
      exact absurd hsuffix.length_le (Nat.not_succ_le_self _)
    · have hne : c'.next ≠ kind := by
        rw [Cursor.next, hrest₀']
        exact htails (Nat.le_zero.mp hlow)
      rw [run_bind_of (run_found_of_ne hne)]
      exact helse 0 _ _ b e hlow hr hbeside hrest htail

/-- The same of a token with a character. -/
theorem Carries.whenFound {parser parser' other other' : TokenParser β} [Advances parser]
    (htails : low = 0 → nextKind tail' ≠ kind) (hmid : kind.behindAtLeast = mid)
    (hsize : kind.size = 1)
    (hthen : 0 < r → Carries l tail tail' mid high (r - 1) same parser parser')
    (helse : Carries l tail tail' low high r same other other') :
    Carries l tail tail' low high r same
      (TokenParser.found kind >>= fun isNext => if isNext = true then parser else other)
      (TokenParser.found kind >>= fun isNext => if isNext = true then parser' else other') :=
  .whenSized htails hmid hsize hthen helse

/-- Taking a token of a kind, and going on behind it. -/
theorem Carries.behindSized {f f' : Unit → TokenParser β} [Advances (f ())]
    (hmid : kind.behindAtLeast = mid) (hsize : kind.size = size)
    (h : size ≤ r → Carries l tail tail' mid high (r - size) same (f ()) (f' ())) :
    Carries l tail tail' low high r same (TokenParser.expect kind >>= f)
      (TokenParser.expect kind >>= f') := by
  have hfound : ∀ (g : Unit → TokenParser β), (TokenParser.expect kind >>= g)
      = TokenParser.found kind >>= fun isNext =>
          if isNext = true then g () else Alternative.failure := by
    intro g
    unfold TokenParser.expect
    rw [bind_assoc]
    congr 1
    funext isNext
    cases isNext with
    | true => exact pure_bind () g
    | false => rfl
  have hinside : Carries l tail tail' 1 high r same (TokenParser.expect kind >>= f)
      (TokenParser.expect kind >>= f') := by
    rw [hfound, hfound]
    exact .whenSized (fun h => absurd h Nat.one_ne_zero) hmid hsize h .failure
  intro n c c' b e _ hr hbeside hrun htail
  cases n with
  | succ n => exact hinside (n + 1) c c' b e (Nat.succ_pos n) hr hbeside hrun htail
  | zero =>
    -- the tail would be broken into
    obtain ⟨_, d, hexpect, hrest⟩ := run_bind_eq_some.mp hrun
    obtain ⟨token, rest, hc, -, rfl⟩ := expect_eq_some hexpect
    have hrun' : (f ()).run _ = some (b, e) := hrest
    have hsuffix : tail <:+ rest := htail.trans (Advances.reaches hrun').suffix
    rw [← hbeside.eq_of_zero.1, hc] at hsuffix
    exact absurd hsuffix.length_le (Nat.not_succ_le_self _)

/-- The same of a token with a character. -/
theorem Carries.behind {f f' : Unit → TokenParser β} [Advances (f ())]
    (hmid : kind.behindAtLeast = mid) (hsize : kind.size = 1)
    (h : 0 < r → Carries l tail tail' mid high (r - 1) same (f ()) (f' ())) :
    Carries l tail tail' low high r same (TokenParser.expect kind >>= f)
      (TokenParser.expect kind >>= f') := .behindSized hmid hsize h

/-- Taking a token of a kind. -/
theorem Carries.expect (hhigh : kind.behindAtLeast = high) :
    Carries l tail tail' low high r Eq (TokenParser.expect kind) (TokenParser.expect kind) := by
  rw [← bind_pure (TokenParser.expect kind)]
  exact .behindSized hhigh rfl fun _ => .pure rfl (Nat.le_refl high)

end Taking

end ExpectFile.Grammar
