import ExpectFile.Grammar.Lexer
import ExpectFile.Proofs.Grammar.Cursors

/-!
# Tokens that are alike, and parsers that agree on them

What a parser makes of a simple statement depends on the kinds of its tokens, up to the first one
that cannot stand inside of it, and on nothing else: not on where they are, nor on what comes
behind. `Like` says that two lists of tokens have the same kinds up to there, and `Agree` that two
parsers do the same on such lists. A parser counts its steps by the tokens that are left, so two
numbers go along: `r` bounds how many tokens the statement goes on for, `l` what they count for.

The closing brackets that are due change from token to token (`Token.Kind.turn`). `Agree` says what
a parser leaves of them, because the lexer asks for them at the end of a line.

* **`Agree.bind`**, **`Agree.map`**, **`Agree.ite`** — parsers that are put together agree if their
  parts do.
* **`Agree.found`**, **`Agree.expect`**, **`AgreeAt.advance`** — what takes a token.
* **`Agree.looping`**, **`Agree.commaItems`** — what repeats. The fuel does not matter.
-/

namespace ExpectFile.Grammar

open TokenParser

/-! ## The rest of a statement -/

/-- Whether a token can stand inside a simple statement: it is no mark of layout, and no semicolon.
-/
def Token.Kind.isInner : Token.Kind → Bool
  | .newline | .indent | .dedent | .finish => false
  | .operator symbol => symbol != ";"
  | _ => true

/-- What a token counts for. A literal may hold expressions, which are shorter than itself. -/
def Token.Kind.weight : Token.Kind → Nat
  | .literal content => content.letters.length + content.body.length + 2
  | _ => 1

theorem Token.Kind.weight_pos (kind : Token.Kind) : 0 < kind.weight := by
  cases kind <;> simp [weight]

/-- The closing brackets that are due behind a token inside a statement, innermost first, given
those that are due in front of it. -/
def Token.Kind.turn (due : List String) : Token.Kind → Option (List String)
  | .newline | .indent | .dedent | .finish => none
  | .operator symbol =>
    if symbol = ";" then none
    else match closingBracket? symbol with
      | some closing => some (closing :: due)
      | none =>
        if [")", "]", "\x7d"].contains symbol then
          match due with
          | expected :: others => if symbol = expected then some others else none
          | [] => none
        else some due
  | _ => some due

/-- Whether an operator may stand inside a statement and is no bracket. -/
def leavesBrackets (symbol : String) : Bool :=
  symbol != ";" && (closingBracket? symbol).isNone && !List.contains [")", "]", "\x7d"] symbol

theorem turn_of_leavesBrackets {symbol : String} (h : leavesBrackets symbol = true)
    (due : List String) : (Token.Kind.operator symbol).turn due = some due := by
  simp only [leavesBrackets, Bool.and_eq_true, bne_iff_ne, ne_eq, Option.isNone_iff_eq_none,
    Bool.not_eq_true'] at h
  simp only [Token.Kind.turn, if_neg h.1.1, h.1.2, h.2, Bool.false_eq_true, if_false]

theorem Token.Kind.isInner_of_turn {kind : Token.Kind} {due left : List String}
    (h : kind.turn due = some left) : kind.isInner = true := by
  cases kind with
  | operator symbol =>
    simp only [turn] at h
    split at h
    · exact absurd h nofun
    · exact bne_iff_ne.mpr ‹_›
  | newline | indent | dedent | finish => exact absurd h nofun
  | _ => rfl

/-- How many tokens the statement goes on for. -/
def room : List Token → Nat
  | [] => 0
  | token :: rest => if token.kind.isInner then room rest + 1 else 0

/-- What these tokens count for. -/
def load : List Token → Nat
  | [] => 0
  | token :: rest => if token.kind.isInner then load rest + token.kind.weight else 0

/-- Two lists of tokens are alike up to the end of the statement, places apart. -/
inductive Like : List Token → List Token → Prop where
  | stop {token token' : Token} {rest rest' : List Token} (hkind : token.kind = token'.kind)
      (hstop : token.kind.isInner = false) : Like (token :: rest) (token' :: rest')
  | inner {token token' : Token} {rest rest' : List Token} (hkind : token.kind = token'.kind)
      (hinner : token.kind.isInner = true) (hrest : Like rest rest') :
      Like (token :: rest) (token' :: rest')

/-- Two cursors move along together, over tokens inside the statement; the closing brackets that are
due change from the first list to the second. -/
inductive Along : List String → List String → Cursor → Cursor → Cursor → Cursor → Prop where
  | refl (due : List String) (c c' : Cursor) : Along due due c c' c c'
  | take {due next left : List String} {token token' : Token} {rest rest' : List Token}
      {stop stop' : Position} {d d' : Cursor} (hkind : token.kind = token'.kind)
      (hturn : token.kind.turn due = some next)
      (h : Along next left ⟨rest, token.stop⟩ ⟨rest', token'.stop⟩ d d') :
      Along due left ⟨token :: rest, stop⟩ ⟨token' :: rest', stop'⟩ d d'

/-- Two results are the same: none, or a value and two cursors that have moved along. -/
inductive Same {α : Type} (due left : List String) (c c' : Cursor) :
    Option (α × Cursor) → Option (α × Cursor) → Prop where
  | none : Same due left c c' none none
  | some (a : α) {d d' : Cursor} (h : Along due left c c' d d') :
      Same due left c c' (some (a, d)) (some (a, d'))

variable {α β : Type} {due next left : List String} {r l : Nat} {c c' d d' e e' : Cursor}

namespace Along

theorem trans (h : Along due next c c' d d') (h' : Along next left d d' e e') :
    Along due left c c' e e' := by
  induction h with
  | refl => exact h'
  | take hkind hturn _ ih => exact .take hkind hturn (ih h')

theorem like (h : Along due left c c' d d') (hlike : Like c.rest c'.rest) :
    Like d.rest d'.rest := by
  induction h with
  | refl => exact hlike
  | take hkind hturn _ ih =>
    cases hlike with
    | stop _ hstop =>
      rw [Token.Kind.isInner_of_turn hturn] at hstop
      cases hstop
    | inner _ _ hrest => exact ih hrest

theorem room_le (h : Along due left c c' d d') : room d.rest ≤ room c.rest := by
  induction h with
  | refl => exact Nat.le_refl _
  | take hkind hturn _ ih =>
    rw [room, if_pos (Token.Kind.isInner_of_turn hturn)]
    exact Nat.le_succ_of_le ih

theorem load_le (h : Along due left c c' d d') : load d.rest ≤ load c.rest := by
  induction h with
  | refl => exact Nat.le_refl _
  | take hkind hturn _ ih =>
    rw [load, if_pos (Token.Kind.isInner_of_turn hturn)]
    exact Nat.le_trans ih (Nat.le_add_right _ _)

end Along

/-- One parser after the other. -/
theorem Same.bind {x x' : Option (α × Cursor)} {g g' : α × Cursor → Option (β × Cursor)}
    (h : Same due next c c' x x')
    (hg : ∀ a d d', Along due next c c' d d' → Same next left d d' (g (a, d)) (g' (a, d'))) :
    Same due left c c' (x >>= g) (x' >>= g') := by
  cases h with
  | none => exact .none
  | some a halong =>
    rename_i d d'
    show Same due left c c' (g (a, d)) (g' (a, d'))
    have hmore := hg a d d' halong
    revert hmore
    generalize g (a, d) = y
    generalize g' (a, d') = y'
    intro hmore
    cases hmore with
    | none => exact .none
    | some b hrest => exact .some b (halong.trans hrest)

/-- **Two parsers agree** at cursors that are alike, have at most `r` tokens left in the statement,
and tokens that count at most for `l`. If they go through, the closing brackets that are due change
from the first list to the second. -/
def Agree (due left : List String) (r l : Nat) (parser parser' : TokenParser α) : Prop :=
  ∀ c c', Like c.rest c'.rest → room c.rest ≤ r → load c.rest ≤ l →
    Same due left c c' (parser.run c) (parser'.run c')

/-- The same where the next token is of a kind. -/
def AgreeAt (kind : Token.Kind) (due left : List String) (r l : Nat)
    (parser parser' : TokenParser α) : Prop :=
  ∀ c c', Like c.rest c'.rest → room c.rest ≤ r → load c.rest ≤ l → c.next = kind →
    Same due left c c' (parser.run c) (parser'.run c')

/-- The same where the next two tokens are of two kinds. -/
def AgreeAtPair (kind second : Token.Kind) (due left : List String) (r l : Nat)
    (parser parser' : TokenParser α) : Prop :=
  ∀ c c', Like c.rest c'.rest → room c.rest ≤ r → load c.rest ≤ l → c.next = kind →
    c.second = second → Same due left c c' (parser.run c) (parser'.run c')

theorem Like.next_eq (h : Like c.rest c'.rest) : c.next = c'.next := by
  obtain ⟨rest, stop⟩ := c
  obtain ⟨rest', stop'⟩ := c'
  cases h with
  | stop hkind _ => exact hkind
  | inner hkind _ _ => exact hkind

theorem Like.second_eq (h : Like c.rest c'.rest) (hinner : c.next.isInner = true) :
    c.second = c'.second := by
  obtain ⟨rest, stop⟩ := c
  obtain ⟨rest', stop'⟩ := c'
  cases h with
  | stop hkind hstop => exact absurd (hinner.symm.trans hstop) nofun
  | inner _ _ hrest =>
    cases hrest with
    | stop hkind _ => exact hkind
    | inner hkind _ _ => exact hkind

theorem Like.room_eq {ts ts' : List Token} (h : Like ts ts') : room ts = room ts' := by
  induction h with
  | stop hkind hstop => rw [room, room, ← hkind, if_neg (by simp [hstop]), if_neg (by simp [hstop])]
  | inner hkind hinner _ ih => rw [room, room, ← hkind, if_pos hinner, if_pos hinner, ih]

theorem Like.room_lt_length {ts ts' : List Token} (h : Like ts ts') : room ts < ts.length := by
  induction h with
  | stop hkind hstop =>
    rw [room, if_neg (by simp [hstop]), List.length_cons]
    exact Nat.succ_pos _
  | inner hkind hinner _ ih =>
    rw [room, if_pos hinner, List.length_cons]
    exact Nat.succ_lt_succ ih

theorem Like.symm {ts ts' : List Token} (h : Like ts ts') : Like ts' ts := by
  induction h with
  | stop hkind hstop => exact .stop hkind.symm (hkind ▸ hstop)
  | inner hkind hinner _ ih => exact .inner hkind.symm (hkind ▸ hinner) ih

/-- A token inside a statement is visible, so its stop is kept. -/
theorem behind_of_isInner {token : Token} (h : token.kind.isInner = true) (rest : List Token)
    (stop : Position) : Cursor.behind token rest stop = ⟨rest, token.stop⟩ := by
  have hvisible : token.isVisible = true := by
    unfold Token.Kind.isInner at h
    unfold Token.isVisible
    split at h
    all_goals simp_all
  rw [Cursor.behind, if_pos hvisible]

namespace Agree

variable {parser parser' : TokenParser α} {f f' : α → TokenParser β} {r' l' : Nat}

theorem mono (h : Agree due left r l parser parser') (hr : r' ≤ r) (hl : l' ≤ l) :
    Agree due left r' l' parser parser' :=
  fun c c' hlike hroom hload => h c c' hlike (Nat.le_trans hroom hr) (Nat.le_trans hload hl)

theorem pure (a : α) : Agree due due r l (pure a : TokenParser α) (Pure.pure a) :=
  fun c c' _ _ _ => .some a (.refl due c c')

theorem failure : Agree due left r l (failure : TokenParser α) Alternative.failure :=
  fun _ _ _ _ _ => .none

/-- What would follow a failure does not matter. -/
theorem failing : Agree due left r l ((Alternative.failure : TokenParser α) >>= f)
    (Alternative.failure >>= f') :=
  fun _ _ _ _ _ => .none

/-- One parser after the other. -/
theorem bind (h : Agree due next r l parser parser') (hf : ∀ a, Agree next left r l (f a) (f' a)) :
    Agree due left r l (parser >>= f) (parser' >>= f') := by
  intro c c' hlike hroom hload
  rw [StateT.run_bind, StateT.run_bind]
  refine (h c c' hlike hroom hload).bind fun a d d' halong => ?_
  exact hf a d d' (halong.like hlike) (Nat.le_trans halong.room_le hroom)
    (Nat.le_trans halong.load_le hload)

theorem map (h : Agree due left r l parser parser') (g : α → β) :
    Agree due left r l (g <$> parser) (g <$> parser') :=
  h.bind fun a => .pure (g a)

theorem ite {p : Prop} [Decidable p] {other other' : TokenParser α}
    (hthen : p → Agree due left r l parser parser') (helse : ¬p → Agree due left r l other other') :
    Agree due left r l (if p then parser else other) (if p then parser' else other') := by
  by_cases h : p
  · rw [if_pos h, if_pos h]
    exact hthen h
  · rw [if_neg h, if_neg h]
    exact helse h

/-- What agrees agrees at every token. -/
theorem atNext (h : Agree due left r l parser parser') (kind : Token.Kind) :
    AgreeAt kind due left r l parser parser' :=
  fun c c' hlike hroom hload _ => h c c' hlike hroom hload

/-- Looking at the next token. -/
theorem peek {f f' : Token.Kind → TokenParser β}
    (h : ∀ kind, AgreeAt kind due left r l (f kind) (f' kind)) :
    Agree due left r l (TokenParser.peek >>= f) (TokenParser.peek >>= f') := by
  intro c c' hlike hroom hload
  rw [run_bind_of (run_peek c), run_bind_of (run_peek c'), ← hlike.next_eq]
  exact h c.next c c' hlike hroom hload rfl

/-- Looking at the number of tokens that are left. It is greater than that of the tokens of the
statement, and nothing else is known of it. -/
theorem remaining {f f' : Nat → TokenParser β}
    (h : ∀ r' ≤ r, ∀ m m', r' < m → r' < m' → Agree due left r' l (f m) (f' m')) :
    Agree due left r l (TokenParser.remaining >>= f) (TokenParser.remaining >>= f') := by
  intro c c' hlike hroom hload
  rw [run_bind_of (run_remaining c), run_bind_of (run_remaining c')]
  refine h (room c.rest) hroom _ _ hlike.room_lt_length ?_ c c' hlike (Nat.le_refl _) hload
  rw [hlike.room_eq]
  exact hlike.symm.room_lt_length

end Agree

namespace AgreeAt

variable {kind : Token.Kind} {parser parser' other other' : TokenParser β}

theorem mono {r' l' : Nat} (h : AgreeAt kind due left r l parser parser') (hr : r' ≤ r)
    (hl : l' ≤ l) : AgreeAt kind due left r' l' parser parser' :=
  fun c c' hlike hroom hload => h c c' hlike (Nat.le_trans hroom hr) (Nat.le_trans hload hl)

theorem ite {p : Prop} [Decidable p] (hthen : p → AgreeAt kind due left r l parser parser')
    (helse : ¬p → AgreeAt kind due left r l other other') :
    AgreeAt kind due left r l (if p then parser else other) (if p then parser' else other') := by
  by_cases h : p
  · rw [if_pos h, if_pos h]
    exact hthen h
  · rw [if_neg h, if_neg h]
    exact helse h

theorem pair (h : AgreeAt kind due left r l parser parser') (second : Token.Kind) :
    AgreeAtPair kind second due left r l parser parser' :=
  fun c c' hlike hroom hload hnext _ => h c c' hlike hroom hload hnext

/-- Looking at the token after the next one. Where the next one ends the statement, there is nothing
that the two cursors would have in common. -/
theorem peekSecond {f f' : Token.Kind → TokenParser β}
    (h : kind.isInner = true → ∀ second,
      AgreeAtPair kind second due left r l (f second) (f' second))
    (hout : kind.isInner = false → ∀ second second',
      AgreeAt kind due left r l (f second) (f' second')) :
    AgreeAt kind due left r l (TokenParser.peekSecond >>= f) (TokenParser.peekSecond >>= f') := by
  intro c c' hlike hroom hload hnext
  rw [run_bind_of (run_peekSecond c), run_bind_of (run_peekSecond c')]
  cases hinner : kind.isInner with
  | false => exact hout hinner _ _ c c' hlike hroom hload hnext
  | true =>
    rw [← hlike.second_eq (hnext ▸ hinner)]
    exact h hinner c.second c c' hlike hroom hload hnext rfl

end AgreeAt

section Taking

variable {kind : Token.Kind}

theorem AgreeAtPair.ite {second : Token.Kind} {parser parser' other other' : TokenParser β}
    {p : Prop} [Decidable p] (hthen : p → AgreeAtPair kind second due left r l parser parser')
    (helse : ¬p → AgreeAtPair kind second due left r l other other') :
    AgreeAtPair kind second due left r l (if p then parser else other)
      (if p then parser' else other') := by
  by_cases h : p
  · rw [if_pos h, if_pos h]
    exact hthen h
  · rw [if_neg h, if_neg h]
    exact helse h

/-- Looking at a token that is known. -/
theorem AgreeAtPair.peek {second : Token.Kind} {f f' : Token.Kind → TokenParser β}
    (h : AgreeAtPair kind second due left r l (f kind) (f' kind)) :
    AgreeAtPair kind second due left r l (TokenParser.peek >>= f) (TokenParser.peek >>= f') := by
  intro c c' hlike hroom hload hnext hsecond
  rw [run_bind_of (run_peek c), run_bind_of (run_peek c'), ← hlike.next_eq, hnext]
  exact h c c' hlike hroom hload hnext hsecond

/-- Taking the first of two tokens. -/
theorem AgreeAtPair.advance {second : Token.Kind} {f f' : Unit → TokenParser β}
    (hturn : kind.turn due = some next)
    (h : 0 < r → kind.weight ≤ l →
      AgreeAt second next left (r - 1) (l - kind.weight) (f ()) (f' ())) :
    AgreeAtPair kind second due left r l (TokenParser.advance >>= f)
      (TokenParser.advance >>= f') := by
  intro c c' hlike hroom hload hnext hsecond
  have hinner := Token.Kind.isInner_of_turn hturn
  obtain ⟨tokens, stop⟩ := c
  obtain ⟨tokens', stop'⟩ := c'
  cases hlike with
  | stop hkind hstop =>
    obtain rfl : _ = kind := hnext
    exact absurd (hinner.symm.trans hstop) nofun
  | @inner token token' rest rest' hkind _ hrest =>
    obtain rfl : token.kind = kind := hnext
    have hinner' : token'.kind.isInner = true := hkind ▸ hinner
    have hroom' : room rest + 1 ≤ r := by simpa [room, hinner] using hroom
    have hload' : load rest + token.kind.weight ≤ l := by simpa [load, hinner] using hload
    rw [run_bind_of (run_advance token rest stop), run_bind_of (run_advance token' rest' stop'),
      behind_of_isInner hinner, behind_of_isInner hinner']
    -- the token that was the second is the next one now
    have hnext : (Cursor.mk rest token.stop).next = second := by
      rw [← hsecond, Cursor.next, Cursor.second]
      cases rest <;> rfl
    have hsame := h (by omega) (by omega) ⟨rest, token.stop⟩ ⟨rest', token'.stop⟩ hrest
      (show room rest ≤ r - 1 by omega) (show load rest ≤ l - token.kind.weight by omega) hnext
    revert hsame
    generalize (f ()).run _ = x
    generalize (f' ()).run _ = x'
    intro hsame
    cases hsame with
    | none => exact .none
    | some a halong => exact .some a (.take hkind hturn halong)

/-- Taking the next token. -/
theorem AgreeAt.advance {f f' : Unit → TokenParser β} (hturn : kind.turn due = some next)
    (h : 0 < r → kind.weight ≤ l →
      Agree next left (r - 1) (l - kind.weight) (f ()) (f' ())) :
    AgreeAt kind due left r l (TokenParser.advance >>= f) (TokenParser.advance >>= f') :=
  fun c c' hlike hroom hload hnext =>
    AgreeAtPair.advance hturn (fun hr hl => (h hr hl).atNext _) c c' hlike hroom hload hnext rfl

/-- Taking the next token where nothing is made of it. -/
theorem AgreeAt.taking {parser parser' : TokenParser β} (hturn : kind.turn due = some next)
    (h : Agree next left r l parser parser') :
    AgreeAt kind due left r l (TokenParser.advance >>= fun _ => parser)
      (TokenParser.advance >>= fun _ => parser') :=
  .advance hturn fun _ _ => h.mono (Nat.sub_le r 1) (Nat.sub_le l _)

/-- Taking the next token if it is of a kind. -/
theorem Agree.found {f f' : Bool → TokenParser β} (hturn : kind.turn due = some next)
    (htrue : 0 < r → kind.weight ≤ l →
      Agree next left (r - 1) (l - kind.weight) (f true) (f' true))
    (hfalse : Agree due left r l (f false) (f' false)) :
    Agree due left r l (TokenParser.found kind >>= f) (TokenParser.found kind >>= f') := by
  unfold TokenParser.found
  simp only [bind_assoc]
  refine .peek fun found => ?_
  by_cases h : found = kind
  · subst h
    simp only [if_pos, bind_assoc, pure_bind]
    exact .advance hturn htrue
  · simp only [if_neg h, pure_bind]
    exact hfalse.atNext found

variable {parser parser' other other' : TokenParser β}

/-- Going on in one way or another, by whether a token of a kind is next. -/
theorem Agree.whenFound (hturn : kind.turn due = some next)
    (hthen : 0 < r → kind.weight ≤ l →
      Agree next left (r - 1) (l - kind.weight) parser parser')
    (helse : Agree due left r l other other') :
    Agree due left r l
      (TokenParser.found kind >>= fun isNext => if isNext = true then parser else other)
      (TokenParser.found kind >>= fun isNext => if isNext = true then parser' else other') :=
  .found hturn hthen helse

/-- The same where only the number of tokens matters. -/
theorem Agree.nextFound (hturn : kind.turn due = some next)
    (hthen : 0 < r → Agree next left (r - 1) l parser parser')
    (helse : Agree due left r l other other') :
    Agree due left r l
      (TokenParser.found kind >>= fun isNext => if isNext = true then parser else other)
      (TokenParser.found kind >>= fun isNext => if isNext = true then parser' else other') :=
  .found hturn (fun hr _ => (hthen hr).mono (Nat.le_refl _) (Nat.sub_le l _)) helse

/-- The same where nothing is made of the token that is taken. -/
theorem Agree.ifFound (hturn : kind.turn due = some next)
    (hthen : Agree next left r l parser parser') (helse : Agree due left r l other other') :
    Agree due left r l
      (TokenParser.found kind >>= fun isNext => if isNext = true then parser else other)
      (TokenParser.found kind >>= fun isNext => if isNext = true then parser' else other') :=
  .found hturn (fun _ _ => hthen.mono (Nat.sub_le r 1) (Nat.sub_le l _)) helse

/-- Taking a token of a kind. -/
theorem Agree.expect (hturn : kind.turn due = some next) :
    Agree due next r l (TokenParser.expect kind) (TokenParser.expect kind) :=
  .ifFound hturn (.pure ()) .failure

/-- Taking a token of a kind, and going on behind it. -/
theorem Agree.behind {f f' : Unit → TokenParser β} (hturn : kind.turn due = some next)
    (h : 0 < r → kind.weight ≤ l →
      Agree next left (r - 1) (l - kind.weight) (f ()) (f' ())) :
    Agree due left r l (TokenParser.expect kind >>= f) (TokenParser.expect kind >>= f') := by
  unfold TokenParser.expect
  simp only [bind_assoc]
  exact .found hturn h .failure

end Taking

/-! ## Lists -/

/-- A loop with the number of tokens that are left as its fuel, and what is made of its result. -/
theorem Agree.looping {loop loop' : Nat → TokenParser α} {f f' : α → TokenParser β}
    (h : ∀ r' ≤ r, ∀ m m', r' < m → r' < m' → Agree due next r' l (loop m) (loop' m'))
    (hf : ∀ a, Agree next left r l (f a) (f' a)) :
    Agree due left r l (TokenParser.remaining >>= fun fuel => loop fuel >>= f)
      (TokenParser.remaining >>= fun fuel => loop' fuel >>= f') :=
  .remaining fun r' hr m m' hm hm' =>
    (h r' hr m m' hm hm').bind fun a => (hf a).mono hr (Nat.le_refl l)

/-- Items separated by commas. The fuel does not matter as long as it is greater than the number of
tokens: every comma takes one. -/
theorem Agree.commaItems {item item' : TokenParser α} {starts : Token.Kind → Bool}
    (h : Agree due due r l item item') {fuel fuel' : Nat} (hfuel : r < fuel) (hfuel' : r < fuel') :
    Agree due due r l (commaItems starts item fuel)
      (TokenParser.commaItems starts item' fuel') := by
  induction fuel generalizing r fuel' with
  | zero => omega
  | succ fuel ih =>
    cases fuel' with
    | zero => omega
    | succ fuel' =>
      unfold TokenParser.commaItems
      refine h.bind fun first => .nextFound rfl (fun hr => ?_) (.pure _)
      refine .peek fun next => (Agree.ite (fun _ => ?_) fun _ => .pure _).atNext next
      refine .bind (ih (h.mono (Nat.sub_le r 1) (Nat.le_refl l)) ?_ ?_) fun _ => .pure _ <;> omega

/-- Items separated by commas, with what is made of them. -/
theorem Agree.items {item item' : TokenParser α} {starts : Token.Kind → Bool}
    {f f' : List α × Bool → TokenParser β} (h : Agree due due r l item item')
    (hf : ∀ found, Agree due left r l (f found) (f' found)) :
    Agree due left r l
      (TokenParser.remaining >>= fun fuel => TokenParser.commaItems starts item fuel >>= f)
      (TokenParser.remaining >>= fun fuel => TokenParser.commaItems starts item' fuel >>= f') :=
  .looping (fun _ hr _ _ hm hm' => (h.mono hr (Nat.le_refl l)).commaItems hm hm') hf

/-- The same without a comma at the end. -/
theorem Agree.commaList {item item' : TokenParser α} (h : Agree due due r l item item')
    {fuel fuel' : Nat} (hfuel : r < fuel) (hfuel' : r < fuel') :
    Agree due due r l (commaList item fuel) (TokenParser.commaList item' fuel') := by
  induction fuel generalizing r fuel' with
  | zero => omega
  | succ fuel ih =>
    cases fuel' with
    | zero => omega
    | succ fuel' =>
      unfold TokenParser.commaList
      refine h.bind fun first => .nextFound rfl (fun hr => ?_) (.pure _)
      refine .bind (ih (h.mono (Nat.sub_le r 1) (Nat.le_refl l)) ?_ ?_) fun _ => .pure _ <;> omega

end ExpectFile.Grammar
