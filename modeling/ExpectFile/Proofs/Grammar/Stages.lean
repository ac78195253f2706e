import ExpectFile.Proofs.Grammar.PatternAgreement

/-!
# Stages of a program

The statements of a program are not taken apart one by one here. It is enough to know where a reader
stands who looks at the next token only: at the start of a line, in a line that begins a compound
statement, or in a simple statement outside of blocks. `Stage.after` is the step that one token
makes, `Path` are steps one after the other, and a parser `Moves` from one stage to another if the
tokens that it takes are such a path.

* **`Stage.after_newline`**, **`Stage.after_indent`**, **`Stage.after_dedent`** — the marks of
  layout.
* **`Moves.bind`**, **`Moves.orElse`**, **`Moves.whenFound`** — parsers that are put together.
* **`Moves.of_agree`** — what stays inside of a statement moves along in its line.
-/

namespace ExpectFile.Grammar

open TokenParser

/-! ## Stages -/

/-- Where a reader of statements stands, if it looks at no more than the next token and at the end
of the line. -/
inductive Stage where
  /-- At the start of a line, in a block that is nested so deep. -/
  | line (depth : Nat)
  /-- In a line that begins a compound statement, or that is in a block. -/
  | head (depth : Nat)
  /-- At the start of a line outside of blocks, where none begins. -/
  | top
  /-- Behind a semicolon outside of blocks. -/
  | next
  /-- In a simple statement outside of blocks, with closing brackets due. -/
  | mid (due : List String)
  /-- Behind a simple statement outside of blocks. -/
  | done
deriving DecidableEq

/-- Whether a block begins behind the line, which is a single statement then. -/
def opens : List Token → Bool
  | [] => false
  | token :: rest =>
    if token.kind = .newline then rest.head?.any (·.kind = .indent)
    else token.kind.isInner && opens rest

/-- The keywords that begin a compound statement, or a further part of one. -/
def compoundWords : List String :=
  ["if", "elif", "else", "while", "for", "with", "try", "except", "finally", "def", "class", "async"]

/-- Whether a compound statement, or a further part of one, begins with a token, whatever follows.
-/
def Token.Kind.beginsCompound : Token.Kind → Bool
  | .keyword word => compoundWords.contains word
  | .operator symbol => symbol == "@"
  | _ => false

/-- The stage behind one more token. `opened` says whether a block begins behind the line. -/
def Stage.after (opened : Bool) : Stage → Token.Kind → Option Stage
  | .line depth, kind =>
    if kind = .indent then some (.line (depth + 1))
    else if kind = .dedent then (if depth = 0 then none else some (.line (depth - 1)))
    else if kind.isInner && (depth != 0 || (kind.beginsCompound || opened)) then some (.head depth)
    else none
  | .top, kind => if kind.isInner && (kind.beginsCompound || opened) then some (.head 0) else none
  | .head depth, kind =>
    if kind = .newline then some (.line depth)
    else if kind.isInner || kind = .operator ";" then some (.head depth)
    else none
  | .next, kind => if kind = .newline then some .top else none
  | .mid due, kind =>
    if kind.isInner then (kind.turn due).map .mid
    else if due.isEmpty then behind kind else none
  | .done, kind => behind kind
where
  /-- The stage behind the mark at the end of a simple statement. -/
  behind (kind : Token.Kind) : Option Stage :=
    if kind = .newline then some .top else if kind = .operator ";" then some .next else none

/-- Going through tokens, from one stage to another. -/
inductive Path : Stage → List Token → Stage → List Token → Prop where
  | refl (σ : Stage) (ts : List Token) : Path σ ts σ ts
  | take {σ τ υ : Stage} {token : Token} {rest ts : List Token}
      (hafter : σ.after (opens (token :: rest)) token.kind = some τ) (h : Path τ rest υ ts) :
      Path σ (token :: rest) υ ts

/-- The end of the text is still to come. -/
def Closed (ts : List Token) : Prop := ∃ token ∈ ts, token.kind = .finish

/-- Nothing comes behind the end of the text. -/
theorem Stage.after_finish (opened : Bool) (σ : Stage) : σ.after opened .finish = none := by
  cases σ <;> simp [after, after.behind, Token.Kind.isInner]

/-- The end of a line leads to the start of the next one, at the same depth. -/
theorem Stage.after_newline (opened : Bool) (depth : Nat) :
    (Stage.head depth).after opened .newline = some (.line depth) := by simp [after]

/-- Behind a semicolon the line goes on. -/
theorem Stage.after_semicolon (opened : Bool) (depth : Nat) :
    (Stage.head depth).after opened (.operator ";") = some (.head depth) := by simp [after]

/-- An indent leads one level deeper. -/
theorem Stage.after_indent (opened : Bool) (depth : Nat) :
    (Stage.line depth).after opened .indent = some (.line (depth + 1)) := by simp [after]

/-- A dedent leads back. -/
theorem Stage.after_dedent (opened : Bool) (depth : Nat) :
    (Stage.line (depth + 1)).after opened .dedent = some (.line depth) := by simp [after]

/-- Tokens inside of a statement stay in its line. -/
theorem Stage.after_head {opened : Bool} {kind : Token.Kind} (depth : Nat)
    (h : kind.isInner = true) : (Stage.head depth).after opened kind = some (.head depth) := by
  have hne : kind ≠ .newline := by
    rintro rfl
    exact absurd h nofun
  simp [after, hne, h]

/-- In a block, every line is passed over. -/
theorem Stage.after_line {kind : Token.Kind} (opened : Bool) (depth : Nat)
    (h : kind.isInner = true) :
    (Stage.line (depth + 1)).after opened kind = some (.head (depth + 1)) := by
  have hindent : kind ≠ .indent := by
    rintro rfl
    exact absurd h nofun
  have hdedent : kind ≠ .dedent := by
    rintro rfl
    exact absurd h nofun
  simp [after, hindent, hdedent, h]

/-- A stage from which compound statements of a depth can begin. -/
def Stage.Enters (σ : Stage) (depth : Nat) : Prop :=
  ∀ opened kind, kind.isInner = true → (kind.beginsCompound || opened) = true →
    σ.after opened kind = some (.head depth)

/-- Compound statements begin at the start of a line in any block. -/
theorem Stage.enters_line (depth : Nat) : (Stage.line depth).Enters depth := by
  intro opened kind hinner hbegins
  have hindent : kind ≠ .indent := by
    rintro rfl
    exact absurd hinner nofun
  have hdedent : kind ≠ .dedent := by
    rintro rfl
    exact absurd hinner nofun
  simp [after, hindent, hdedent, hinner, hbegins]

/-- Outside of blocks they begin at the start of a line. -/
theorem Stage.enters_top : Stage.top.Enters 0 := by
  intro opened kind hinner hbegins
  simp [after, hinner, hbegins]

variable {α β : Type} {σ τ υ : Stage} {ts ts' ts'' : List Token} {depth : Nat}

namespace Path

/-- Paths are put together. -/
theorem trans (h : Path σ ts τ ts') (h' : Path τ ts' υ ts'') : Path σ ts υ ts'' := by
  induction h with
  | refl => exact h'
  | take hafter _ ih => exact .take hafter (ih h')

/-- No path leads past the end of the text. -/
theorem closed (h : Path σ ts τ ts') (hclosed : Closed ts) : Closed ts' := by
  induction h with
  | refl => exact hclosed
  | take hafter _ ih =>
    obtain ⟨other, hmem, hkind⟩ := hclosed
    refine ih ⟨other, ?_, hkind⟩
    rcases List.mem_cons.mp hmem with rfl | hmem
    · rw [hkind, Stage.after_finish] at hafter
      exact absurd hafter nofun
    · exact hmem

/-- Tokens inside a statement do not lead out of a line. -/
theorem of_along {due left : List String} {c c' d d' : Cursor} (h : Along due left c c' d d')
    (depth : Nat) : Path (.head depth) c.rest (.head depth) d.rest := by
  induction h with
  | refl => exact .refl _ _
  | take _ hturn _ ih => exact .take (Stage.after_head depth (Token.Kind.isInner_of_turn hturn)) ih

end Path

/-! ## Parsers that move from stage to stage -/

/-- A parser goes from one stage to another, which may depend on its result. -/
def Moves (σ : Stage) (post : α → Stage) (parser : TokenParser α) : Prop :=
  ∀ c a d, Closed c.rest → parser.run c = some (a, d) → Path σ c.rest (post a) d.rest

/-- The same where the next token is of a kind. -/
def MovesAt (kind : Token.Kind) (σ : Stage) (post : α → Stage) (parser : TokenParser α) : Prop :=
  ∀ c a d, Closed c.rest → c.next = kind → parser.run c = some (a, d) →
    Path σ c.rest (post a) d.rest

/-- The same where the next two tokens are of two kinds. -/
def MovesAtPair (kind second : Token.Kind) (σ : Stage) (post : α → Stage)
    (parser : TokenParser α) : Prop :=
  ∀ c a d, Closed c.rest → c.next = kind → c.second = second → parser.run c = some (a, d) →
    Path σ c.rest (post a) d.rest

/-- Where the next token starts. -/
theorem eq_of_run_start {c d : Cursor} {position : Position}
    (h : TokenParser.start.run c = some (position, d)) :
    d = c ∧ ∃ token rest, c.rest = token :: rest ∧ token.start = position := by
  obtain ⟨rest, stop⟩ := c
  cases rest with
  | nil => exact absurd h nofun
  | cons token rest =>
    rw [run_start] at h
    obtain ⟨rfl, rfl⟩ := Prod.mk.inj (Option.some.inj h)
    exact ⟨rfl, token, rest, rfl, rfl⟩

namespace Moves

variable {post : α → Stage} {post' : β → Stage} {parser other : TokenParser α}
  {f : α → TokenParser β}

/-- **One parser after the other**, where the second begins at the stage that the first has come to.
-/
theorem bind (h : Moves σ post parser) (hf : ∀ a, Moves (post a) post' (f a)) :
    Moves σ post' (parser >>= f) := by
  intro c b e hclosed hrun
  obtain ⟨a, d, hfirst, hrest⟩ := run_bind_eq_some.mp hrun
  have hpath := h c a d hclosed hfirst
  exact hpath.trans (hf a d b e (hpath.closed hclosed) hrest)

/-- A result moves nothing. -/
theorem pure {a : α} (h : post a = σ) : Moves σ post (pure a) := by
  rintro c _ _ - ⟨⟩
  rw [h]
  exact .refl σ c.rest

/-- A parser that fails moves to any stage. -/
theorem failure : Moves σ post (failure : TokenParser α) := nofun

/-- So does one that fails first. -/
theorem failing : Moves σ post' ((Alternative.failure : TokenParser α) >>= f) := nofun

/-- A choice by a condition moves as its parts do. -/
theorem ite {p : Prop} [Decidable p] (hthen : p → Moves σ post parser)
    (helse : ¬p → Moves σ post other) : Moves σ post (if p then parser else other) := by
  by_cases h : p
  · rw [if_pos h]
    exact hthen h
  · rw [if_neg h]
    exact helse h

/-- A choice between two parsers moves as they do, since both begin at the same stage. -/
theorem orElse (h : Moves σ post parser) (h' : Moves σ post other) :
    Moves σ post (parser <|> other) := by
  intro c a d hclosed hrun
  have hrun : (parser.run c).orElse (fun _ => other.run c) = some (a, d) := hrun
  cases hfirst : parser.run c with
  | none =>
    rw [hfirst] at hrun
    exact h' c a d hclosed hrun
  | some result =>
    rw [hfirst] at hrun
    obtain rfl := Option.some.inj hrun
    exact h c a d hclosed hfirst

/-- What takes no token does not move. -/
theorem behind (hstill : ∀ c a d, parser.run c = some (a, d) → d = c)
    (h : ∀ a, Moves σ post' (f a)) : Moves σ post' (parser >>= f) := by
  intro c b e hclosed hrun
  obtain ⟨a, d, hfirst, hrest⟩ := run_bind_eq_some.mp hrun
  obtain rfl := hstill c a d hfirst
  exact h a d b e hclosed hrest

/-- How many tokens are left may be looked at. -/
theorem remaining {f : Nat → TokenParser β} (h : ∀ n, Moves σ post' (f n)) :
    Moves σ post' (TokenParser.remaining >>= f) := .behind (by rintro c _ _ ⟨⟩; rfl) h

/-- So may the cursor. -/
theorem get {f : Cursor → TokenParser β} (h : ∀ cursor, Moves σ post' (f cursor)) :
    Moves σ post' (MonadState.get >>= f) := .behind (by rintro c _ _ ⟨⟩; rfl) h

/-- So may the place of the next token. -/
theorem start {f : Position → TokenParser β} (h : ∀ position, Moves σ post' (f position)) :
    Moves σ post' (TokenParser.start >>= f) :=
  .behind (fun _ _ _ hrun => (eq_of_run_start hrun).1) h

/-- So may the kind of the second token. -/
theorem peekSecond {f : Token.Kind → TokenParser β} (h : ∀ kind, Moves σ post' (f kind)) :
    Moves σ post' (TokenParser.peekSecond >>= f) := by
  refine .behind (fun c a d hrun => ?_) h
  rw [run_peekSecond] at hrun
  exact (Prod.mk.inj (Option.some.inj hrun)).2.symm

/-- Looking at the next token. -/
theorem peek {f : Token.Kind → TokenParser β} (h : ∀ kind, MovesAt kind σ post' (f kind)) :
    Moves σ post' (TokenParser.peek >>= f) := by
  intro c b e hclosed hrun
  rw [run_bind_of (run_peek c)] at hrun
  exact h c.next c b e hclosed rfl hrun

/-- What moves does so in front of any token. -/
theorem atNext (h : Moves σ post parser) (kind : Token.Kind) : MovesAt kind σ post parser :=
  fun c a d hclosed _ => h c a d hclosed

end Moves

section Taking

variable {kind : Token.Kind} {post : α → Stage} {f : Unit → TokenParser α}

/-- The token that a cursor is at. -/
theorem Cursor.eq_of_next {c : Cursor} (h : c.next ≠ .finish) :
    ∃ token rest, c = ⟨token :: rest, c.stop⟩ ∧ token.kind = c.next := by
  obtain ⟨rest, stop⟩ := c
  cases rest with
  | nil => exact absurd rfl h
  | cons token rest => exact ⟨token, rest, rfl, rfl⟩

/-- Taking the first of two tokens. -/
theorem MovesAtPair.advance {second : Token.Kind} (hafter : ∀ opened, σ.after opened kind = some τ)
    (h : MovesAt second τ post (f ())) :
    MovesAtPair kind second σ post (TokenParser.advance >>= f) := by
  intro c a d hclosed hkind hsecond hrun
  have hne : c.next ≠ .finish := by
    rintro heq
    have := hafter true
    rw [← hkind, heq, Stage.after_finish] at this
    exact absurd this nofun
  obtain ⟨token, rest, hc, htoken⟩ := Cursor.eq_of_next hne
  rw [hc] at hclosed hrun hsecond ⊢
  rw [run_bind_of (run_advance token rest _)] at hrun
  have hstep : σ.after (opens (token :: rest)) token.kind = some τ := by
    rw [htoken, hkind]
    exact hafter _
  have hpath : Path σ (token :: rest) τ rest := .take hstep (.refl τ rest)
  have hnext : (Cursor.behind token rest c.stop).next = second := by
    rw [← hsecond, Cursor.next, Cursor.second]
    cases rest <;> rfl
  exact hpath.trans (h _ a d (hpath.closed hclosed) hnext hrun)

/-- Taking the next token. -/
theorem MovesAt.advance (hafter : ∀ opened, σ.after opened kind = some τ)
    (h : Moves τ post (f ())) : MovesAt kind σ post (TokenParser.advance >>= f) :=
  fun c a d hclosed hkind =>
    MovesAtPair.advance hafter (h.atNext c.second) c a d hclosed hkind rfl

/-- Looking at the token after the next one. -/
theorem MovesAt.peekSecond {f : Token.Kind → TokenParser α}
    (h : ∀ second, MovesAtPair kind second σ post (f second)) :
    MovesAt kind σ post (TokenParser.peekSecond >>= f) := by
  intro c a d hclosed hkind hrun
  rw [run_bind_of (run_peekSecond c)] at hrun
  exact h c.second c a d hclosed hkind rfl hrun

/-- What moves in front of a token does so in front of that and another. -/
theorem MovesAt.pair {parser : TokenParser α} (h : MovesAt kind σ post parser)
    (second : Token.Kind) : MovesAtPair kind second σ post parser :=
  fun c a d hclosed hkind _ => h c a d hclosed hkind

/-- Going on in one way or another, by whether a token of a kind is next. -/
theorem Moves.whenFound {parser other : TokenParser α}
    (hafter : ∀ opened, σ.after opened kind = some τ) (hthen : Moves τ post parser)
    (helse : Moves σ post other) :
    Moves σ post
      (TokenParser.found kind >>= fun isNext => if isNext = true then parser else other) := by
  unfold TokenParser.found
  simp only [bind_assoc]
  refine .peek fun found => ?_
  by_cases h : found = kind
  · subst h
    simp only [if_pos, bind_assoc, pure_bind]
    exact .advance hafter hthen
  · simp only [if_neg h, pure_bind, Bool.false_eq_true, if_false]
    exact helse.atNext found

/-- Taking a token of a kind. -/
theorem Moves.expect (hafter : ∀ opened, σ.after opened kind = some τ) :
    Moves σ (fun _ => τ) (TokenParser.expect kind) := .whenFound hafter (.pure rfl) .failure

end Taking

/-- A choice moves in front of a token as its parts do. -/
theorem MovesAt.ite {kind : Token.Kind} {post : α → Stage} {parser other : TokenParser α} {p : Prop}
    [Decidable p] (hthen : p → MovesAt kind σ post parser)
    (helse : ¬p → MovesAt kind σ post other) :
    MovesAt kind σ post (if p then parser else other) := by
  by_cases h : p
  · rw [if_pos h]
    exact hthen h
  · rw [if_neg h]
    exact helse h

/-- A parser that agrees with itself takes tokens inside a statement. -/
theorem along_of_run {parser : TokenParser α} {due left : List String}
    (h : ∀ r l, Agree due left r l parser parser) {c d : Cursor} {a : α} (hclosed : Closed c.rest)
    (hrun : parser.run c = some (a, d)) : Along due left c c d d := by
  have hsame := h (room c.rest) (load c.rest) c c (Like.refl_of_mem hclosed) (Nat.le_refl _)
    (Nat.le_refl _)
  rw [hrun] at hsame
  cases hsame with
  | some _ halong => exact halong

/-- **A parser that agrees with itself stays in its line**, as it takes only tokens that can stand
inside of a statement. -/
theorem Moves.of_agree {parser : TokenParser α} {left : List String} (due : List String)
    (h : ∀ r l, Agree due left r l parser parser) :
    Moves (.head depth) (fun _ => .head depth) parser :=
  fun _ _ _ hclosed hrun => .of_along (along_of_run h hclosed hrun) depth

end ExpectFile.Grammar
