import ExpectFile.Proofs.Grammar.Locality

/-!
# How a text is cut into tokens

`tokensFrom` goes through a text by fuel, in two modes: in the blanks at the start of a line, and
behind them. `Lexed` says the same as a relation, with one constructor for what one step can find,
so that two texts can be lexed next to each other by induction on one of them.

* **`lexed_of_tokensFrom`** — the lexer does what the relation says.
* **`Lexed.load_le`** — the tokens count for no more than the characters.
* **`lexed_of_tokens?`** — the tokens of a whole text.
-/

namespace ExpectFile.Grammar

open Text

/-- Where the lexer stands in a line: in the blanks at its start, or behind them. -/
inductive LineMode where
  | fresh (depth : Indentation) (carried : Option Nat)
  | inside

/-- The start of a line. -/
def LineMode.start : LineMode := .fresh ⟨0, 0⟩ none

/-- The lexer has at most so many steps to go. -/
def LineMode.steps : LineMode → List Char → Nat
  | .fresh _ _, text => 2 * text.length + 1
  | .inside, text => 2 * text.length

/-- Behind some characters there are fewer, in every mode. -/
theorem LineMode.steps_lt_of_append {mode mode' : LineMode} (front : List Char) {rest : List Char}
    {steps : Nat} (hne : front ≠ []) (h : mode.steps (front ++ rest) ≤ steps) :
    mode'.steps rest < steps := by
  have := List.length_pos_iff.mpr hne
  cases mode <;> cases mode' <;>
  · simp only [LineMode.steps, List.length_append] at h ⊢
    omega

/-- The depth behind one more blank. -/
def Indentation.behind (depth : Indentation) (c : Char) : Option Indentation :=
  if c = ' ' then some ⟨depth.column + 1, depth.alternate + 1⟩
  else if c = '\t' then some ⟨(depth.column / 8 + 1) * 8, depth.alternate + 1⟩
  else if c = '\x0c' then some ⟨0, 0⟩
  else none

/-- The depth that a line of blanks hands on to the next one by a backslash at its end. -/
def Indentation.carriedOn (depth : Indentation) : Option Nat → Option Nat
  | some n => some n
  | none => if depth.column = 0 then none else some depth.column

/-- The characters with which a line or a token cannot start. -/
def startsVisible (c : Char) : Bool := !isGap c && c != '\n' && c != '#'

/-- **How a text is cut into tokens**, one character or one token after the other. -/
inductive Lexed :
    LineMode → List Indentation → List String → Position → List Char → List Token → Prop where
  | blank {depth deeper carried opened due p c rest ts} (hc : depth.behind c = some deeper)
      (h : Lexed (.fresh deeper carried) opened due (p.after c) rest ts) :
      Lexed (.fresh depth carried) opened due p (c :: rest) ts
  | carry {depth carried opened due p rest ts} (hrest : rest ≠ [])
      (h : Lexed (.fresh depth (depth.carriedOn carried)) opened due
        ((p.after '\\').after '\n') rest ts) :
      Lexed (.fresh depth carried) opened due p ('\\' :: '\n' :: rest) ts
  | finish {depth carried opened opened' p marks}
      (hmarks : indentationMarks (indentation.settled depth carried) opened
        = some (marks, opened')) :
      Lexed (.fresh depth carried) opened [] p [] (marksAt p (marks ++ [.finish]))
  | emptyLine {depth carried opened due p rest ts}
      (h : Lexed .start opened due (p.after '\n') rest ts) :
      Lexed (.fresh depth carried) opened due p ('\n' :: rest) ts
  | commentLine {depth carried opened due p comment rest ts} (hcomment : ∀ c ∈ comment, c ≠ '\n')
      (h : Lexed (.fresh depth carried) opened due (p.afterText ('#' :: comment))
        ('\n' :: rest) ts) :
      Lexed (.fresh depth carried) opened due p ('#' :: comment ++ '\n' :: rest) ts
  | line {depth carried opened opened' p c rest marks ts} (hc : startsVisible c = true)
      (hslash : c ≠ '\\')
      (hmarks : indentationMarks (indentation.settled depth carried) opened
        = some (marks, opened'))
      (h : Lexed .inside opened' [] p (c :: rest) ts) :
      Lexed (.fresh depth carried) opened [] p (c :: rest) (marksAt p marks ++ ts)
  | bracketed {depth carried opened due p c rest ts} (hc : startsVisible c = true)
      (hslash : c ≠ '\\') (hdue : due ≠ []) (h : Lexed .inside opened due p (c :: rest) ts) :
      Lexed (.fresh depth carried) opened due p (c :: rest) ts
  | gap {opened due p c rest ts} (hc : isGap c = true)
      (h : Lexed .inside opened due (p.after c) rest ts) : Lexed .inside opened due p (c :: rest) ts
  | newline {opened p rest ts} (h : Lexed .start opened [] (p.after '\n') rest ts) :
      Lexed .inside opened [] p ('\n' :: rest) (⟨.newline, p, p⟩ :: ts)
  | wrap {opened due p rest ts} (hdue : due ≠ [])
      (h : Lexed .start opened due (p.after '\n') rest ts) :
      Lexed .inside opened due p ('\n' :: rest) ts
  | comment {opened due p comment rest ts} (hcomment : ∀ c ∈ comment, c ≠ '\n')
      (h : Lexed .inside opened due (p.afterText ('#' :: comment)) ('\n' :: rest) ts) :
      Lexed .inside opened due p ('#' :: comment ++ '\n' :: rest) ts
  | join {opened due p rest ts} (hrest : rest ≠ [])
      (h : Lexed .inside opened due ((p.after '\\').after '\n') rest ts) :
      Lexed .inside opened due p ('\\' :: '\n' :: rest) ts
  | token {opened due due' p c text kind characters rest ts} (hc : startsVisible c = true)
      (hslash : ∀ after, c :: text ≠ '\\' :: '\n' :: after)
      (hlexeme : lexeme? (c :: text) = some (kind, characters, rest))
      (hdue : bracketsAfter due kind = some due')
      (h : Lexed .inside opened due' (p.afterText characters) rest ts) :
      Lexed .inside opened due p (c :: text) (⟨kind, p, p.afterText characters⟩ :: ts)

variable {opened : List Indentation} {due : List String} {p : Position} {ts : List Token}

/-- The blanks at the start of a line, one after the other. -/
theorem Lexed.blanks {depth reached : Indentation} {carried : Option Nat}
    {text skipped rest : List Char}
    (h : indentation depth carried text = some (reached, skipped, rest))
    (hrest : ∀ last kept, indentation.settled last kept = reached →
      (∀ c after, rest = c :: after → isGap c = false ∧ c ≠ '\\') →
      Lexed (.fresh last kept) opened due (p.afterText skipped) rest ts) :
    Lexed (.fresh depth carried) opened due p text ts := by
  induction depth, carried, text using indentation.induct generalizing reached skipped rest p with
  | case1 depth carried =>
    obtain ⟨rfl, rfl, rfl⟩ : _ ∧ _ ∧ _ := by simpa [indentation] using h
    exact hrest depth carried rfl nofun
  | case2 depth carried rest' ih =>
    rw [indentation.eq_def] at h
    obtain ⟨behind, rfl, hbehind⟩ := skip_eq_some h
    exact .blank rfl (ih hbehind hrest)
  | case3 depth carried rest' hc ih =>
    rw [indentation.eq_def] at h
    obtain ⟨behind, rfl, hbehind⟩ := skip_eq_some h
    exact .blank rfl (ih hbehind hrest)
  | case4 depth carried rest' hc hc' ih =>
    rw [indentation.eq_def] at h
    obtain ⟨behind, rfl, hbehind⟩ := skip_eq_some h
    exact .blank rfl (ih hbehind hrest)
  | case5 depth carried after hafter =>
    rw [indentation.eq_def] at h
    dsimp only at h
    rw [if_neg (by decide), if_neg (by decide), if_neg (by decide), if_pos rfl] at h
    change (if after.isEmpty then none else _) = _ at h
    rw [if_pos hafter] at h
    exact absurd h nofun
  | case6 depth carried after hafter carried' =>
    rename_i ih
    rw [indentation.eq_def] at h
    dsimp only at h
    rw [if_neg (by decide), if_neg (by decide), if_neg (by decide), if_pos rfl] at h
    change (if after.isEmpty then none else _) = _ at h
    rw [if_neg hafter] at h
    obtain ⟨behind, rfl, hfeed⟩ := skip_eq_some h
    obtain ⟨behind, rfl, hbehind⟩ := skip_eq_some hfeed
    refine .carry (by simpa using hafter) ?_
    have hcarried : depth.carriedOn carried = carried' := by cases carried <;> rfl
    rw [hcarried]
    exact ih hbehind hrest
  | case7 depth carried rest' hrest' =>
    rw [indentation.eq_def] at h
    dsimp only at h
    rw [if_neg (by decide), if_neg (by decide), if_neg (by decide), if_pos rfl] at h
    split at h
    · exact absurd rfl (hrest' _)
    · exact absurd h nofun
  | case8 depth carried c rest' h1 h2 h3 h4 =>
    rw [indentation.eq_def] at h
    dsimp only at h
    rw [if_neg h1, if_neg h2, if_neg h3, if_neg h4] at h
    obtain ⟨rfl, rfl, rfl⟩ : _ ∧ _ ∧ _ := by simpa using h
    refine hrest depth carried rfl fun d after heq => ?_
    obtain ⟨rfl, -⟩ := List.cons.inj heq
    exact ⟨by simp [isGap, h1, h2, h3], h4⟩

/-- The blanks inside a line, one after the other. -/
theorem Lexed.gaps {text : List Char}
    (h : Lexed .inside opened due (p.afterText (text.takeWhile isGap)) (text.dropWhile isGap) ts) :
    Lexed .inside opened due p text ts := by
  induction text generalizing p with
  | nil => exact h
  | cons c rest ih =>
    cases hc : isGap c with
    | false =>
      rw [List.takeWhile_cons_of_neg (by simp [hc]), List.dropWhile_cons_of_neg (by simp [hc])] at h
      exact h
    | true =>
      rw [List.takeWhile_cons_of_pos hc, List.dropWhile_cons_of_pos hc] at h
      exact .gap hc (ih h)

theorem mem_takeWhile_isNotLineFeed {text : List Char} {c : Char}
    (h : c ∈ text.takeWhile isNotLineFeed) : c ≠ '\n' := by
  simpa [isNotLineFeed] using List.all_eq_true.mp List.all_takeWhile c h

/-- What ends a comment is a line feed. -/
theorem eq_lineFeed_of_dropWhile {text rest : List Char} {c : Char}
    (h : text.dropWhile isNotLineFeed = c :: rest) : c = '\n' := by
  induction text with
  | nil => exact absurd h nofun
  | cons d text ih =>
    rw [List.dropWhile_cons] at h
    split at h
    · exact ih h
    · rename_i hd
      obtain ⟨rfl, -⟩ := List.cons.inj h
      simpa [isNotLineFeed] using hd

/-- A comment goes on to the end of its line. -/
theorem comment_eq_append {behind : List Char} {c : Char}
    (hdrop : text.dropWhile isNotLineFeed = c :: behind) :
    '#' :: text = '#' :: text.takeWhile isNotLineFeed ++ '\n' :: behind := by
  obtain rfl := eq_lineFeed_of_dropWhile hdrop
  rw [← hdrop]
  exact congrArg ('#' :: ·) List.takeWhile_append_dropWhile.symm

section

variable {fuel : Nat} {state : LexerState}
  (ih : ∀ {fresh : Bool} {state : LexerState} {text : List Char} {ts : List Token},
    tokensFrom fuel fresh state text = some ts →
    Lexed (if fresh then .start else .inside) state.opened state.due state.position text ts)
include ih

/-- One step of the lexer at the start of a line. -/
theorem lexed_of_fresh (h : tokensFrom (fuel + 1) true state text = some ts) :
    Lexed .start state.opened state.due state.position text ts := by
  obtain ⟨position, opened, due⟩ := state
  unfold tokensFrom at h
  obtain ⟨⟨reached, skipped, rest⟩, hindentation, h⟩ := Option.bind_eq_some_iff.mp h
  refine .blanks hindentation fun last kept hreached hrest => ?_
  subst hreached
  dsimp only at h ⊢
  cases rest with
  | nil =>
    cases due with
    | cons expected others => cases h
    | nil =>
      obtain ⟨⟨marks, opened'⟩, hmarks, h⟩ := Option.bind_eq_some_iff.mp h
      obtain rfl := Option.some.inj h
      exact .finish hmarks
  | cons c after =>
    obtain ⟨hgap, hslash⟩ := hrest c after rfl
    dsimp only at h
    split at h
    next hc =>
      split at h
      · cases h
      next newline behind hdrop =>
      obtain rfl := eq_lineFeed_of_dropWhile hdrop
      -- the line holds a comment or nothing, up to the same line feed
      rcases hc with rfl | rfl
      · have hrun : after.dropWhile isNotLineFeed = '\n' :: behind := hdrop
        rw [comment_eq_append hrun]
        refine .commentLine (fun _ => mem_takeWhile_isNotLineFeed) (.emptyLine ?_)
        simpa [Position.afterText, List.takeWhile_cons, isNotLineFeed] using ih h
      · obtain ⟨-, rfl⟩ := List.cons.inj hdrop
        exact .emptyLine (ih h)
    next hc =>
      have hvisible : startsVisible c = true := by
        simp only [not_or] at hc
        simp [startsVisible, hgap, hc.1, hc.2]
      cases due with
      | nil =>
        obtain ⟨⟨marks, opened'⟩, hmarks, h⟩ := Option.bind_eq_some_iff.mp h
        obtain ⟨tokens, htokens, h⟩ := Option.bind_eq_some_iff.mp h
        obtain rfl := Option.some.inj h
        exact .line hvisible hslash hmarks (ih htokens)
      | cons expected others => exact .bracketed hvisible hslash (List.cons_ne_nil _ _) (ih h)

/-- One step of the lexer in a line. -/
theorem lexed_of_inside (h : tokensFrom (fuel + 1) false state text = some ts) :
    Lexed .inside state.opened state.due state.position text ts := by
  obtain ⟨position, opened, due⟩ := state
  unfold tokensFrom at h
  refine .gaps ?_
  dsimp only at h ⊢
  have hvisible : ∀ c rest, text.dropWhile isGap = c :: rest → isGap c = false :=
    fun c rest heq => by simpa [heq] using List.head?_dropWhile_not isGap text
  generalize position.afterText (text.takeWhile isGap) = start at h ⊢
  generalize text.dropWhile isGap = text at h hvisible ⊢
  split at h
  · cases h
  · obtain ⟨tokens, htokens, h⟩ := Option.bind_eq_some_iff.mp h
    obtain rfl := Option.some.inj h
    cases due with
    | nil => exact .newline (ih htokens)
    | cons expected others => exact .wrap (List.cons_ne_nil _ _) (ih htokens)
  next rest =>
    have hmore := ih h
    cases hdrop : rest.dropWhile isNotLineFeed with
    | nil =>
      rw [hdrop] at hmore
      cases hmore
    | cons c behind =>
      rw [comment_eq_append hdrop]
      obtain rfl := eq_lineFeed_of_dropWhile hdrop
      rw [hdrop] at hmore
      exact .comment (fun _ => mem_takeWhile_isNotLineFeed) hmore
  next rest =>
    split at h
    · cases h
    next hrest => exact .join (by simpa using hrest) (ih h)
  next c rest hfeed hcomment hjoin =>
    obtain ⟨⟨kind, characters, after⟩, hlexeme, h⟩ := Option.bind_eq_some_iff.mp h
    obtain ⟨due', hdue, h⟩ := Option.bind_eq_some_iff.mp h
    obtain ⟨tokens, htokens, h⟩ := Option.bind_eq_some_iff.mp h
    obtain rfl := Option.some.inj h
    refine .token ?_ ?_ hlexeme hdue (ih htokens)
    · have hgap := hvisible c rest rfl
      have hfeed : c ≠ '\n' := hfeed
      have hcomment : c ≠ '#' := hcomment
      simp [startsVisible, hgap, hfeed, hcomment]
    · intro after heq
      obtain ⟨hc, hrest⟩ := List.cons.inj heq
      exact hjoin after hc hrest

end

/-- **The lexer cuts a text in this way.** Induction on its fuel. -/
theorem lexed_of_tokensFrom {fuel : Nat} {fresh : Bool} {state : LexerState} {text : List Char}
    (h : tokensFrom fuel fresh state text = some ts) :
    Lexed (if fresh then .start else .inside) state.opened state.due state.position text ts := by
  induction fuel generalizing fresh state text ts with
  | zero => cases h
  | succ fuel ih =>
    cases fresh with
    | true => exact lexed_of_fresh ih h
    | false => exact lexed_of_inside ih h

/-! ## Marks -/

/-- The marks in front of a line are layout. -/
theorem isInner_of_indentationMarks {depth : Indentation} {opened opened' : List Indentation}
    {marks : List Token.Kind} (h : indentationMarks depth opened = some (marks, opened')) :
    ∀ kind ∈ marks, kind.isInner = false := by
  unfold indentationMarks at h
  dsimp only at h
  split at h
  · split at h
    · obtain ⟨rfl, -⟩ := Prod.mk.inj (Option.some.inj h)
      rintro kind hkind
      obtain rfl := List.mem_singleton.mp hkind
      rfl
    · exact absurd h nofun
  · obtain ⟨result, -, heq⟩ := Option.map_eq_some_iff.mp h
    obtain ⟨rfl, -⟩ := Prod.mk.inj heq
    rintro kind hkind
    obtain rfl := List.eq_of_mem_replicate hkind
    rfl

/-- Inside a line there is text left. -/
theorem Lexed.ne_nil {text : List Char} (h : Lexed .inside opened due p text ts) : text ≠ [] := by
  rintro rfl
  cases h

/-- What the tokens up to the end of the first statement count for, at most. -/
theorem Lexed.load_le {mode : LineMode} {text : List Char} (h : Lexed mode opened due p text ts) :
    load ts ≤ text.length - 1 := by
  -- marks in front of tokens end a statement, so nothing behind them counts
  have hmarks : ∀ {marks : List Token.Kind} {p : Position} {ts : List Token},
      (∀ kind ∈ marks, kind.isInner = false) → load (marksAt p marks ++ ts) ≤ load ts := by
    intro marks p ts hmarks
    cases marks with
    | nil => exact Nat.le_refl _
    | cons kind marks =>
      show load (⟨kind, p, p⟩ :: (marksAt p marks ++ ts)) ≤ _
      rw [load, if_neg (by simp [hmarks kind List.mem_cons_self])]
      exact Nat.zero_le _
  induction h with
  | blank _ _ ih | emptyLine _ ih | gap _ _ ih | wrap _ _ ih =>
    simp only [List.length_cons]
    omega
  | carry _ _ ih | join _ _ ih =>
    simp only [List.length_cons]
    omega
  | finish hdepth =>
    rw [marksAt, List.map_append]
    exact hmarks (isInner_of_indentationMarks hdepth)
  | commentLine _ _ ih | comment _ _ ih =>
    simp only [List.length_append, List.length_cons] at ih ⊢
    omega
  | line _ _ hdepth _ ih => exact Nat.le_trans (hmarks (isInner_of_indentationMarks hdepth)) ih
  | bracketed _ _ _ _ ih => exact ih
  | newline => exact Nat.zero_le _
  | @token _ _ _ _ _ _ kind characters rest _ _ _ hlexeme _ h ih =>
    -- the tokens behind are those of a text that is not empty, which leaves one character to spare
    have htext := (lexeme?_eq_append hlexeme).1
    have hweight := weight_le_of_lexeme? hlexeme
    have hrest := List.length_pos_iff.mpr h.ne_nil
    rw [htext, List.length_append]
    rw [load]
    split
    · dsimp only
      omega
    · exact Nat.zero_le _

/-- The end of the text is among the tokens. -/
theorem Lexed.exists_finish {mode : LineMode} {text : List Char}
    (h : Lexed mode opened due p text ts) : ∃ token ∈ ts, token.kind = .finish := by
  induction h with
  | finish => exact ⟨_, by simp [marksAt]; exact .inr rfl, rfl⟩
  | line _ _ _ _ ih =>
    obtain ⟨token, hmem, hkind⟩ := ih
    exact ⟨token, List.mem_append_right _ hmem, hkind⟩
  | newline _ ih | token _ _ _ _ _ ih =>
    obtain ⟨token, hmem, hkind⟩ := ih
    exact ⟨token, List.mem_cons_of_mem _ hmem, hkind⟩
  | _ => assumption

/-- Tokens that come to an end are like themselves. -/
theorem Like.refl_of_mem {ts : List Token}
    (h : ∃ token ∈ ts, token.kind = .finish) : Like ts ts := by
  induction ts with
  | nil =>
    obtain ⟨token, hmem, -⟩ := h
    exact absurd hmem nofun
  | cons token ts ih =>
    cases hinner : token.kind.isInner with
    | false => exact .stop rfl hinner
    | true =>
      refine .inner rfl hinner (ih ?_)
      obtain ⟨other, hmem, hkind⟩ := h
      rcases List.mem_cons.mp hmem with rfl | hmem
      · rw [hkind] at hinner
        exact absurd hinner nofun
      · exact ⟨other, hmem, hkind⟩

theorem length_lineFeeds_le (text : List Char) : (lineFeeds text).length ≤ text.length := by
  induction text using lineFeeds.induct with
  | case1 => exact Nat.le_refl _
  | case2 rest ih | case3 rest _ ih =>
    simp only [lineFeeds, List.length_cons]
    omega
  | case4 c rest _ _ ih =>
    rw [lineFeeds]
    · simpa using ih
    all_goals assumption

theorem length_unifyBreaks_le (text : List Char) : (unifyBreaks text).length ≤ text.length + 1 := by
  have := length_lineFeeds_le text
  unfold unifyBreaks
  dsimp only
  split
  · omega
  · simpa using this

/-- The lexer, from the start of a text to its end. -/
theorem lexed_of_tokens? {text : List Char} (h : tokens? text = some ts) :
    Lexed .start [] [] ⟨1, 0⟩ (unifyBreaks text) ts := lexed_of_tokensFrom h

theorem load_le_of_tokens? {text : List Char} (h : tokens? text = some ts) :
    load ts ≤ text.length := by
  have := (lexed_of_tokens? h).load_le
  have := length_unifyBreaks_le text
  omega

end ExpectFile.Grammar
