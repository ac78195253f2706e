import ExpectFile.Proofs.Grammar.Lexing

/-!
# What is lexed has tokens

The relation `Lexed` says how a text is cut into tokens, and the lexer cuts it in this way if its
fuel is enough for the steps that there are.

* **`Lexed.exists_line`** — the blanks at the start of a line, and how the line goes on.
* **`tokensFrom_of_lexed`** — by induction on the fuel.
* **`tokens?_eq_some_iff`** — the tokens of a whole text.
-/

namespace ExpectFile.Grammar

open Text

/-- How a line goes on behind the blanks at its start. -/
inductive LineBegins (reached : Indentation) (opened : List Indentation) :
    List String → Position → List Char → List Token → Prop where
  | finish {opened' p marks} (hmarks : indentationMarks reached opened = some (marks, opened')) :
      LineBegins reached opened [] p [] (marksAt p (marks ++ [.finish]))
  | empty {due p rest ts} (h : Lexed .start opened due (p.after '\n') rest ts) :
      LineBegins reached opened due p ('\n' :: rest) ts
  | comment {due p comment rest ts} (hcomment : ∀ c ∈ comment, c ≠ '\n')
      (h : Lexed .start opened due (p.afterText ('#' :: comment ++ ['\n'])) rest ts) :
      LineBegins reached opened due p ('#' :: comment ++ '\n' :: rest) ts
  | line {opened' p c rest marks ts} (hc : startsVisible c = true)
      (hmarks : indentationMarks reached opened = some (marks, opened'))
      (h : Lexed .inside opened' [] p (c :: rest) ts) :
      LineBegins reached opened [] p (c :: rest) (marksAt p marks ++ ts)
  | bracketed {due p c rest ts} (hc : startsVisible c = true) (hdue : due ≠ [])
      (h : Lexed .inside opened due p (c :: rest) ts) :
      LineBegins reached opened due p (c :: rest) ts

variable {depth deeper : Indentation} {carried : Option Nat} {opened : List Indentation}
  {due : List String} {p : Position} {text rest : List Char} {ts : List Token} {c : Char}

/-! ## Blanks -/

/-- A blank at the start of a line is skipped, and counts for the depth. -/
theorem indentation_blank (hc : depth.behind c = some deeper) :
    indentation depth carried (c :: rest)
      = indentation.skip c (indentation deeper carried rest) := by
  unfold Indentation.behind at hc
  rw [indentation.eq_def]
  dsimp only
  split at hc
  next heq =>
    obtain rfl := Option.some.inj hc
    rw [if_pos heq]
  next hblank =>
    rw [if_neg hblank]
    split at hc
    next heq =>
      obtain rfl := Option.some.inj hc
      rw [if_pos heq]
    next htab =>
      rw [if_neg htab]
      split at hc
      next heq =>
        obtain rfl := Option.some.inj hc
        rw [if_pos heq]
      next => cases hc

/-- So is a joined line, if anything is behind it. -/
theorem indentation_carry (hrest : rest ≠ []) :
    indentation depth carried ('\\' :: '\n' :: rest)
      = indentation.skip '\\'
          (indentation.skip '\n' (indentation depth (depth.carriedOn carried) rest)) := by
  have hempty : rest.isEmpty = false := by simpa using hrest
  rw [indentation.eq_def]
  dsimp only
  rw [if_neg (by decide), if_neg (by decide), if_neg (by decide), if_pos rfl]
  change (if rest.isEmpty then none else _) = _
  rw [hempty]
  cases carried <;> rfl

/-- Any other character ends the blanks, and the depth is settled. -/
theorem indentation_stop (hgap : isGap c = false) (hslash : c ≠ '\\') :
    indentation depth carried (c :: rest)
      = some (indentation.settled depth carried, [], c :: rest) := by
  simp only [isGap, Bool.or_eq_false_iff, beq_eq_false_iff_ne] at hgap
  obtain ⟨⟨hblank, htab⟩, hfeed⟩ := hgap
  rw [indentation.eq_def]
  dsimp only
  rw [if_neg hblank, if_neg htab, if_neg hfeed, if_neg hslash]

/-- **The blanks at the start of a line**, and how the line goes on. -/
theorem Lexed.exists_line (h : Lexed (.fresh depth carried) opened due p text ts) :
    ∃ reached skipped rest, indentation depth carried text = some (reached, skipped, rest)
      ∧ rest.length ≤ text.length
      ∧ LineBegins reached opened due (p.afterText skipped) rest ts := by
  have hvisible : ∀ {c : Char}, startsVisible c = true → isGap c = false := by
    intro c hc
    simp only [startsVisible, Bool.and_eq_true, Bool.not_eq_true'] at hc
    exact hc.1.1
  generalize hmode : LineMode.fresh depth carried = mode at h
  induction h generalizing depth carried with
  | gap | newline | wrap | comment | join | token => cases hmode
  | @blank _ _ _ _ _ p c _ _ hc _ ih =>
    cases hmode
    obtain ⟨reached, skipped, rest, hindentation, hle, hline⟩ := ih rfl
    exact ⟨reached, c :: skipped, rest, by rw [indentation_blank hc, hindentation]; rfl,
      Nat.le_succ_of_le hle, hline⟩
  | @carry _ _ _ _ p _ _ hrest _ ih =>
    cases hmode
    obtain ⟨reached, skipped, rest, hindentation, hle, hline⟩ := ih rfl
    exact ⟨reached, '\\' :: '\n' :: skipped, rest,
      by rw [indentation_carry hrest, hindentation]; rfl,
      Nat.le_succ_of_le (Nat.le_succ_of_le hle), hline⟩
  | finish hmarks =>
    cases hmode
    exact ⟨_, [], [], by rw [indentation.eq_def], Nat.le_refl 0, .finish hmarks⟩
  | emptyLine hrest =>
    cases hmode
    exact ⟨_, [], _, indentation_stop (by decide) (by decide), Nat.le_refl _, .empty hrest⟩
  | @commentLine _ _ _ _ p comment rest _ hcomment hfeed =>
    cases hmode
    refine ⟨_, [], _, indentation_stop (by decide) (by decide), Nat.le_refl _, .comment hcomment ?_⟩
    rw [Position.afterText_append]
    -- behind a comment the line feed is still to be read, and it ends an empty line
    cases hfeed with
    | blank hc => cases hc
    | emptyLine hrest => exact hrest
    | line hc | bracketed hc => cases hc
  | line hc hslash hmarks hrest =>
    cases hmode
    exact ⟨_, [], _, indentation_stop (hvisible hc) hslash, Nat.le_refl _, .line hc hmarks hrest⟩
  | bracketed hc hslash hdue hrest =>
    cases hmode
    exact ⟨_, [], _, indentation_stop (hvisible hc) hslash, Nat.le_refl _,
      .bracketed hc hdue hrest⟩

/-- The blanks inside of a line. -/
theorem Lexed.behind_gaps (h : Lexed .inside opened due p text ts) :
    Lexed .inside opened due (p.afterText (text.takeWhile isGap)) (text.dropWhile isGap) ts := by
  induction text generalizing p with
  | nil => exact h
  | cons c rest ih =>
    cases hc : isGap c with
    | false =>
      rw [List.takeWhile_cons_of_neg (by simp [hc]), List.dropWhile_cons_of_neg (by simp [hc])]
      exact h
    | true =>
      rw [List.takeWhile_cons_of_pos hc, List.dropWhile_cons_of_pos hc]
      cases h with
      | gap _ hrest => exact ih hrest
      | newline | wrap | comment | join => cases hc
      | token hvisible => simp [startsVisible, hc] at hvisible

/-! ## One step of the lexer -/

/-- A comment goes up to the line feed. -/
theorem takeWhile_comment {comment : List Char} (rest : List Char)
    (hcomment : ∀ c ∈ comment, c ≠ '\n') :
    (comment ++ '\n' :: rest).takeWhile isNotLineFeed = comment
      ∧ (comment ++ '\n' :: rest).dropWhile isNotLineFeed = '\n' :: rest := by
  have hall : ∀ c ∈ comment, isNotLineFeed c = true := fun c hc => by
    simpa [isNotLineFeed] using hcomment c hc
  rw [List.takeWhile_append_of_pos hall, List.dropWhile_append_of_pos hall]
  exact ⟨List.append_nil comment, rfl⟩

section

variable {fuel : Nat}
  (ih : ∀ (fresh : Bool) {p : Position} {opened : List Indentation} {due : List String}
    {text : List Char} {ts : List Token},
    Lexed (if fresh then .start else .inside) opened due p text ts →
    (if fresh then LineMode.start else .inside).steps text < fuel →
    tokensFrom fuel fresh ⟨p, opened, due⟩ text = some ts)
include ih

/-- At the start of a line, the fuel suffices for the rest of the text if it does behind the first
step. -/
theorem tokensFrom_of_fresh (h : Lexed .start opened due p text ts)
    (hfuel : LineMode.start.steps text < fuel + 1) :
    tokensFrom (fuel + 1) true ⟨p, opened, due⟩ text = some ts := by
  obtain ⟨reached, skipped, rest, hindentation, hle, hline⟩ := h.exists_line
  unfold tokensFrom
  rw [hindentation]
  simp only [LineMode.start, LineMode.steps] at hfuel
  have hnext : ∀ {p : Position} {rest : List Char} {ts : List Token},
      Lexed .start opened due p rest ts → rest.length < text.length →
      tokensFrom fuel true ⟨p, opened, due⟩ rest = some ts := fun hlexed hless =>
    ih true hlexed (by simp only [if_true, LineMode.start, LineMode.steps]; omega)
  cases hline with
  | finish hmarks =>
    show (indentationMarks reached opened).bind (fun found => some (marksAt (p.afterText skipped)
      (found.1 ++ [.finish]))) = _
    rw [hmarks]
    rfl
  | empty hrest => exact hnext hrest hle
  | @comment _ _ comment rest _ hcomment hrest =>
    -- the comment is looked at together with its first character
    have hdrop : ('#' :: (comment ++ '\n' :: rest)).dropWhile isNotLineFeed = '\n' :: rest :=
      (takeWhile_comment rest hcomment).2
    have htake : ('#' :: (comment ++ '\n' :: rest)).takeWhile isNotLineFeed = '#' :: comment :=
      congrArg ('#' :: ·) (takeWhile_comment rest hcomment).1
    rw [Option.bind_eq_bind, Option.bind_some]
    dsimp only [List.cons_append]
    rw [if_pos (.inl rfl), hdrop, htake]
    refine hnext hrest ?_
    simp only [List.length_append, List.length_cons] at hle
    omega
  | @line opened' _ c rest marks tokens hc hmarks hrest =>
    have hplain : ¬(c = '#' ∨ c = '\n') := by
      rintro (rfl | rfl) <;> exact absurd hc (by decide)
    show (if c = '#' ∨ c = '\n' then _ else (indentationMarks reached opened).bind fun found =>
      (tokensFrom fuel false ⟨p.afterText skipped, found.2, []⟩ (c :: rest)).bind fun tokens =>
        some (marksAt (p.afterText skipped) found.1 ++ tokens)) = _
    rw [if_neg hplain, hmarks, Option.bind_some, ih false hrest, Option.bind_some]
    simp only [Bool.false_eq_true, if_false, LineMode.steps]
    omega
  | @bracketed _ _ c rest _ hc hdue hrest =>
    have hplain : ¬(c = '#' ∨ c = '\n') := by
      rintro (rfl | rfl) <;> exact absurd hc (by decide)
    obtain ⟨expected, others, rfl⟩ := List.exists_cons_of_ne_nil hdue
    show (if c = '#' ∨ c = '\n' then _ else tokensFrom fuel false
      ⟨p.afterText skipped, opened, expected :: others⟩ (c :: rest)) = _
    rw [if_neg hplain, ih false hrest]
    simp only [Bool.false_eq_true, if_false, LineMode.steps]
    omega

/-- So it does inside of a line. -/
theorem tokensFrom_of_inside (h : Lexed .inside opened due p text ts)
    (hfuel : LineMode.inside.steps text < fuel + 1) :
    tokensFrom (fuel + 1) false ⟨p, opened, due⟩ text = some ts := by
  have hlexed := h.behind_gaps
  have hle : (text.dropWhile isGap).length ≤ text.length := List.length_dropWhile_le _ _
  simp only [LineMode.steps] at hfuel
  have hnext : ∀ (fresh : Bool) {p : Position} {due : List String} {rest : List Char}
      {ts : List Token}, Lexed (if fresh then .start else .inside) opened due p rest ts →
      rest.length < text.length → tokensFrom fuel fresh ⟨p, opened, due⟩ rest = some ts :=
    fun fresh {_ _ _ _} hlexed hless =>
      ih fresh hlexed (by
        cases fresh <;>
        · simp only [Bool.false_eq_true, if_false, if_true, LineMode.start, LineMode.steps]
          omega)
  unfold tokensFrom
  dsimp only
  have hgap : ∀ c rest, text.dropWhile isGap = c :: rest → isGap c = false :=
    fun c rest heq => by simpa [heq] using List.head?_dropWhile_not isGap text
  -- the function takes all blanks at once, the relation one at a time
  generalize p.afterText (text.takeWhile isGap) = start at hlexed ⊢
  generalize text.dropWhile isGap = behind at hlexed hgap hle ⊢
  cases hlexed with
  | gap hc => exact absurd (hgap _ _ rfl) (by simp [hc])
  | newline hrest =>
    show (tokensFrom fuel true ⟨start.after '\n', opened, []⟩ _).bind (fun tokens => some _) = _
    rw [hnext true hrest hle, Option.bind_some]
    rfl
  | wrap hdue hrest =>
    obtain ⟨expected, others, rfl⟩ := List.exists_cons_of_ne_nil hdue
    show (tokensFrom fuel true ⟨start.after '\n', opened, expected :: others⟩ _).bind
      (fun tokens => some _) = _
    rw [hnext true hrest hle, Option.bind_some]
    rfl
  | @comment _ _ _ comment rest _ hcomment hrest =>
    obtain ⟨htake, hdrop⟩ := takeWhile_comment rest hcomment
    show tokensFrom fuel false ⟨start.afterText
      ('#' :: (comment ++ '\n' :: rest).takeWhile isNotLineFeed), opened, due⟩
        ((comment ++ '\n' :: rest).dropWhile isNotLineFeed) = _
    rw [htake, hdrop]
    refine hnext false hrest ?_
    simp only [List.length_append, List.length_cons] at hle ⊢
    omega
  | @join _ _ _ rest _ hne hrest =>
    have hempty : rest.isEmpty = false := by simpa using hne
    show (if rest.isEmpty then none else tokensFrom fuel false
      ⟨(start.after '\\').after '\n', opened, due⟩ rest) = _
    rw [hempty]
    exact hnext false hrest (Nat.lt_of_succ_lt hle)
  | @token _ _ due' _ c rest kind characters after tokens hc hslash hlexeme hdue hrest =>
    -- no lexeme is empty, so the fuel suffices behind it
    have hshorter : after.length < text.length := by
      have hlength := congrArg List.length (lexeme?_eq_append hlexeme).1
      have := List.length_pos_iff.mpr (ne_nil_of_lexeme? hlexeme)
      rw [List.length_append] at hlength
      omega
    -- the other branches of the function are for characters with which no lexeme begins
    split
    next heq => cases heq
    next rest' heq =>
      obtain ⟨rfl, -⟩ := List.cons.inj heq
      exact absurd hc (by decide)
    next rest' heq =>
      obtain ⟨rfl, -⟩ := List.cons.inj heq
      exact absurd hc (by decide)
    next rest' heq => exact absurd heq (hslash rest')
    next c' rest' _ _ _ heq =>
      rw [← heq]
      show (lexeme? (c :: rest)).bind (fun found => (bracketsAfter due found.1).bind fun due' =>
        (tokensFrom fuel false ⟨start.afterText found.2.1, opened, due'⟩ found.2.2).bind
          fun tokens => some (⟨found.1, start, start.afterText found.2.1⟩ :: tokens)) = _
      rw [hlexeme, Option.bind_some, hdue, Option.bind_some,
        hnext false hrest hshorter, Option.bind_some]

end

/-- **The lexer cuts a text in this way**, if its fuel is enough for the steps that there are. -/
theorem tokensFrom_of_lexed {fuel : Nat} (fresh : Bool)
    (h : Lexed (if fresh then .start else .inside) opened due p text ts)
    (hfuel : (if fresh then LineMode.start else .inside).steps text < fuel) :
    tokensFrom fuel fresh ⟨p, opened, due⟩ text = some ts := by
  induction fuel generalizing fresh p opened due text ts with
  | zero => exact absurd hfuel (Nat.not_lt_zero _)
  | succ fuel ih =>
    cases fresh with
    | true => exact tokensFrom_of_fresh (fun fresh => ih fresh) h hfuel
    | false => exact tokensFrom_of_inside (fun fresh => ih fresh) h hfuel

/-- **The tokens of a text.** -/
theorem tokens?_eq_some_iff :
    tokens? text = some ts ↔ Lexed .start [] [] ⟨1, 0⟩ (unifyBreaks text) ts := by
  refine ⟨lexed_of_tokens?, fun h => ?_⟩
  exact tokensFrom_of_lexed true h (Nat.lt_succ_self _)

end ExpectFile.Grammar
