import ExpectFile.Proofs.Text.Breaking
import ExpectFile.Proofs.Reprint.Following

/-!
# Where marked statements stand

The places that the lexer gives to the marked statements of a program are one behind the other. Each
begins and ends with a character that is no line feed, so no break of the file is cut by one.

* **`Lexed.induction_on`** — the steps of the lexer, with the marked statements on the way.
* **`Lexed.sites`** — the places of the marked statements.
-/

namespace ExpectFile.Grammar

open Text Reprint

/-- **Where statements stand in a text**: one after the other, from a character that is no line feed
to another such, and never at the very end. -/
inductive Sites : Position → List Char → List ParsedStatement → Prop where
  | nil (p : Position) (text : List Char) : Sites p text []
  | skip {p : Position} {c : Char} {text : List Char} {statements : List ParsedStatement}
      (h : Sites (p.after c) text statements) : Sites p (c :: text) statements
  | site {p : Position} {c d : Char} {spelled text : List Char} {statement : ParsedStatement}
      {statements : List ParsedStatement} (hstart : statement.start = p)
      (hstop : statement.stop = p.afterText spelled) (hdecorator : statement.decorator = none)
      (hfirst : spelled.head? = some c) (hc : c ≠ '\n') (hlast : spelled.getLast? = some d)
      (hd : d ≠ '\n') (htext : text ≠ []) (h : Sites (p.afterText spelled) text statements) :
      Sites p (spelled ++ text) (statement :: statements)

variable {p : Position} {text front : List Char} {statements : List ParsedStatement}
  {mode : LineMode} {opened : List Indentation} {due : List String} {marks : Option Expr → Bool}
  {nested : Nested} {σ : Stage} {items : List Item}

theorem Sites.behind (front : List Char) (h : Sites (p.afterText front) text statements) :
    Sites p (front ++ text) statements := by
  induction front generalizing p with
  | nil => exact h
  | cons c front ih => exact .skip (ih h)

/-- **Induction along the lexer.** The steps of the lexer go over characters in front, over tokens
that are kept, and over marked statements; which of them a marked statement is, and what is behind
it, is known in the last case. -/
theorem Lexed.induction_on {motive : Position → List Char → List Item → Prop}
    (hnil : ∀ p text items, marked items = [] → motive p text items)
    (hskip : ∀ p front rest items, motive (Position.afterText p front) rest items →
      motive p (front ++ rest) items)
    (hkeep : ∀ p text token items, motive p text items → motive p text (.keep token :: items))
    (hmark : ∀ {p spelled rest tokens items} {statement : ParsedStatement},
      statement.start = p → statement.stop = p.afterText spelled → statement.decorator = none →
      (∃ c, spelled.head? = some c ∧ c ≠ '\n') → (∃ d, spelled.getLast? = some d ∧ d ≠ '\n') →
      Lexed .inside [] [] (p.afterText spelled) rest (flat items) →
      Outline marks nested .done items → motive (p.afterText spelled) rest items →
      motive p (spelled ++ rest) (.mark tokens statement :: items))
    (h : Lexed mode opened due p text (flat items)) (houtline : Outline marks nested σ items)
    (hfits : σ.Fits opened due) : motive p text items := by
  generalize hsteps : mode.steps text = steps
  induction steps using Nat.strong_induction_on generalizing mode opened due p text items σ with
  | h steps ih =>
  have ih : ∀ {mode' : LineMode} {opened' due' p' text' items' σ'},
      Lexed mode' opened' due' p' text' (flat items') → Outline marks nested σ' items' →
      σ'.Fits opened' due' → mode'.steps text' < steps → motive p' text' items' :=
    fun h houtline hfits hless => ih _ hless h houtline hfits rfl
  have hshorter : ∀ (front : List Char) {rest : List Char} {mode' : LineMode}, front ≠ [] →
      text = front ++ rest → mode'.steps rest < steps :=
    fun _ _ _ hne htext => LineMode.steps_lt_of_append _ hne (htext ▸ hsteps.le)
  generalize hflat : flat items = all at h
  cases h with
  | blank _ hrest | gap _ hrest | emptyLine hrest | wrap _ hrest =>
    subst hflat
    exact hskip _ [_] _ _ (ih hrest houtline hfits (hshorter [_] (List.cons_ne_nil _ _) rfl))
  | carry _ hrest | join _ hrest =>
    subst hflat
    exact hskip _ [_, _] _ _ (ih hrest houtline hfits (hshorter [_, _] (List.cons_ne_nil _ _) rfl))
  | commentLine _ hrest | comment _ hrest =>
    subst hflat
    exact hskip _ _ _ _ (ih hrest houtline hfits (hshorter _ (List.cons_ne_nil _ _) rfl))
  | finish hmarks =>
    exact hnil _ _ _ (houtline.marked_eq_nil (hflat ▸ isInner_of_finish hmarks))
  | @line _ _ _ _ p _ _ found _ _ _ hmarks hrest =>
    obtain ⟨τ, items', rfl, rfl, houtline', hfits', -⟩ :=
      houtline.of_indentationMarks hmarks hflat hfits
    -- the marks of a line are at no character, so they are kept one by one in front of the same
    -- text
    have hbehind := ih hrest houtline' hfits' (by simp [← hsteps, LineMode.steps])
    clear hmarks hflat houtline
    generalize marksAt p found = tokens
    induction tokens with
    | nil => exact hbehind
    | cons token tokens ih => exact hkeep _ _ _ _ ih
  | bracketed _ _ _ hrest =>
    subst hflat
    exact ih hrest houtline hfits (by simp [← hsteps, LineMode.steps])
  | newline hrest =>
    obtain ⟨opens, τ, items', rfl, rfl, hafter, houtline'⟩ :=
      houtline.of_outer hflat rfl (by simp)
    exact hkeep _ _ _ _ (hskip _ [_] _ _
      (ih hrest houtline' (hfits.newline hafter) (hshorter [_] (List.cons_ne_nil _ _) rfl)))
  | @token _ _ due' _ c text kind characters rest _ hc hslash hlexeme hdue hrest =>
    -- a token in a line is one that is kept, or the first of a marked statement
    rcases houtline.of_inside hflat (isInner_of_lexeme? hlexeme) hfits hdue with
      ⟨τ, items', rfl, rfl, houtline', hfits', -⟩ | ⟨tokens, statement, items', rfl⟩
    · have hless : LineMode.inside.steps rest < steps :=
        hshorter characters (ne_nil_of_lexeme? hlexeme) (lexeme?_eq_append hlexeme).1
      rw [(lexeme?_eq_append hlexeme).1]
      exact hkeep _ _ _ _ (hskip _ characters _ _ (ih hrest houtline' hfits' hless))
    · obtain ⟨rfl, rfl⟩ := hfits.of_isReady houtline.isReady_of_mark
      have hlexed : Lexed .inside [] [] p (c :: text) (flat (.mark tokens statement :: items')) :=
        hflat ▸ .token hc hslash hlexeme hdue hrest
      -- the lexer goes over all tokens of the marked statement at once
      obtain ⟨spelled, rest', hspelled, hhead, hend, hstart, hstop, hdecorator, hrest',
        houtline'⟩ := hlexed.behind_mark hc hslash houtline
      have hfeed : c ≠ '\n' := by
        rintro rfl
        exact absurd hc (by decide)
      have hne : spelled ≠ [] := by
        rintro rfl
        cases hhead
      rw [hspelled]
      exact hmark hstart hstop hdecorator ⟨c, hhead, hfeed⟩ hend hrest' houtline'
        (ih hrest' houtline' ⟨rfl, rfl⟩ (hshorter spelled hne hspelled))

/-- **The marked statements of a program have their places in it.** -/
theorem Lexed.sites (h : Lexed mode opened due p text (flat items))
    (houtline : Outline marks nested σ items) (hfits : σ.Fits opened due) :
    Sites p text (marked items) := by
  refine Lexed.induction_on (motive := fun p text items => Sites p text (marked items)) ?_ ?_ ?_ ?_
    h houtline hfits
  · intro p text items hnone
    rw [hnone]
    exact .nil p text
  · exact fun p front rest items hrest => hrest.behind front
  · exact fun p text token items hsites => hsites
  · rintro p spelled rest tokens items statement hstart hstop hdecorator ⟨c, hhead, hc⟩
      ⟨d, hend, hd⟩ hlexed - hsites
    exact .site hstart hstop hdecorator hhead hc hend hd hlexed.ne_nil hsites

end ExpectFile.Grammar
