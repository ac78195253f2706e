import ExpectFile.Proofs.Reprint.Fitting
import ExpectFile.Proofs.Grammar.BlockAgreement

/-!
# The tokens of a reprint that is a program

`Reprints` leaves it open whether the end of a line goes with a statement that is not printed. Where
such statements end their lines, it is known: the line goes with the first statement of it, and
stays with another one. `Restates` says so, and keeps in mind whether a line is a new one.

* **`Restates.reprints`** — a list of tokens that is known in this way is that of a reprint.
* **`Restates.beside`** — along a compound statement nothing is changed.
* **`Restates.along`** — nor is along a simple statement that is not marked.
-/

namespace ExpectFile.Grammar

open TokenParser Reprint

/-- Whether a line is a new one behind a token, if it was in front. -/
def Token.Kind.leavesFresh (fresh : Bool) : Token.Kind → Bool
  | .newline => true
  | .indent | .dedent => fresh
  | _ => false

/-- **The tokens of a reprint**, next to the items of the text that is printed. A statement that is
not printed ends its line. If it is all of the line, the line goes. -/
inductive Restates (printing : Printing) : (fresh : Bool) → List Item → List Token → Prop where
  | nil {fresh : Bool} : Restates printing fresh [] []
  | keep {fresh : Bool} {token token' : Token} {items : List Item} {ts : List Token}
      (hkind : token.kind = token'.kind)
      (h : Restates printing (token.kind.leavesFresh fresh) items ts) :
      Restates printing fresh (.keep token :: items) (token' :: ts)
  | call {fresh : Bool} {tokens : List Token} {statement : ParsedStatement} {items : List Item}
      {ts : List Token} {name text : String} {p q r s : Position}
      (hprinted : printing statement = some (name, text))
      (h : Restates printing false items ts) :
      Restates printing fresh (.mark tokens statement :: items)
        (callTokens name text p q r s (p.afterText (Reprint.call name text)) ++ ts)
  | drop {tokens : List Token} {statement : ParsedStatement} {feed feed' : Token}
      {items : List Item} {ts : List Token} (hprinted : printing statement = none)
      (hfeed : feed.kind = .newline) (hfeed' : feed'.kind = .newline)
      (h : Restates printing true items ts) :
      Restates printing false (.mark tokens statement :: .keep feed :: items) (feed' :: ts)
  | dropLine {tokens : List Token} {statement : ParsedStatement} {feed : Token}
      {items : List Item} {ts : List Token} (hprinted : printing statement = none)
      (hfeed : feed.kind = .newline) (h : Restates printing true items ts) :
      Restates printing true (.mark tokens statement :: .keep feed :: items) ts

variable {marks : Option Expr → Bool} {nested : Nested} {σ τ : Stage} {items : List Item}
  {us us' ts : List Token} {due left : List String} {printing : Printing} {fresh : Bool}
  {c c' d d' : Cursor}

/-! ## Stages and new lines -/

theorem Token.Kind.leavesFresh_of_isInner {kind : Token.Kind} (h : kind.isInner = true) :
    kind.leavesFresh fresh = false := by
  cases kind <;> first | rfl | cases h

theorem Stage.isFresh_after {opened : Bool} {kind : Token.Kind}
    (h : σ.after opened kind = some τ) : kind.leavesFresh σ.isFresh = τ.isFresh := by
  have hsame : ∀ {υ : Stage}, some υ = some τ → kind.leavesFresh σ.isFresh = υ.isFresh →
      kind.leavesFresh σ.isFresh = τ.isFresh := by
    rintro υ heq hfresh
    rwa [← Option.some.inj heq]
  have hinner : kind.isInner = true → kind.leavesFresh σ.isFresh = false :=
    Token.Kind.leavesFresh_of_isInner
  cases σ with
  | line depth =>
    simp only [after] at h
    split at h
    next heq => exact hsame h (heq ▸ rfl)
    split at h
    next heq =>
      split at h
      · cases h
      · exact hsame h (heq ▸ rfl)
    split at h
    next heq => exact hsame h (hinner (Bool.and_eq_true _ _ |>.mp heq).1)
    next => cases h
  | top =>
    simp only [after] at h
    split at h
    next heq => exact hsame h (hinner (Bool.and_eq_true _ _ |>.mp heq).1)
    next => cases h
  | head depth =>
    simp only [after] at h
    split at h
    next heq => exact hsame h (heq ▸ rfl)
    split at h
    next heq =>
      refine hsame h ?_
      rcases (Bool.or_eq_true _ _).mp heq with heq | heq
      · exact hinner heq
      · rw [of_decide_eq_true heq]
        rfl
    next => cases h
  | mid due =>
    cases hkind : kind.isInner with
    | true =>
      simp only [after, hkind, if_true, Option.map_eq_some_iff] at h
      obtain ⟨next, -, rfl⟩ := h
      exact hinner hkind
    | false =>
      rcases isSimple_after rfl hkind h with ⟨rfl, rfl⟩ | ⟨rfl, rfl⟩ <;> rfl
  | next =>
    simp only [after] at h
    split at h
    next heq => exact hsame h (heq ▸ rfl)
    next => cases h
  | done => rcases after_done h with ⟨rfl, rfl⟩ | ⟨rfl, rfl⟩ <;> rfl

/-! ## Outlines along a parser -/

/-- In front of a compound statement there is a token that is kept. -/
theorem Outline.exists_keep {depth : Nat} {token : Token} {us : List Token} {opened : Bool}
    (h : Outline marks (exprAt depth) σ items) (hflat : flat items = token :: us)
    (hopened : opened = opens (token :: us)) (hafter : σ.after opened token.kind = some τ) :
    ∃ items', items = .keep token :: items' ∧ flat items' = us
      ∧ Outline marks (exprAt depth) τ items' := by
  -- no simple statement begins where a compound one does
  have hcontra : ∀ {left : List String} {behind : List Item} {value : Option Expr} {d : Cursor}
      {stop : Position}, σ.isReady = true → token.kind.turn [] = some left →
      (simpleStatement (exprAt depth)).run ⟨token :: us, stop⟩ = some (value, d) →
      flat behind = us → Outline marks (exprAt depth) (.mid left) behind → False := by
    rintro left behind value d stop hready hturn hrun rfl hmid
    have hinner := Token.Kind.isInner_of_turn hturn
    have hnone : token.kind.beginsCompound = false := begins_of_run_simpleStatement hrun
    have hne : token.kind ≠ .newline := by
      intro heq
      rw [heq] at hinner
      cases hinner
    rcases Stage.after_of_isReady hready hafter with ⟨heq, -⟩ | ⟨heq, -⟩ | ⟨-, hbegins, -⟩
    · exact hne heq
    · rw [heq] at hinner
      cases hinner
    · rw [hnone, Bool.false_or, hopened, opens, if_neg hne, hinner, Bool.true_and,
        hmid.not_opens] at hbegins
      cases hbegins
  cases h with
  | finish tokens _ hkind =>
    obtain ⟨rfl, -⟩ := List.cons.inj hflat
    rw [hkind, Stage.after_finish] at hafter
    cases hafter
  | token hafter' hrest =>
    obtain ⟨rfl, rfl⟩ := List.cons.inj hflat
    obtain rfl := Stage.after_congr hafter' hafter
    exact ⟨_, rfl, rfl, hrest⟩
  | plain hready hrun _ hturn hrest =>
    obtain ⟨rfl, rfl⟩ := List.cons.inj hflat
    exact (hcontra hready hturn hrun rfl hrest).elim
  | mark hready hrun _ hturns hstart _ _ hrest =>
    obtain ⟨first, others, due, rfl, -, hturn, hmore⟩ := exists_of_turns hturns hstart
    rw [flat_mark, List.cons_append, List.cons.injEq] at hflat
    obtain ⟨rfl, rfl⟩ := hflat
    exact (hcontra hready hturn hrun (by rw [flat_append, flat_map_keep])
      (Outline.mid_of_turns hmore hrest.mid_of_done)).elim

namespace Restates

theorem reprints (h : Restates printing fresh items ts) :
    Reprints printing (fun _ _ _ => True) items ts := by
  induction h with
  | nil => exact .nil
  | keep hkind _ ih => exact .keep hkind ih
  | call hprinted _ ih => exact .call hprinted trivial ih
  | drop hprinted hfeed hfeed' _ ih => exact .drop hprinted (.keep (hfeed.trans hfeed'.symm) ih)
  | dropLine hprinted hfeed _ ih => exact .dropLine hprinted hfeed ih

/-- **Along a compound statement** nothing is changed, so it is beside the same in the reprint. -/
theorem beside {depth depth' l : Nat} (hpath : Path σ us τ us') (hτ : τ.isFresh = true)
    (hflat : flat items = us) (houtline : Outline marks (exprAt depth) σ items)
    (hbound : Bounded depth us) (hbound' : Bounded depth' ts)
    (hl : ∀ n, n < depth → n < depth' → n ≤ l) (h : Restates printing σ.isFresh items ts) :
    ∃ n items' ts', Beside l us' ts' n us ts ∧ (n = 0 → σ = τ) ∧ flat items' = us'
      ∧ Outline marks (exprAt depth) τ items' ∧ Restates printing τ.isFresh items' ts' := by
  induction hpath generalizing items ts with
  | refl => exact ⟨0, items, ts, .tail, fun _ => rfl, hflat, houtline, h⟩
  | @take σ υ τ token rest us' hafter _ ih =>
    obtain ⟨items, rfl, rfl, hrest⟩ := houtline.exists_keep hflat rfl hafter
    generalize hfresh : σ.isFresh = fresh at h
    cases h with
    | @keep _ _ token' _ ts hkind h =>
      rw [← hfresh, Stage.isFresh_after hafter] at h
      obtain ⟨n, items', ts', hbeside, hzero, hfound⟩ :=
        ih hτ rfl hrest (hbound.behind [token]) (hbound'.behind [token']) h
      -- the last token of the piece is a mark: behind any other one the line would not be at its
      -- start
      have hlast : n = 0 → token.kind.isInner = false := by
        intro hn
        obtain rfl := hzero hn
        cases hinner : token.kind.isInner with
        | false => rfl
        | true =>
          have hafter' := Stage.isFresh_after hafter
          rw [Token.Kind.leavesFresh_of_isInner hinner, hτ] at hafter'
          cases hafter'
      have hlike : Like (token :: flat items) (token' :: ts) := by
        cases hinner : token.kind.isInner with
        | false => exact .stop hkind hinner
        | true =>
          cases n with
          | zero => cases hinner.symm.trans (hlast rfl)
          | succ n => exact .inner hkind hinner hbeside.like
      exact ⟨n + 1, items', ts', .cons hkind
        (hl _ hbound.load_lt (hlike.load_eq ▸ hbound'.load_lt)) hlast hbeside,
        fun heq => absurd heq (Nat.succ_ne_zero n), hfound⟩

/-- **Along a simple statement** that is not marked nothing is changed either. -/
theorem along (halong : Along due left c c' d d') (hflat : flat items = c.rest)
    (houtline : Outline marks nested (.mid due) items)
    (h : Restates printing false items c'.rest) :
    ∃ items', flat items' = d.rest ∧ Outline marks nested (.mid left) items'
      ∧ Restates printing false items' d'.rest := by
  induction halong generalizing items with
  | refl => exact ⟨items, hflat, houtline, h⟩
  | @take due next left token token' rest rest' stop stop' d d' _ hturn _ ih =>
    have hinner := Token.Kind.isInner_of_turn hturn
    cases houtline with
    | finish _ hσ => exact absurd hσ (by simp)
    | @token _ _ first items' hafter hrest =>
      rw [flat_keep, List.cons.injEq] at hflat
      obtain ⟨rfl, hflat⟩ := hflat
      simp only [Stage.after, hinner, if_true, hturn, Option.map_some, Option.some.injEq] at hafter
      subst hafter
      cases h with
      | keep _ h =>
        rw [Token.Kind.leavesFresh_of_isInner hinner] at h
        exact ih hflat hrest h
    | plain hready => cases hready
    | mark hready => cases hready

end Restates

end ExpectFile.Grammar
