import ExpectFile.Proofs.Reprint.Restating

/-!
# A reprint is parsed

The parser of the text that is printed has gone through, and so does that of the reprint, line by
line. Compound statements are beside their like. Of a line of simple statements the reprint has the
statements that are kept and the calls, and nothing of a line of which nothing is printed.

* **`run_branchingHead_callTokens`** — a printed call begins no compound statement.
* **`Restates.of_statement`**, **`Restates.of_simpleLine`** — the statements of a line.
* **`Restates.of_compound`** — a compound statement.
* **`Restates.parses`** — all the lines of a text, by induction on them.
-/

namespace ExpectFile.Grammar

open TokenParser Reprint

variable {marks : Option Expr → Bool} {nested nested' : Nested} {σ τ : Stage} {items : List Item}
  {ts : List Token} {due left : List String} {printing : Printing} {fresh : Bool}
  {depth depth' l : Nat} {c c' d d' e : Cursor} {value : Option Expr}

/-! ## Where no compound statement begins -/

section

variable {suite suite' : TokenParser Unit}

/-- Where a statement begins with no word for a compound one, it is compound if it branches. -/
theorem run_compoundStatement_of_not_begins {patterns : Nat}
    (hbegins : c.next.beginsCompound = false)
    (hhead : (branchingHead nested).run c = none) :
    (compoundStatement nested patterns suite).run c = some (false, c) := by
  unfold compoundStatement
  rw [run_bind_of (run_peek c)]
  split
  case h_9 =>
    show (get >>= _ : TokenParser Bool).run _ = _
    rw [run_bind_of (run_get c), hhead]
    rfl
  case h_10 => rfl
  all_goals
    rw [‹c.next = _›] at hbegins
    cases hbegins

/-- Where there is no compound statement, none branches. -/
theorem run_branchingHead_of_compoundStatement {patterns : Nat}
    (h : (compoundStatement nested patterns suite).run c = some (false, d)) :
    (branchingHead nested).run c = none := by
  cases hhead : (branchingHead nested).run c with
  | none => rfl
  | some result =>
    obtain ⟨_, after⟩ := result
    have hname : c.next = .name "match".toList := by
      have hrun := hhead
      unfold branchingHead at hrun
      rw [run_bind_of (run_peek c)] at hrun
      split at hrun
      · cases hrun
      · exact Decidable.not_not.mp ‹_›
    unfold compoundStatement at h
    rw [run_bind_of (run_peek c), hname] at h
    have hget : (get >>= _ : TokenParser Bool).run c = some (false, d) := h
    rw [run_bind_of (run_get c), hhead] at hget
    have hrun : (expect .indent >>= fun _ => remaining >>= fun fuel =>
        Grammar.cases nested patterns suite fuel >>= fun _ => pure true).run after
          = some (false, d) := hget
    have hgives : Gives (· = true) (expect .indent >>= fun _ => remaining >>= fun fuel =>
        Grammar.cases nested patterns suite fuel >>= fun _ => (pure true : TokenParser Bool)) :=
      .bind fun _ => .bind fun _ => .bind fun _ => .pure rfl
    exact absurd (hgives _ _ _ hrun) Bool.false_ne_true

/-- A printed call is no head of a branching statement, as no colon follows in its line. -/
theorem run_branchingHead_callTokens {name text : String} {p q r s t stop : Position}
    {token : Token} {rest : List Token}
    (htoken : token.kind = .newline ∨ token.kind = .operator ";") :
    (branchingHead (exprAt depth)).run ⟨callTokens name text p q r s t ++ token :: rest, stop⟩
      = none := by
  have hstop : token.kind.isInner = false := by rcases htoken with h | h <;> rw [h] <;> rfl
  have hlike : Like (callTokens name text p q r s t ++ [token])
      (callTokens name text p q r s t ++ token :: rest) :=
    .inner rfl rfl (.inner rfl rfl (.inner rfl rfl (.inner rfl rfl (.stop rfl hstop))))
  refine run_branchingHead_eq_none (nestedAgree_exprAt (.inl rfl))
    (c := ⟨callTokens name text p q r s t ++ [token], stop⟩) hlike (Nat.le_refl _) ?_
  refine Option.eq_none_iff_forall_ne_some.mpr fun outcome hrun => ?_
  obtain ⟨other, hother, hkind⟩ := exists_colon_of_branchingHead hrun
  simp only [callTokens, List.cons_append, List.nil_append, List.mem_cons, List.not_mem_nil,
    or_false] at hother
  rcases hother with rfl | rfl | rfl | rfl | rfl
  · cases hkind
  · exact absurd hkind (by simp)
  · cases hkind
  · exact absurd hkind (by simp)
  · rcases htoken with h | h <;> exact absurd (h.symm.trans hkind) (by simp)

end

/-! ## Simple statements -/

theorem Outline.closed (h : Outline marks nested σ items) : Closed (flat items) := by
  induction h with
  | finish _ _ hkind => exact ⟨_, List.mem_cons_self, hkind⟩
  | token _ _ ih | plain _ _ _ _ _ ih =>
    obtain ⟨token, hmem, hkind⟩ := ih
    exact ⟨token, List.mem_cons_of_mem _ hmem, hkind⟩
  | mark _ _ _ _ _ _ _ _ ih =>
    obtain ⟨token, hmem, hkind⟩ := ih
    exact ⟨token, List.mem_append_right _ hmem, hkind⟩

theorem Along.rest_eq (h : Along due left c c' d d') (hrest : c.rest = c'.rest) :
    d.rest = d'.rest := by
  induction h with
  | refl => exact hrest
  | take _ _ _ ih => exact ih (List.cons.inj hrest).2

/-- A statement ends in one place, whatever is in front of it. -/
theorem rest_eq_of_run_simpleStatement {value' : Option Expr} (hrest : c.rest = c'.rest)
    (hclosed : Closed c.rest) (hrun : (simpleStatement (exprAt depth)).run c = some (value, d))
    (hrun' : (simpleStatement (exprAt depth)).run c' = some (value', d')) : d.rest = d'.rest := by
  have hnested : NestedAgree (load c.rest) (exprAt depth) (exprAt depth) :=
    nestedAgree_exprAt (.inl rfl)
  have hagree : Agree [] [] (room c.rest) (load c.rest) (simpleStatement (exprAt depth))
      (simpleStatement (exprAt depth)) := agree_simpleStatement hnested
  have hsame := hagree c c' (hrest ▸ Like.refl_of_mem hclosed) (Nat.le_refl _) (Nat.le_refl _)
  rw [hrun, hrun'] at hsame
  cases hsame with
  | some _ halong => exact halong.rest_eq hrest

/-- A parser that takes a token leaves fewer. -/
theorem length_lt_of_run {α : Type} {parser : TokenParser α} [Opens parser] {a : α}
    (hrun : parser.run c = some (a, d)) : d.rest.length < c.rest.length := by
  obtain ⟨token, taken, hrest, -⟩ := Opens.enters hrun
  rw [hrest, List.length_cons, List.length_append]
  omega

/-- **At a simple statement** an outline goes into it, or it is marked. -/
theorem Outline.of_statement (houtline : Outline marks (exprAt depth) σ items)
    (hready : σ.isReady = true) (hflat : flat items = c.rest)
    (hrun : (simpleStatement (exprAt depth)).run c = some (value, e))
    (hopens : opens c.rest = false) :
    (∃ token due items', items = .keep token :: items' ∧ token.kind.turn [] = some due
        ∧ Outline marks (exprAt depth) (.mid due) items')
      ∨ ∃ tokens statement items', items = .mark tokens statement :: items'
        ∧ flat items' = e.rest ∧ Outline marks (exprAt depth) .done items' := by
  have hclosed := hflat ▸ houtline.closed
  have hinner : c.next.isInner = true :=
    isInner_of_run_simpleStatement (fun _ => nestedAgree_exprAt (.inl rfl)) hrun
  cases houtline with
  | @finish _ token tokens _ hkind =>
    rw [Cursor.next, ← hflat] at hinner
    change token.kind.isInner = true at hinner
    rw [hkind] at hinner
    cases hinner
  | @token _ _ token items hafter hrest =>
    have hnone : c.next.beginsCompound = false := begins_of_run_simpleStatement hrun
    rw [Cursor.next, ← hflat] at hinner hnone
    change token.kind.isInner = true at hinner
    change token.kind.beginsCompound = false at hnone
    -- no mark and no compound statement is at this place, as a simple statement has been parsed
    -- from here
    rcases Stage.after_of_isReady hready hafter with ⟨heq, -⟩ | ⟨heq, -⟩ | ⟨-, hbegins, -⟩
    · rw [heq] at hinner
      cases hinner
    · rw [heq] at hinner
      cases hinner
    · rw [hnone, Bool.false_or, ← flat_keep, hflat, hopens] at hbegins
      cases hbegins
  | plain _ _ _ hturn hrest => exact .inl ⟨_, _, _, rfl, hturn, hrest⟩
  | mark _ hrun' _ _ _ _ _ hrest =>
    refine .inr ⟨_, _, _, rfl, ?_, hrest⟩
    exact (rest_eq_of_run_simpleStatement hflat.symm hclosed hrun hrun').symm

/-- What the reprint has in the place of the last statement of a line, of which nothing is printed:
the end of the line, if there is more in front. -/
def Cleared (printing : Printing) (fresh : Bool) (items : List Item) (ts : List Token) : Prop :=
  (fresh = true ∧ Restates printing true items ts)
    ∨ fresh = false ∧ ∃ feed rest, ts = feed :: rest ∧ feed.kind = .newline
      ∧ Restates printing true items rest

/-! ## Lines of simple statements -/

/-- How a line goes on behind a statement. -/
inductive LineBehind (nested : Nested) (fuel : Nat) (e d : Cursor) : Prop where
  | ends {feed : Token} (hrest : e.rest = feed :: d.rest) (hfeed : feed.kind = .newline)
  | endsLate {semicolon feed : Token} (hrest : e.rest = semicolon :: feed :: d.rest)
      (hsemicolon : semicolon.kind = .operator ";") (hfeed : feed.kind = .newline)
  | goesOn {semicolon : Token} {rest : List Token} {others : List ParsedStatement}
      (hrest : e.rest = semicolon :: rest) (hsemicolon : semicolon.kind = .operator ";")
      (hrun : (simpleLine nested fuel).run (.behind semicolon rest e.stop) = some (others, d))

/-- The first statement of a line, and how it goes on. -/
theorem lineBehind_of_run {fuel : Nat} {statements : List ParsedStatement}
    (hrun : (simpleLine nested (fuel + 1)).run c = some (statements, d)) :
    ∃ value e, (simpleStatement nested).run c = some (value, e) ∧ LineBehind nested fuel e d := by
  unfold simpleLine at hrun
  obtain ⟨position, c', hstart, hstatement⟩ := run_bind_eq_some.mp hrun
  obtain ⟨rfl, -⟩ := eq_of_run_start hstart
  obtain ⟨value, e, hvalue, hbehind⟩ := run_bind_eq_some.mp hstatement
  rw [run_bind_of (run_get e)] at hbehind
  refine ⟨value, e, hvalue, ?_⟩
  by_cases hnext : e.next = .operator ";"
  · obtain ⟨semicolon, rest, he, hkind⟩ := Cursor.eq_of_next (c := e) (hnext ▸ nofun)
    rw [hnext] at hkind
    rw [he, run_bind_of (run_foundOperator hkind), if_pos rfl] at hbehind
    obtain ⟨ended, f, hfound, hmore⟩ := run_bind_eq_some.mp hbehind
    rcases found_eq_some hfound with ⟨rfl, feed, after, hf, hfeed, rfl⟩ | ⟨rfl, -, rfl⟩
    · obtain ⟨-, rfl⟩ := Prod.mk.inj (Option.some.inj hmore)
      have hrest : rest = feed :: after := hf
      exact .endsLate (by rw [he, hrest]; rfl) hkind hfeed
    · rw [if_neg Bool.false_ne_true] at hmore
      obtain ⟨others, d', hothers, hpure⟩ := run_bind_eq_some.mp hmore
      obtain ⟨-, rfl⟩ := Prod.mk.inj (Option.some.inj hpure)
      exact .goesOn (by rw [he]) hkind hothers
  · rw [run_bind_of (run_foundOperator_of_ne hnext)] at hbehind
    obtain ⟨_, d', hfeed, hpure⟩ := run_bind_eq_some.mp hbehind
    obtain ⟨-, rfl⟩ := Prod.mk.inj (Option.some.inj hpure)
    obtain ⟨feed, rest, he, hkind, rfl⟩ := exists_of_run_expect hfeed nofun
    exact .ends he hkind

/-- So no block opens in the line. -/
theorem LineBehind.opens_eq_false {fuel : Nat} (h : LineBehind (exprAt depth) fuel e d)
    (hclosed : Closed c.rest) (hrun : (simpleStatement (exprAt depth)).run c = some (value, e))
    (hnext : d.next ≠ .indent) : opens c.rest = false := by
  have hnested : ∀ l, NestedAgree l (exprAt depth) (exprAt depth) :=
    fun _ => nestedAgree_exprAt (.inl rfl)
  have halong : Along [] [] c c e e :=
    along_of_run (fun _ l => agree_simpleStatement (hnested l)) hclosed hrun
  rw [opens_of_along halong]
  cases h with
  | @ends feed hrest hfeed =>
    rw [hrest, opens, if_pos hfeed]
    cases hd : d.rest with
    | nil => rfl
    | cons token rest =>
      rw [Cursor.next, hd] at hnext
      simpa using hnext
  | endsLate hrest hsemicolon | goesOn hrest hsemicolon =>
    rw [hrest, opens, hsemicolon]
    rfl

/-- A line is parsed that goes on in one of these ways. -/
theorem run_simpleLine_of_lineBehind {fuel : Nat}
    (hrun : (simpleStatement (exprAt depth)).run c = some (value, e))
    (h : LineBehind (exprAt depth) fuel e d) :
    ∃ statements d', (simpleLine (exprAt depth) (fuel + 1)).run c = some (statements, d')
      ∧ d'.rest = d.rest := by
  obtain ⟨first, taken, hc, -⟩ := Opens.enters hrun
  have hstart : TokenParser.start.run c = some (first.start, c) := by
    obtain ⟨rest, stop⟩ := c
    obtain rfl : rest = _ := hc
    exact run_start first _ stop
  unfold simpleLine
  rw [run_bind_of hstart, run_bind_of hrun, run_bind_of (run_get e)]
  obtain ⟨rest, stop⟩ := e
  cases h with
  | @ends feed hrest hfeed =>
    obtain rfl : rest = _ := hrest
    have hne : (Cursor.mk (feed :: d.rest) stop).next ≠ .operator ";" := by
      show feed.kind ≠ _
      rw [hfeed]
      nofun
    rw [run_bind_of (run_foundOperator_of_ne hne), if_neg Bool.false_ne_true, ← hfeed,
      run_bind_of (run_expect feed d.rest stop)]
    exact ⟨_, _, rfl, rfl⟩
  | @endsLate semicolon feed hrest hsemicolon hfeed =>
    obtain rfl : rest = _ := hrest
    rw [run_bind_of (run_foundOperator hsemicolon), if_pos rfl, ← hfeed]
    show ∃ statements d', (found feed.kind >>= _ : TokenParser (List ParsedStatement)).run
      ⟨feed :: d.rest, _⟩ = some (statements, d') ∧ _
    rw [run_bind_of (run_found feed d.rest _), if_pos rfl]
    exact ⟨_, _, rfl, rfl⟩
  | @goesOn semicolon rest others hrest hsemicolon hothers =>
    obtain rfl : _ = _ := hrest
    have hne : (Cursor.behind semicolon rest stop).next ≠ .newline := by
      intro heq
      -- another line of statements begins behind the semicolon, and none begins with a mark
      have hinner := isInner_of_run_simpleLine (fun _ => nestedAgree_exprAt (.inl rfl)) hothers
      rw [heq] at hinner
      cases hinner
    rw [run_bind_of (run_foundOperator hsemicolon), if_pos rfl, run_bind_of (run_found_of_ne hne),
      if_neg Bool.false_ne_true, run_bind_of hothers]
    exact ⟨_, _, rfl, rfl⟩

variable (hcallable : ∀ statement name text, printing statement = some (name, text) →
  Callable name)

include hcallable in
/-- **A statement of a line**, in the reprint: it is kept, or there is a call, or nothing is left of
the line behind it. -/
theorem Restates.of_statement (h : Restates printing σ.isFresh items c'.rest)
    (houtline : Outline marks (exprAt depth) σ items) (hready : σ.isReady = true)
    (hflat : flat items = c.rest)
    (hrun : (simpleStatement (exprAt depth)).run c = some (value, e))
    (hopens : opens c.rest = false) (hload : load c.rest < depth)
    (hload' : load c'.rest < depth' + 2) :
    (∃ value' e' items', flat items' = e.rest ∧ Outline marks (exprAt depth) (.mid []) items'
        ∧ Restates printing false items' e'.rest
        ∧ (simpleStatement (exprAt (depth' + 2))).run c' = some (value', e')
        ∧ ((branchingHead (exprAt depth)).run c = none →
          (branchingHead (exprAt (depth' + 2))).run c' = none))
      ∨ ∃ feed items', e.rest = feed :: flat items' ∧ feed.kind = .newline
        ∧ Outline marks (exprAt depth) .top items' ∧ Cleared printing σ.isFresh items' c'.rest := by
  obtain ⟨ts, stop'⟩ := c'
  rcases houtline.of_statement hready hflat hrun hopens with
    ⟨token, due, items, rfl, hturn, hmid⟩ | ⟨tokens, statement, items, rfl, hrest, hdone⟩
  · generalize σ.isFresh = fresh at h ⊢
    cases h with
    | @keep _ _ token' _ ts hkind h =>
      -- the first token is kept, so the statement is no marked one, and its tokens are alike in
      -- both lists up to the end of the line
      have hinner := Token.Kind.isInner_of_turn hturn
      rw [Token.Kind.leavesFresh_of_isInner hinner] at h
      have hlike : Like c.rest (token' :: ts) := hflat ▸ .inner hkind hinner (h.reprints.like hmid)
      have hnested : NestedAgree (load c.rest) (exprAt depth) (exprAt (depth' + 2)) :=
        nestedAgree_exprAt (.inr ⟨hload, hlike.load_eq ▸ hload'⟩)
      have hagree : Agree [] [] (room c.rest) (load c.rest) (simpleStatement (exprAt depth))
          (simpleStatement (exprAt (depth' + 2))) := agree_simpleStatement hnested
      have hsame := hagree c ⟨token' :: ts, stop'⟩ hlike (Nat.le_refl _) (Nat.le_refl _)
      rw [hrun] at hsame
      generalize (simpleStatement (exprAt (depth' + 2))).run ⟨token' :: ts, stop'⟩ = result
        at hsame ⊢
      cases hsame with
      | @some _ _ e' halong =>
        obtain ⟨rest, stop⟩ := c
        obtain rfl : token :: flat items = rest := hflat
        have hbehind : ∃ stop stop', Along due [] ⟨flat items, stop⟩ ⟨ts, stop'⟩ e e' := by
          have hless := length_lt_of_run hrun
          cases halong with
          | refl => exact absurd hless (Nat.lt_irrefl _)
          | take _ hturn' halong =>
            obtain rfl := Option.some.inj (hturn.symm.trans hturn')
            exact ⟨_, _, halong⟩
        obtain ⟨stop, stop', halong⟩ := hbehind
        obtain ⟨items', hflat', hmid', h'⟩ := Restates.along halong rfl hmid h
        exact .inl ⟨value, e', items', hflat', hmid', h', rfl,
          run_branchingHead_eq_none hnested hlike (Nat.le_refl _)⟩
  · generalize σ.isFresh = fresh at h ⊢
    cases h with
    | call hprinted h =>
      -- a call is put in its place: in front of what follows a marked statement it is parsed as it
      -- stands
      obtain ⟨token, rest, rfl, htoken⟩ := h.reprints.exists_of_done hdone
      exact .inl ⟨_, _, items, hrest, hdone.mid_of_done, h,
        run_callTokens (hcallable _ _ _ hprinted) htoken,
        fun _ => run_branchingHead_callTokens htoken⟩
    | drop _ hfeed hfeed' h =>
      exact .inr ⟨_, _, hrest.symm, hfeed, hdone.of_feed hfeed,
        .inr ⟨rfl, _, _, rfl, hfeed', h⟩⟩
    | dropLine _ hfeed h =>
      exact .inr ⟨_, _, hrest.symm, hfeed, hdone.of_feed hfeed, .inl ⟨rfl, h⟩⟩

/-- Behind a simple statement there is the end of the line, or a semicolon. -/
theorem Restates.of_end {token : Token} {ts us : List Token}
    (h : Restates printing σ.isFresh items ts) (houtline : Outline marks nested σ items)
    (hσ : σ.isSimple = true) (hflat : flat items = token :: us)
    (hkind : token.kind = .newline ∨ token.kind = .operator ";") :
    ∃ τ items' token' ts', flat items' = us ∧ ts = token' :: ts' ∧ token'.kind = token.kind
      ∧ Outline marks nested τ items' ∧ Restates printing τ.isFresh items' ts'
      ∧ (token.kind = .newline ∧ τ = .top ∨ token.kind = .operator ";" ∧ τ = .next) := by
  have houter : token.kind.isInner = false := by rcases hkind with h | h <;> rw [h] <;> rfl
  have hfinish : token.kind ≠ .finish := by rcases hkind with h | h <;> rw [h] <;> nofun
  obtain ⟨opened, τ, items', rfl, hflat', hafter, hrest⟩ := houtline.of_outer hflat houter hfinish
  generalize hfresh : σ.isFresh = fresh at h
  cases h with
  | keep hsame h =>
    refine ⟨τ, items', _, _, hflat', rfl, hsame.symm, hrest, ?_,
      Stage.isSimple_after hσ houter hafter⟩
    rw [← Stage.isFresh_after hafter, hfresh]
    exact h

theorem Restates.of_feed {feed : Token} {ts us : List Token}
    (h : Restates printing σ.isFresh items ts) (houtline : Outline marks nested σ items)
    (hσ : σ.isSimple = true) (hflat : flat items = feed :: us) (hfeed : feed.kind = .newline) :
    ∃ items' feed' ts', flat items' = us ∧ ts = feed' :: ts' ∧ feed'.kind = .newline
      ∧ Outline marks nested .top items' ∧ Restates printing true items' ts' := by
  obtain ⟨τ, items', feed', ts', hflat', hts, hkind, houtline', h', hτ⟩ :=
    h.of_end houtline hσ hflat (.inl hfeed)
  rcases hτ with ⟨-, rfl⟩ | ⟨heq, -⟩
  · exact ⟨items', feed', ts', hflat', hts, hkind.trans hfeed, houtline', h'⟩
  · cases hfeed.symm.trans heq

theorem Restates.of_semicolon {semicolon : Token} {ts us : List Token}
    (h : Restates printing σ.isFresh items ts) (houtline : Outline marks nested σ items)
    (hσ : σ.isSimple = true) (hflat : flat items = semicolon :: us)
    (hsemicolon : semicolon.kind = .operator ";") :
    ∃ items' semicolon' ts', flat items' = us ∧ ts = semicolon' :: ts'
      ∧ semicolon'.kind = .operator ";" ∧ Outline marks nested .next items'
      ∧ Restates printing false items' ts' := by
  obtain ⟨τ, items', semicolon', ts', hflat', hts, hkind, houtline', h', hτ⟩ :=
    h.of_end houtline hσ hflat (.inr hsemicolon)
  rcases hτ with ⟨heq, -⟩ | ⟨-, rfl⟩
  · cases hsemicolon.symm.trans heq
  · exact ⟨items', semicolon', ts', hflat', hts, hkind.trans hsemicolon, houtline', h'⟩

theorem Bounded.of_suffix {ts ts' : List Token} (h : Bounded depth ts) (hsuffix : ts' <:+ ts) :
    Bounded depth ts' := by
  obtain ⟨front, rfl⟩ := hsuffix
  exact h.behind front

include hcallable in
/-- **A line of simple statements**, in the reprint: it is parsed, unless it ends with the first
statement, of which nothing is printed. Induction on the fuel of its parser. -/
theorem Restates.of_simpleLine {fuel : Nat} {statements : List ParsedStatement}
    (h : Restates printing σ.isFresh items c'.rest)
    (houtline : Outline marks (exprAt depth) σ items) (hready : σ.isReady = true)
    (hflat : flat items = c.rest)
    (hrun : (simpleLine (exprAt depth) fuel).run c = some (statements, d))
    (hnext : d.next ≠ .indent) (hbound : Bounded depth c.rest)
    (hbound' : Bounded (depth' + 2) c'.rest) :
    ∃ items', flat items' = d.rest ∧ Outline marks (exprAt depth) .top items'
      ∧ (Cleared printing σ.isFresh items' c'.rest
        ∨ ((branchingHead (exprAt depth)).run c = none →
            (branchingHead (exprAt (depth' + 2))).run c' = none)
          ∧ ∀ fuel', c'.rest.length ≤ fuel' → ∃ statements' d',
              (simpleLine (exprAt (depth' + 2)) fuel').run c' = some (statements', d')
                ∧ Restates printing true items' d'.rest) := by
  induction fuel generalizing σ c c' statements items with
  | zero => exact absurd hrun nofun
  | succ fuel ih =>
    obtain ⟨value, e, hvalue, hbehind⟩ := lineBehind_of_run hrun
    have hopens : opens c.rest = false :=
      hbehind.opens_eq_false (hflat ▸ houtline.closed) hvalue hnext
    rcases h.of_statement hcallable houtline hready hflat hvalue hopens hbound.load_lt
      hbound'.load_lt with
      ⟨value', e', items', hflat', hmid, h', hvalue', hhead⟩
      | ⟨feed, items', hrest, hfeed, htop, hcleared⟩
    -- the first statement is kept or printed as a call; what follows it decides how the line goes
    -- on
    · have hless : e'.rest.length < c'.rest.length := length_lt_of_run hvalue'
      have hfuel : ∀ {fuel' : Nat}, c'.rest.length ≤ fuel' →
          ∃ n, fuel' = n + 1 ∧ e'.rest.length ≤ n := fun {fuel'} hle =>
        ⟨fuel' - 1, by omega, by omega⟩
      have hmid' : Restates printing (Stage.mid []).isFresh items' e'.rest := h'
      have hline : ∀ {n : Nat} {d : Cursor} {items : List Item},
          LineBehind (exprAt (depth' + 2)) n e' d → Restates printing true items d.rest →
          ∃ statements' d',
            (simpleLine (exprAt (depth' + 2)) (n + 1)).run c' = some (statements', d')
              ∧ Restates printing true items d'.rest := by
        intro n d items hbehind hrest
        obtain ⟨statements', d', hrun', hd'⟩ := run_simpleLine_of_lineBehind hvalue' hbehind
        exact ⟨statements', d', hrun', hd' ▸ hrest⟩
      cases hbehind with
      | @ends feed hrest hfeed =>
        obtain ⟨items₂, feed', ts', hflat₂, he', hfeed', houtline₂, h₂⟩ :=
          hmid'.of_feed hmid rfl (hflat'.trans hrest) hfeed
        refine ⟨items₂, hflat₂, houtline₂, .inr ⟨hhead, fun fuel' hle => ?_⟩⟩
        obtain ⟨n, rfl, -⟩ := hfuel hle
        exact hline (d := ⟨ts', e'.stop⟩) (.ends he' hfeed') h₂
      | @endsLate semicolon feed hrest hsemicolon hfeed =>
        obtain ⟨items₁, semicolon', ts₁, hflat₁, he', hsemicolon', houtline₁, h₁⟩ :=
          hmid'.of_semicolon hmid rfl (hflat'.trans hrest) hsemicolon
        have h₁ : Restates printing Stage.next.isFresh items₁ ts₁ := h₁
        obtain ⟨items₂, feed', ts', hflat₂, rfl, hfeed', houtline₂, h₂⟩ :=
          h₁.of_feed houtline₁ rfl hflat₁ hfeed
        refine ⟨items₂, hflat₂, houtline₂, .inr ⟨hhead, fun fuel' hle => ?_⟩⟩
        obtain ⟨n, rfl, -⟩ := hfuel hle
        exact hline (d := ⟨ts', e'.stop⟩) (.endsLate he' hsemicolon' hfeed') h₂
      | @goesOn semicolon rest others hrest hsemicolon hothers =>
        obtain ⟨items₁, semicolon', ts₁, hflat₁, he', hsemicolon', houtline₁, h₁⟩ :=
          hmid'.of_semicolon hmid rfl (hflat'.trans hrest) hsemicolon
        have hsuffix : rest <:+ c.rest :=
          ((List.suffix_cons semicolon rest).trans ⟨[], hrest.symm⟩).trans
            (Advances.reaches hvalue).suffix
        have hsuffix' : ts₁ <:+ c'.rest :=
          ((List.suffix_cons semicolon' ts₁).trans ⟨[], he'.symm⟩).trans
            (Advances.reaches hvalue').suffix
        have h₁ : Restates printing Stage.next.isFresh items₁
            (Cursor.behind semicolon' ts₁ e'.stop).rest := h₁
        obtain ⟨items₂, hflat₂, houtline₂, hcase⟩ :=
          ih (c := .behind semicolon rest e.stop) h₁ houtline₁ rfl hflat₁ hothers
            (hbound.of_suffix hsuffix) (hbound'.of_suffix hsuffix')
        refine ⟨items₂, hflat₂, houtline₂, .inr ⟨hhead, fun fuel' hle => ?_⟩⟩
        obtain ⟨n, rfl, hn⟩ := hfuel hle
        -- the rest of the line may be gone in the reprint: then the line ends behind the semicolon
        rcases hcase with (⟨hfalse, -⟩ | ⟨-, feed', ts', hts, hfeed', h₂⟩) | ⟨-, hrun'⟩
        · cases hfalse
        · obtain rfl : ts₁ = _ := hts
          exact hline (d := ⟨ts', e'.stop⟩) (.endsLate he' hsemicolon' hfeed') h₂
        · have hn' : ts₁.length ≤ n := by
            rw [he', List.length_cons] at hn
            omega
          obtain ⟨others', d', hothers', h₂⟩ := hrun' n hn'
          exact hline (.goesOn he' hsemicolon' hothers') h₂
    -- nothing is left of the line, so it held one statement, and no semicolon is behind that
    · have hend : flat items' = d.rest := by
        cases hbehind with
        | ends hrest' => exact (List.cons.inj (hrest.symm.trans hrest')).2
        | endsLate hrest' hsemicolon | goesOn hrest' hsemicolon =>
          obtain ⟨rfl, -⟩ := List.cons.inj (hrest.symm.trans hrest')
          cases hfeed.symm.trans hsemicolon
      exact ⟨items', hend, htop, .inl hcleared⟩

/-! ## All the lines of a text -/

/-- The first token of a line goes on with no compound statement in front. -/
theorem next_of_run_simpleLine {fuel : Nat} {statements : List ParsedStatement}
    (hrun : (simpleLine (exprAt depth) fuel).run c = some (statements, d)) :
    c.next.isInner = true ∧ c.next.beginsCompound = false := by
  refine ⟨isInner_of_run_simpleLine (fun _ => nestedAgree_exprAt (.inl rfl)) hrun, ?_⟩
  cases fuel with
  | zero => exact absurd hrun nofun
  | succ fuel =>
    obtain ⟨value, e, hvalue, -⟩ := lineBehind_of_run hrun
    exact begins_of_run_simpleStatement hvalue

theorem not_continues_of_not_beginsCompound {kind : Token.Kind} (hinner : kind.isInner = true)
    (hbegins : kind.beginsCompound = false) : ∀ other ∈ continuations, kind ≠ other := by
  have hcontinuations : ∀ other ∈ continuations,
      other.isInner = false ∨ other.beginsCompound = true := by decide
  rintro _ hother rfl
  rcases hcontinuations _ hother with h | h
  · exact absurd (hinner.symm.trans h) Bool.noConfusion
  · exact absurd (hbegins.symm.trans h) Bool.noConfusion

theorem next_of_run_compoundStatement {patterns : Nat} {suite : TokenParser Unit}
    (hrun : (compoundStatement nested patterns suite).run c = some (true, d)) :
    c.next.isInner = true ∧ ∀ kind ∈ continuations, c.next ≠ kind := by
  unfold compoundStatement at hrun
  rw [run_bind_of (run_peek c)] at hrun
  split at hrun
  case h_10 => cases hrun
  all_goals
    rw [‹c.next = _›]
    exact ⟨rfl, by simp [continuations]⟩

/-- So does the first token of any line, and it is no mark. -/
theorem next_of_run_statementLine {patterns : Nat} {suite : TokenParser Unit} [Advances suite]
    {statements : List ParsedStatement}
    (hrun : (statementLine (exprAt depth) patterns suite).run c = some (statements, d)) :
    c.next.isInner = true ∧ ∀ kind ∈ continuations, c.next ≠ kind := by
  unfold statementLine at hrun
  obtain ⟨position, c', hstart, hkind⟩ := run_bind_eq_some.mp hrun
  obtain ⟨rfl, -⟩ := eq_of_run_start hstart
  rw [run_bind_of (run_peek c')] at hkind
  split at hkind
  next hsign =>
    rw [hsign]
    exact ⟨rfl, by decide⟩
  next =>
    obtain ⟨found, e, hcompound, hrest⟩ := run_bind_eq_some.mp hkind
    cases found with
    | true => exact next_of_run_compoundStatement hcompound
    | false =>
      obtain rfl := eq_of_run_compoundStatement hcompound
      rw [if_neg Bool.false_ne_true, run_bind_of (run_remaining e)] at hrest
      obtain ⟨hinner, hbegins⟩ := next_of_run_simpleLine hrest
      exact ⟨hinner, not_continues_of_not_beginsCompound hinner hbegins⟩

/-- No indentation is in front of a line outside of blocks. -/
theorem next_of_run_statementsUpTo {patterns fuel : Nat} {suite : TokenParser Unit}
    [Advances suite] {statements : List ParsedStatement}
    (hrun : (statementsUpTo .finish (statementLine (exprAt depth) patterns suite) fuel).run c
      = some (statements, d)) : c.next ≠ .indent := by
  intro hindent
  cases fuel with
  | zero => exact absurd hrun nofun
  | succ fuel =>
    unfold statementsUpTo at hrun
    rw [run_bind_of (run_found_of_ne (hindent ▸ nofun))] at hrun
    obtain ⟨first, e, hfirst, -⟩ := run_bind_eq_some.mp hrun
    obtain ⟨hinner, -⟩ := next_of_run_statementLine hfirst
    rw [hindent] at hinner
    cases hinner

/-- The lines of a text, one more. -/
theorem run_statementsUpTo_cons {line : TokenParser (List ParsedStatement)} {fuel : Nat}
    {first others : List ParsedStatement} (hne : c.next ≠ .finish)
    (hfirst : line.run c = some (first, e))
    (hothers : (statementsUpTo .finish line fuel).run e = some (others, d)) :
    (statementsUpTo .finish line (fuel + 1)).run c = some (first ++ others, d) := by
  unfold statementsUpTo
  rw [run_bind_of (run_found_of_ne hne), if_neg Bool.false_ne_true, run_bind_of hfirst,
    run_bind_of hothers]
  rfl

/-- A line of simple statements is a line. -/
theorem run_statementLine_of_simpleLine {patterns : Nat} {suite : TokenParser Unit}
    {statements : List ParsedStatement}
    (hrun : (simpleLine (exprAt depth) c.rest.length).run c = some (statements, d))
    (hhead : (branchingHead (exprAt depth)).run c = none) :
    (statementLine (exprAt depth) patterns suite).run c = some (statements, d) := by
  obtain ⟨hinner, hbegins⟩ := next_of_run_simpleLine hrun
  have hne : c.next ≠ .operator "@" := by
    intro heq
    rw [heq] at hbegins
    cases hbegins
  have hstart : ∃ position, TokenParser.start.run c = some (position, c) := by
    obtain ⟨rest, stop⟩ := c
    cases rest with
    | nil => cases hinner
    | cons first rest => exact ⟨first.start, run_start first rest stop⟩
  obtain ⟨position, hstart⟩ := hstart
  unfold statementLine
  rw [run_bind_of hstart, run_bind_of (run_peek c), if_neg hne,
    run_bind_of (run_compoundStatement_of_not_begins hbegins hhead), if_neg Bool.false_ne_true,
    run_bind_of (run_remaining c), hrun]

/-- The lines of a program, in which nothing is nested deeper than `depth`. -/
def lineAt (depth : Nat) : TokenParser (List ParsedStatement) :=
  statementLine (exprAt depth) depth (suiteAt (exprAt depth) depth)

instance (depth : Nat) : Advances (lineAt depth) := by unfold lineAt; infer_instance

theorem consumes_lineAt (depth : Nat) : Consumes (lineAt depth) := consumes_statementLine depth

/-- The lines behind a cursor are parsed, and do not go on with what is in front of it. -/
def Parses (depth : Nat) (c : Cursor) : Prop :=
  c.rest ≠ [] ∧ (∀ kind ∈ continuations, c.next ≠ kind)
    ∧ ∀ fuel, c.rest.length ≤ fuel → ∃ statements d,
      (statementsUpTo .finish (lineAt depth) fuel).run c = some (statements, d)

/-- One more line. -/
theorem Parses.cons {first : List ParsedStatement} (h : Parses depth e)
    (hfirst : (lineAt depth).run c = some (first, e)) : Parses depth c := by
  obtain ⟨hinner, hnext⟩ := next_of_run_statementLine hfirst
  have hless := (consumes_lineAt depth).length_lt hfirst
  have hfinish : c.next ≠ .finish := by
    intro heq
    rw [heq] at hinner
    cases hinner
  refine ⟨List.length_pos_iff.mp (by omega), hnext, fun fuel hfuel => ?_⟩
  cases fuel with
  | zero => omega
  | succ fuel =>
    obtain ⟨-, -, hrest⟩ := h
    obtain ⟨others, d, hothers⟩ := hrest fuel (by omega)
    exact ⟨_, d, run_statementsUpTo_cons hfinish hfirst hothers⟩

/-- The end of the text. -/
theorem Parses.finish {token : Token} {stop : Position} (hkind : token.kind = .finish) :
    Parses depth ⟨token :: ts, stop⟩ := by
  have hnext : (Cursor.mk (token :: ts) stop).next = .finish := hkind
  refine ⟨List.cons_ne_nil token ts, by rw [hnext]; decide, fun fuel hfuel => ?_⟩
  cases fuel with
  | zero => exact absurd hfuel (Nat.not_succ_le_zero _)
  | succ fuel =>
    unfold statementsUpTo
    rw [← hkind, run_bind_of (run_found token ts stop), if_pos rfl]
    exact ⟨_, _, rfl⟩

/-- **A compound statement** of the text that is printed is one of the reprint, if what follows does
not go on with it. -/
theorem Restates.of_compound {first : List ParsedStatement}
    (h : Restates printing σ.isFresh items c'.rest)
    (houtline : Outline marks (exprAt depth) σ items) (hflat : flat items = c.rest)
    (hpath : Path σ c.rest (.line 0) e.rest) (hrun : (lineAt depth).run c = some (first, e))
    (hbound : Bounded depth c.rest) (hbound' : Bounded depth' c'.rest)
    (hbulk : bulk c.rest ≤ depth) (hbulk' : bulk c'.rest ≤ depth') :
    ∃ items' ts', flat items' = e.rest ∧ Outline marks (exprAt depth) (.line 0) items'
      ∧ Restates printing true items' ts' ∧ ts' <:+ c'.rest
      ∧ (ts' ≠ [] → (∀ kind ∈ continuations, nextKind ts' ≠ kind) →
        ∃ first' e', (lineAt depth').run c' = some (first', e') ∧ e'.rest = ts') := by
  obtain ⟨n, items', ts', hbeside, -, hflat', houtline', h'⟩ :=
    Restates.beside (l := min depth depth' - 1) hpath rfl hflat houtline hbound hbound' (by omega) h
  have hless := consumes_lineAt depth c first e hrun
  have hpos : 0 < n := by
    refine Nat.pos_of_ne_zero fun hzero => ?_
    subst hzero
    rw [hbeside.eq_of_zero.1] at hless
    exact absurd hless (Nat.lt_irrefl _)
  refine ⟨items', ts', hflat', houtline', h', hbeside.suffix', ?_⟩
  intro hne hfresh
  have hdepth := hbound.load_lt
  have hdepth' := hbound'.load_lt
  have hnested : NestedAgree (min depth depth' - 1) (exprAt depth) (exprAt depth') :=
    nestedAgree_exprAt (.inr ⟨by omega, by omega⟩)
  -- what is in front of the next line has as many characters in the reprint
  have hsame := hbeside.bulk_eq
  have hr : bulk c.rest - bulk e.rest ≤ depth := by omega
  have hr' : bulk c.rest - bulk e.rest ≤ depth' := by omega
  have hbodies : Bodies (min depth depth' - 1) e.rest ts' (bulk c.rest - bulk e.rest)
      (suiteAt (exprAt depth) depth) (suiteAt (exprAt depth') depth') :=
    ⟨hne, hfresh, carries_suiteAt hnested hne hfresh hr hr'⟩
  obtain ⟨first', e', m, hrun', -, -, -, hend⟩ :=
    carries_statementLine hnested hbodies hr hr' n c c' first e hpos (by omega) hbeside hrun
      (List.suffix_refl _)
  obtain rfl : m = 0 := by
    have := hend.length_eq
    omega
  exact ⟨first', e', hrun', hend.eq_of_zero.2⟩

/-- The end of the text is kept. -/
theorem Outline.exists_of_finish (h : Outline marks nested σ items)
    (hfinish : nextKind (flat items) = .finish) :
    ∃ token items', items = .keep token :: items' ∧ token.kind = .finish := by
  cases h with
  | finish _ _ hkind => exact ⟨_, _, rfl, hkind⟩
  | token => exact ⟨_, _, rfl, hfinish⟩
  | plain => exact ⟨_, _, rfl, hfinish⟩
  | mark _ _ _ hturns hstart =>
    obtain ⟨first, others, due, rfl, -, hturn, -⟩ := exists_of_turns hturns hstart
    have hkind : first.kind = .finish := hfinish
    rw [hkind] at hturn
    cases hturn

include hcallable in
/-- **The reprint is parsed.** Induction on the fuel of the parser of the text that is printed, one
line at a time. -/
theorem Restates.parses {fuel : Nat} {statements : List ParsedStatement}
    (h : Restates printing true items c'.rest) (houtline : Outline marks (exprAt depth) σ items)
    (hσ : σ = .top ∨ σ = .line 0) (hflat : flat items = c.rest)
    (hrun : (statementsUpTo .finish (lineAt depth) fuel).run c = some (statements, d))
    (hbound : Bounded depth c.rest) (hbound' : Bounded (depth' + 2) c'.rest)
    (hbulk : bulk c.rest ≤ depth) (hbulk' : bulk c'.rest ≤ depth' + 2) :
    Parses (depth' + 2) c' := by
  induction fuel generalizing σ c c' d items statements with
  | zero => exact absurd hrun nofun
  | succ fuel ih =>
    have hclosed : Closed c.rest := hflat ▸ houtline.closed
    have hready : σ.isReady = true := by rcases hσ with rfl | rfl <;> rfl
    have hfresh : σ.isFresh = true := by rcases hσ with rfl | rfl <;> rfl
    unfold statementsUpTo at hrun
    by_cases hfinish : c.next = .finish
    · obtain ⟨token, items, rfl, hkind⟩ :=
        houtline.exists_of_finish (by rw [hflat]; exact hfinish)
      obtain ⟨ts, stop⟩ := c'
      cases h with
      | keep hsame => exact .finish (hsame.symm.trans hkind)
    · rw [run_bind_of (run_found_of_ne hfinish), if_neg Bool.false_ne_true] at hrun
      obtain ⟨first, e, hfirst, hrest⟩ := run_bind_eq_some.mp hrun
      obtain ⟨others, e', hothers, -⟩ := run_bind_eq_some.mp hrest
      have hsuffix : e.rest <:+ c.rest := (Advances.reaches hfirst).suffix
      -- what is behind the first line is parsed by induction, as it is at the end of both lists
      have hmore : ∀ {τ : Stage} {items' : List Item} {e' : Cursor},
          Restates printing true items' e'.rest → Outline marks (exprAt depth) τ items' →
          τ = .top ∨ τ = .line 0 → flat items' = e.rest → e'.rest <:+ c'.rest →
          Parses (depth' + 2) e' :=
        fun h' houtline' hτ hflat' hts => ih h' houtline' hτ hflat' hothers
          (hbound.of_suffix hsuffix) (hbound'.of_suffix hts)
          ((bulk_le_of_suffix hsuffix).trans hbulk) ((bulk_le_of_suffix hts).trans hbulk')
      have hnested : ∀ l, NestedAgree l (exprAt depth) (exprAt depth) :=
        fun _ => nestedAgree_exprAt (.inl rfl)
      have hsuite : ∀ n, Moves (.head n) (fun _ => .line n) (suiteAt (exprAt depth) depth) :=
        fun n => moves_suiteAt hnested _
      rw [← hfresh] at h
      rcases statementLine_cases hnested hsuite (Stage.enters_of_eq hσ) hclosed hfirst with
        ⟨hpath, -⟩ | ⟨-, hcompound, hsimple⟩
      -- the tokens behind a compound statement must not go on with it; that is known of them once
      -- they are known to be parsed
      · obtain ⟨items', ts', hflat', houtline', h', hts, hline⟩ :=
          h.of_compound houtline hflat hpath hfirst hbound hbound' hbulk hbulk'
        obtain ⟨hne, hnext, -⟩ : Parses (depth' + 2) ⟨ts', ⟨1, 0⟩⟩ :=
          hmore h' houtline' (.inr rfl) hflat' hts
        obtain ⟨first', e', hfirst', rfl⟩ := hline hne hnext
        exact (hmore h' houtline' (.inr rfl) hflat' hts).cons hfirst'
      · have hindent : e.next ≠ .indent := next_of_run_statementsUpTo hothers
        obtain ⟨items', hflat', houtline', hcleared | ⟨hhead, hline⟩⟩ :=
          h.of_simpleLine hcallable houtline hready hflat hsimple hindent hbound hbound'
        -- nothing is left of the line, and the reprint is at what follows it
        · obtain ⟨-, h'⟩ := hcleared.resolve_right fun hlate =>
            absurd (hfresh.symm.trans hlate.1) Bool.noConfusion
          exact hmore h' houtline' (.inl rfl) hflat' (List.suffix_refl _)
        · obtain ⟨first', e', hfirst', h'⟩ := hline c'.rest.length (Nat.le_refl _)
          have hline' : (lineAt (depth' + 2)).run c' = some (first', e') :=
            run_statementLine_of_simpleLine hfirst'
              (hhead (run_branchingHead_of_compoundStatement hcompound))
          exact (hmore h' houtline' (.inl rfl) hflat' (Advances.reaches hfirst').suffix).cons hline'

end ExpectFile.Grammar
