import ExpectFile.Grammar.Lexer
import ExpectFile.Proofs.Grammar.Numbers
import ExpectFile.Proofs.Text.Positions
import Mathlib.Data.List.TakeWhile

/-!
# How tokens lie in a text

The lexer loses nothing: the visible tokens, one after the other, are spelled in the text in this
order, each at the place that it says, and between two of them stands nothing but blanks, ends of
lines, continued lines and comments (`Filler`). The marks for lines and indentation have no
spelling, and their places do not matter here.

* **`lexeme?_eq_append`** — a lexeme is cut off the front of a text.
* **`laidOut_tokensFrom`** — the step from place to place; **`laidOut_tokens?`** — a whole text.
-/

namespace ExpectFile.Grammar

open Text

/-! ## Between tokens -/

/-- What may stand between two tokens: blanks and ends of lines, backslashes that continue a line,
and comments, which hold no line break. -/
inductive Filler : List Char → Prop where
  | nil : Filler []
  | blank {c : Char} {rest : List Char} (hblank : isGap c = true ∨ c = '\n')
      (hrest : Filler rest) : Filler (c :: rest)
  | continuation {rest : List Char} (hrest : Filler rest) : Filler ('\\' :: '\n' :: rest)
  | comment {text rest : List Char} (hline : '\n' ∉ text) (hrest : Filler rest) :
      Filler ('#' :: (text ++ rest))

namespace Filler

variable {front back : List Char}

theorem append (h : Filler front) (hback : Filler back) : Filler (front ++ back) := by
  induction h with
  | nil => exact hback
  | blank hblank _ ih => exact .blank hblank ih
  | continuation _ ih => exact .continuation ih
  | comment hline _ ih =>
    rw [List.cons_append, List.append_assoc]
    exact .comment hline ih

theorem of_blanks (h : ∀ c ∈ front, isGap c = true) : Filler front := by
  induction front with
  | nil => exact .nil
  | cons c rest ih =>
    obtain ⟨hc, hrest⟩ := List.forall_mem_cons.mp h
    exact .blank (.inl hc) (ih hrest)

end Filler

/-- `LaidOut position text tokens`: the visible ones of the tokens are spelled in the text, one
after the other, with nothing but fillers between them. The text begins at the position; behind a
token there is always more of it. -/
inductive LaidOut : Position → List Char → List Token → Prop where
  | finish {position : Position} {text : List Char} (hfiller : Filler text) :
      LaidOut position text []
  | mark {position : Position} {text : List Char} {token : Token} {tokens : List Token}
      (hmark : token.isVisible = false) (hrest : LaidOut position text tokens) :
      LaidOut position text (token :: tokens)
  | token {position : Position} {filler spelling text : List Char} {kind : Token.Kind}
      {tokens : List Token} (hfiller : Filler filler)
      (hvisible : ∀ start stop, (Token.mk kind start stop).isVisible = true)
      (hspelling : ∀ symbol, kind = .operator symbol → spelling = symbol.toList)
      (hback : text ≠ [])
      (hrest : LaidOut ((position.afterText filler).afterText spelling) text tokens) :
      LaidOut position (filler ++ (spelling ++ text))
        (⟨kind, position.afterText filler, (position.afterText filler).afterText spelling⟩ :: tokens)

namespace LaidOut

variable {position : Position} {text : List Char} {tokens : List Token}

/-- More filler may stand in front. -/
theorem skip {front : List Char} (hfront : Filler front)
    (h : LaidOut (position.afterText front) text tokens) :
    LaidOut position (front ++ text) tokens := by
  generalize hstart : position.afterText front = start at h
  induction h with
  | finish hfiller => exact .finish (hfront.append hfiller)
  | mark hmark _ ih => exact .mark hmark (ih hstart)
  | @token _ filler spelling text kind tokens hfiller hvisible hspelling hback hrest _ =>
    subst hstart
    rw [← Position.afterText_append position front] at hrest ⊢
    rw [← List.append_assoc]
    exact .token (hfront.append hfiller) hvisible hspelling hback hrest

/-- Marks may stand in front. -/
theorem marks {place : Position} {kinds : List Token.Kind}
    (hkinds : ∀ kind ∈ kinds, kind = .indent ∨ kind = .dedent) (h : LaidOut position text tokens) :
    LaidOut position text (marksAt place kinds ++ tokens) := by
  induction kinds with
  | nil => exact h
  | cons kind rest ih =>
    obtain ⟨hkind, hrest⟩ := List.forall_mem_cons.mp hkinds
    rcases hkind with rfl | rfl <;> exact .mark rfl (ih hrest)

end LaidOut

/-! ## Lexemes -/

theorem literalLetters_eq_append {text letters quoted : List Char}
    (h : literalLetters text = some (letters, quoted)) : text = letters ++ quoted := by
  unfold literalLetters at h
  repeat' split at h
  all_goals first
    | (cases h; rfl)
    | cases h

theorem shortBody_eq_append {mark : Char} {text body rest : List Char}
    (h : shortBody mark text = some (body, rest)) : text = body ++ mark :: rest := by
  fun_induction shortBody mark text generalizing body rest with
  | case1 => cases h
  | case2 c others ih =>
    obtain ⟨run, hrun, heq⟩ := Option.map_eq_some_iff.mp h
    cases heq
    rw [ih hrun, List.cons_append, List.cons_append]
  | case3 others =>
    cases h
    rfl
  | case4 others => cases h
  | case5 c others _ _ _ ih =>
    obtain ⟨run, hrun, heq⟩ := Option.map_eq_some_iff.mp h
    cases heq
    rw [ih hrun, List.cons_append]

theorem longBody_eq_append {mark : Char} {text body rest : List Char}
    (h : longBody mark text = some (body, rest)) : text = body ++ mark :: mark :: mark :: rest := by
  fun_induction longBody mark text generalizing body rest with
  | case1 => cases h
  | case2 c others ih =>
    obtain ⟨run, hrun, heq⟩ := Option.map_eq_some_iff.mp h
    cases heq
    rw [ih hrun, List.cons_append, List.cons_append]
  | case3 c others _ hmark =>
    obtain ⟨rfl, hmarks⟩ := hmark
    cases h
    obtain ⟨after, rfl⟩ := List.isPrefixOf_iff_prefix.mp hmarks
    rfl
  | case4 c others _ _ ih =>
    obtain ⟨run, hrun, heq⟩ := Option.map_eq_some_iff.mp h
    cases heq
    rw [ih hrun, List.cons_append]

theorem quotedBody_eq_append {quoted marks body rest : List Char}
    (h : quotedBody quoted = some (marks, body, rest)) :
    quoted = marks ++ (body ++ (marks ++ rest)) := by
  cases quoted with
  | nil => cases h
  | cons mark others =>
    change (if [mark, mark].isPrefixOf others then _ else _) = _ at h
    split at h
    · rename_i hmarks
      obtain ⟨run, hrun, heq⟩ := Option.map_eq_some_iff.mp h
      cases heq
      obtain ⟨after, rfl⟩ := List.isPrefixOf_iff_prefix.mp hmarks
      have hafter : after = run.1 ++ mark :: mark :: mark :: run.2 := longBody_eq_append hrun
      rw [hafter]
      rfl
    · obtain ⟨run, hrun, heq⟩ := Option.map_eq_some_iff.mp h
      cases heq
      rw [shortBody_eq_append hrun]
      rfl

theorem word_eq_some {text after spelling rest : List Char} {kind : Token.Kind}
    (h : word text after = some (kind, spelling, rest)) :
    spelling = text ∧ rest = after ∧ (∀ start stop, (Token.mk kind start stop).isVisible = true)
      ∧ ∀ symbol, kind ≠ .operator symbol := by
  unfold word at h
  split at h
  · cases h
    exact ⟨rfl, rfl, fun _ _ => rfl, nofun⟩
  · split at h
    · cases h
      exact ⟨rfl, rfl, fun _ _ => rfl, nofun⟩
    · cases h

theorem operator?_eq_append {text : List Char} {symbol : String}
    (h : operator? text = some symbol) : text = symbol.toList ++ text.drop symbol.length := by
  have hfront : symbol.toList.isPrefixOf text = true := by
    simpa using List.find?_some h
  rw [← String.length_toList]
  exact (List.prefix_iff_eq_append.mp (List.isPrefixOf_iff_prefix.mp hfront)).symm

/-- **A lexeme is cut off the front of a text.** It is visible, and an operator is spelled as it is
called. -/
theorem lexeme?_eq_append {text spelling rest : List Char} {kind : Token.Kind}
    (h : lexeme? text = some (kind, spelling, rest)) :
    text = spelling ++ rest ∧ (∀ start stop, (Token.mk kind start stop).isVisible = true)
      ∧ ∀ symbol, kind = .operator symbol → spelling = symbol.toList := by
  unfold lexeme? at h
  split at h
  · rename_i letters quoted hletters
    obtain ⟨⟨marks, body, after⟩, hquoted, h⟩ := Option.bind_eq_some_iff.mp h
    cases h
    refine ⟨?_, fun _ _ => rfl, nofun⟩
    rw [literalLetters_eq_append hletters, quotedBody_eq_append hquoted]
    simp only [List.append_assoc]
  · split at h
    · cases h
    · rename_i c others hletters
      split at h
      · rename_i hfirst
        obtain ⟨⟨value, after⟩, hnumber, h⟩ := Option.bind_eq_some_iff.mp h
        cases h
        have hc : c.isDigit = true ∨ c = '.' := by
          simp only [Bool.or_eq_true, Bool.and_eq_true, beq_iff_eq] at hfirst
          exact hfirst.imp id And.left
        -- what a number leaves is at the end of the text, so its spelling is what is in front of
        -- that
        obtain ⟨front, hfront⟩ := (number?_suffix hc hnumber).trans (List.suffix_cons c others)
        refine ⟨?_, fun _ _ => rfl, nofun⟩
        rw [← hfront, List.length_append, Nat.add_sub_cancel, List.take_left]
      · split at h
        · obtain ⟨rfl, rfl, hvisible, hkind⟩ := word_eq_some h
          exact ⟨List.takeWhile_append_dropWhile.symm, hvisible,
            fun symbol heq => absurd heq (hkind symbol)⟩
        · obtain ⟨symbol, hsymbol, h⟩ := Option.bind_eq_some_iff.mp h
          cases h
          exact ⟨operator?_eq_append hsymbol, fun _ _ => rfl,
            fun _ heq => by rw [Token.Kind.operator.inj heq]⟩

/-! ## Marks -/

theorem skip_eq_some {c : Char} {outcome : Option (Indentation × List Char × List Char)}
    {found : Indentation} {skipped rest : List Char}
    (h : indentation.skip c outcome = some (found, skipped, rest)) :
    ∃ others, skipped = c :: others ∧ outcome = some (found, others, rest) := by
  unfold indentation.skip at h
  split at h
  · cases h
    exact ⟨_, rfl, rfl⟩
  · cases h

/-- The blanks at the start of a line are skipped, and nothing else. -/
theorem filler_of_indentation {depth found : Indentation} {carried : Option Nat}
    {text skipped rest : List Char}
    (h : indentation depth carried text = some (found, skipped, rest)) :
    text = skipped ++ rest ∧ Filler skipped := by
  fun_induction indentation depth carried text generalizing found skipped rest with
  | case1 =>
    cases h
    exact ⟨rfl, .nil⟩
  | case2 _ _ others ih | case3 _ _ others _ ih | case4 _ _ others _ _ ih =>
    -- a blank
    obtain ⟨taken, rfl, hrest⟩ := skip_eq_some h
    obtain ⟨rfl, htaken⟩ := ih hrest
    exact ⟨rfl, .blank (.inl rfl) htaken⟩
  | case5 => cases h
  | case6 =>
    rename_i ih
    obtain ⟨_, rfl, hbreak⟩ := skip_eq_some h
    obtain ⟨taken, rfl, hrest⟩ := skip_eq_some hbreak
    obtain ⟨rfl, htaken⟩ := ih hrest
    exact ⟨rfl, .continuation htaken⟩
  | case7 => cases h
  | case8 =>
    cases h
    exact ⟨rfl, .nil⟩

/-- A line begins with marks of indentation only. -/
theorem eq_of_mem_indentationMarks {depth : Indentation} {opened after : List Indentation}
    {kinds : List Token.Kind} (h : indentationMarks depth opened = some (kinds, after))
    {kind : Token.Kind} (hkind : kind ∈ kinds) : kind = .indent ∨ kind = .dedent := by
  unfold indentationMarks at h
  dsimp only at h
  split at h
  · split at h
    · cases h
      exact .inl (List.mem_singleton.mp hkind)
    · cases h
  · obtain ⟨result, -, heq⟩ := Option.map_eq_some_iff.mp h
    cases heq
    exact .inr (List.eq_of_mem_replicate hkind)

/-! ## Texts -/

theorem not_mem_takeWhile_isNotLineFeed (text : List Char) :
    '\n' ∉ text.takeWhile isNotLineFeed := fun hmem => absurd (List.mem_takeWhile_imp hmem) nofun

/-- A comment goes up to the end of its line. -/
theorem filler_comment (text : List Char) : Filler ('#' :: text.takeWhile isNotLineFeed) := by
  rw [← List.append_nil (text.takeWhile _)]
  exact .comment (not_mem_takeWhile_isNotLineFeed text) .nil

/-- The rest of a line without tokens: perhaps a comment, and the line feed. -/
theorem filler_of_lineEnd {c newline : Char} {after others : List Char} (h : c = '#' ∨ c = '\n')
    (hrest : (c :: after).dropWhile isNotLineFeed = newline :: others) :
    Filler ((c :: after).takeWhile isNotLineFeed ++ [newline]) := by
  have hnewline : newline = '\n' := by
    have hhead := List.head?_dropWhile_not isNotLineFeed (c :: after)
    rw [hrest] at hhead
    simpa [isNotLineFeed] using hhead
  have hfeed : Filler [newline] := .blank (.inr hnewline) .nil
  rcases h with rfl | rfl
  · exact (filler_comment after).append hfeed
  · exact hfeed

/-- No line ends without a line feed. -/
theorem ne_nil_of_tokensFrom {fuel : Nat} {state : LexerState} {text : List Char}
    {tokens : List Token} (h : tokensFrom fuel false state text = some tokens) : text ≠ [] := by
  rintro rfl
  cases fuel <;> cases h

/-- **From a place in the text on**, the tokens lie in what is left. Induction on the fuel; each
step takes filler, or the spelling of one token. -/
theorem laidOut_tokensFrom {fuel : Nat} {fresh : Bool} {state : LexerState} {text : List Char}
    {tokens : List Token} (h : tokensFrom fuel fresh state text = some tokens) :
    LaidOut state.position text tokens := by
  induction fuel generalizing fresh state text tokens with
  | zero => cases h
  | succ fuel ih =>
    cases fresh with
    | true =>
      unfold tokensFrom at h
      obtain ⟨⟨depth, skipped, rest⟩, hindentation, hline⟩ := Option.bind_eq_some_iff.mp h
      clear h
      obtain ⟨rfl, hskipped⟩ := filler_of_indentation hindentation
      refine LaidOut.skip hskipped ?_
      dsimp only at hline
      split at hline
      · split at hline
        · obtain ⟨⟨marks, after⟩, hmarks, htokens⟩ := Option.bind_eq_some_iff.mp hline
          cases htokens
          rw [marksAt, List.map_append]
          exact .marks (fun _ => eq_of_mem_indentationMarks hmarks) (.mark rfl (.finish .nil))
        · cases hline
      · rename_i c after
        split at hline
        · rename_i hend
          split at hline
          · cases hline
          · rename_i newline others hrest
            rw [← @List.takeWhile_append_dropWhile _ isNotLineFeed (c :: after), hrest,
              List.append_cons]
            exact .skip (filler_of_lineEnd hend hrest) (ih hline)
        · split at hline
          · obtain ⟨⟨marks, opened⟩, hmarks, hrest⟩ := Option.bind_eq_some_iff.mp hline
            obtain ⟨others, hothers, htokens⟩ := Option.bind_eq_some_iff.mp hrest
            cases htokens
            exact .marks (fun _ => eq_of_mem_indentationMarks hmarks) (ih hothers)
          · exact ih hline
    | false =>
      unfold tokensFrom at h
      dsimp only at h
      have hgap : Filler (text.takeWhile isGap) := .of_blanks fun c hc => List.mem_takeWhile_imp hc
      rw [← @List.takeWhile_append_dropWhile _ isGap text]
      refine LaidOut.skip hgap ?_
      generalize state.position.afterText (text.takeWhile isGap) = start at h ⊢
      generalize text.dropWhile isGap = rest at h ⊢
      split at h
      · cases h
      · rename_i after
        obtain ⟨others, hothers, hrest⟩ := Option.bind_eq_some_iff.mp h
        have hafter : LaidOut start ('\n' :: after) others :=
          LaidOut.skip (.blank (.inr rfl) .nil) (ih hothers)
        cases hrest
        split
        · exact .mark rfl hafter
        · exact hafter
      · rename_i after
        rw [← @List.takeWhile_append_dropWhile _ isNotLineFeed after, ← List.cons_append]
        exact LaidOut.skip (filler_comment after) (ih h)
      · rename_i after
        split at h
        · cases h
        · exact LaidOut.skip (.continuation .nil) (ih h)
      · rename_i c after _ _ _
        obtain ⟨⟨kind, spelling, behind⟩, hlexeme, hline⟩ := Option.bind_eq_some_iff.mp h
        obtain ⟨due, hdue, hmore⟩ := Option.bind_eq_some_iff.mp hline
        obtain ⟨others, hothers, htokens⟩ := Option.bind_eq_some_iff.mp hmore
        cases htokens
        obtain ⟨hsplit, hvisible, hspelling⟩ := lexeme?_eq_append hlexeme
        rw [hsplit]
        exact .token .nil hvisible hspelling (ne_nil_of_tokensFrom hothers) (ih hothers)

/-- **The tokens of a text** lie in it. -/
theorem laidOut_tokens? {text : List Char} {tokens : List Token} (h : tokens? text = some tokens) :
    LaidOut ⟨1, 0⟩ (unifyBreaks text) tokens :=
  laidOut_tokensFrom h

end ExpectFile.Grammar
