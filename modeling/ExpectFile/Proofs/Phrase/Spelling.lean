import ExpectFile.Proofs.Grammar.Layout
import ExpectFile.Proofs.Grammar.Progress

/-!
# Where the tokens of a text are spelled

The lexer works on a text in which every break is a line feed; extents are offsets into the text as
it is. Here the tokens are found in the text itself: one after the other, at the offsets that their
places denote, with nothing between them but blanks, breaks, continued lines and comments.

* **`spelled_of_laidOut`** — from the text with line feeds to the text itself.
* **`Spelled.of_append`** — taking tokens leads on in the text, to the end of the last visible one.
* **`signs_of_filler`** — between two tokens, an `@` stands in a comment only.
-/

namespace ExpectFile

open Grammar LineTable

/-- `Spelled text front back tokens`: behind the characters `front` of the text, in the rest `back`
of it, the visible ones of the tokens are spelled one after the other, with nothing but fillers
between them. -/
inductive Spelled (text : String) : (front back : List Char) → List Token → Prop where
  | finish (front back : List Char) : Spelled text front back []
  | mark {front back : List Char} {token : Token} {tokens : List Token}
      (hmark : token.isVisible = false) (hrest : Spelled text front back tokens) :
      Spelled text front back (token :: tokens)
  | token {front gap spelling back : List Char} {token : Token} {tokens : List Token}
      (hgap : Filler (lineFeeds gap)) (hvisible : token.isVisible = true)
      (hspelling : ∀ symbol, token.kind = .operator symbol → lineFeeds spelling = symbol.toList)
      (hstart : (ofText text).Denotes token.start (front ++ gap).length)
      (hstop : (ofText text).Denotes token.stop (front ++ gap ++ spelling).length)
      (hrest : Spelled text (front ++ gap ++ spelling) back tokens) :
      Spelled text front (gap ++ (spelling ++ back)) (token :: tokens)

/-- What is in front of the end of a text is not reached by what is added there. -/
theorem exists_eq_append_of_append {front back text closing : List Char}
    (h : front ++ back = text ++ closing) (hback : back ≠ []) (hclosing : closing.length ≤ 1) :
    ∃ rest, text = front ++ rest ∧ back = rest ++ closing := by
  rcases List.append_eq_append_iff.mp h with ⟨rest, htext, hrest⟩ | ⟨rest, hfront, hrest⟩
  · exact ⟨rest, htext, hrest⟩
  · obtain ⟨c, others, rfl⟩ := List.exists_cons_of_ne_nil hback
    cases rest with
    | nil => exact ⟨[], by simpa using hfront.symm, by simpa using hrest.symm⟩
    | cons d more =>
      rw [hrest] at hclosing
      simp only [List.length_append, List.length_cons] at hclosing
      omega

/-- **The tokens in the text itself.** Induction along the text with line feeds, each piece of which
is cut out of the text. -/
theorem spelled_of_laidOut {text : String} {front back closing unified : List Char}
    {position : Position} {tokens : List Token} (h : LaidOut position unified tokens)
    (htext : text.toList = front ++ back) (hapart : Apart front back)
    (hposition : position = Position.afterText ⟨1, 0⟩ (lineFeeds front))
    (hunified : unified = lineFeeds back ++ closing) (hclosing : closing.length ≤ 1) :
    Spelled text front back tokens := by
  induction h generalizing front back with
  | finish _ => exact .finish front back
  | mark hmark _ ih => exact .mark hmark (ih htext hapart hposition hunified)
  | @token position filler spelling rest kind tokens hfiller hvisible hspelling hback _ ih =>
    rw [← List.append_assoc] at hunified
    -- tokens are left behind this one, so it does not reach into what closes the text
    obtain ⟨last, hlast, hrest⟩ := exists_eq_append_of_append hunified hback hclosing
    rw [List.append_assoc] at hlast
    obtain ⟨gap, others, rfl, hgap, rfl, hothers⟩ := exists_lineFeeds_eq_append hlast
    obtain ⟨word, more, rfl, hword, rfl, rfl⟩ := exists_lineFeeds_eq_append hothers
    have hstart : Apart (front ++ gap) (word ++ more) := hapart.append_left hgap
    have hstop : Apart (front ++ gap ++ word) more := hstart.append_left hword
    have hgaps : position.afterText (lineFeeds gap)
        = Position.afterText ⟨1, 0⟩ (lineFeeds (front ++ gap)) := by
      rw [lineFeeds_append hapart.of_append_right, Position.afterText_append, hposition]
    have hwords : (position.afterText (lineFeeds gap)).afterText (lineFeeds word)
        = Position.afterText ⟨1, 0⟩ (lineFeeds (front ++ gap ++ word)) := by
      rw [lineFeeds_append hstart.of_append_right, Position.afterText_append, hgaps]
    have hfront : text.toList = front ++ gap ++ (word ++ more) := by
      rw [htext, List.append_assoc]
    have hback : text.toList = front ++ gap ++ word ++ more := by
      rw [hfront, List.append_assoc (front ++ gap)]
    refine .token hfiller (hvisible _ _) hspelling ?_ ?_ (ih hback hstop hwords hrest)
    · rw [hgaps]
      exact denotes_lineFeeds hfront hstart
    · rw [hwords]
      exact denotes_lineFeeds hback hstop

/-- **The tokens of a text** are spelled in it. -/
theorem spelled_of_tokens? {text : String} {tokens : List Token}
    (h : tokens? text.toList = some tokens) : Spelled text [] text.toList tokens := by
  obtain ⟨closing, hunified, hclosing⟩ := exists_unifyBreaks_eq text.toList
  exact spelled_of_laidOut (laidOut_tokens? h) rfl (.nil_left _) rfl hunified hclosing

namespace Spelled

variable {text : String} {front back : List Char} {token : Token} {taken rest : List Token}

/-- **Taking tokens leads on in the text.** If some place denotes where it begins, the end of the
last visible token that is taken denotes where it goes on. -/
theorem of_append (h : Spelled text front back (taken ++ rest)) :
    ∃ passed last, back = passed ++ last ∧ Spelled text (front ++ passed) last rest
      ∧ ∀ stop, (ofText text).Denotes stop front.length →
          (ofText text).Denotes (stopBehind taken stop) (front ++ passed).length := by
  induction taken generalizing front back with
  | nil => exact ⟨[], back, rfl, by rwa [List.append_nil], fun stop hstop => by rwa [List.append_nil]⟩
  | cons first others ih =>
    cases h with
    | mark hmark hrest =>
      obtain ⟨passed, last, hback, hlast, hstop⟩ := ih hrest
      refine ⟨passed, last, hback, hlast, fun stop hdenotes => ?_⟩
      show (ofText text).Denotes (stopBehind others (if first.isVisible then _ else stop)) _
      rw [hmark]
      exact hstop stop hdenotes
    | @token _ gap spelling behind _ _ _ hvisible _ _ hfirst hrest =>
      obtain ⟨passed, last, rfl, hlast, hstop⟩ := ih hrest
      refine ⟨gap ++ spelling ++ passed, last, ?_, ?_, fun stop hdenotes => ?_⟩
      · simp only [List.append_assoc]
      · simpa only [List.append_assoc] using hlast
      · show (ofText text).Denotes (stopBehind others (if first.isVisible then _ else stop)) _
        rw [if_pos hvisible]
        simpa only [List.append_assoc] using hstop first.stop hfirst

/-- A visible token at the front. -/
theorem of_visible (hvisible : token.isVisible = true) (h : Spelled text front back (token :: rest)) :
    ∃ gap spelling behind, back = gap ++ (spelling ++ behind) ∧ Filler (lineFeeds gap)
      ∧ (∀ symbol, token.kind = .operator symbol → lineFeeds spelling = symbol.toList)
      ∧ (ofText text).Denotes token.start (front ++ gap).length
      ∧ (ofText text).Denotes token.stop (front ++ gap ++ spelling).length
      ∧ Spelled text (front ++ gap ++ spelling) behind rest := by
  cases h with
  | mark hmark _ => exact absurd (hvisible.symm.trans hmark) nofun
  | token hgap _ hspelling hstart hstop hrest =>
    exact ⟨_, _, _, rfl, hgap, hspelling, hstart, hstop, hrest⟩

end Spelled

/-! ## Comments -/

/-- Wherever the character stands in the text, it stands in a comment: behind a `#` on its line. -/
def OnlyInComments (c : Char) (text : List Char) : Prop :=
  ∀ before after, text = before ++ c :: after →
    ∃ front comment, before = front ++ '#' :: comment ∧ '\r' ∉ comment ∧ '\n' ∉ comment

namespace OnlyInComments

variable {c : Char} {front back : List Char}

theorem of_not_mem (h : c ∉ front) : OnlyInComments c front := by
  rintro before after rfl
  exact absurd (List.mem_append_right _ List.mem_cons_self) h

theorem append (h : OnlyInComments c front) (hback : OnlyInComments c back) :
    OnlyInComments c (front ++ back) := by
  intro before after heq
  rcases List.append_eq_append_iff.mp heq with ⟨rest, rfl, hrest⟩ | ⟨rest, hfront, hrest⟩
  · obtain ⟨first, comment, rfl, hcomment⟩ := hback rest after hrest
    exact ⟨front ++ first, comment, by rw [List.append_assoc], hcomment⟩
  · cases rest with
    | nil =>
      obtain ⟨first, comment, hnil, -⟩ := hback [] after (by simpa using hrest.symm)
      exact absurd hnil (by simp)
    | cons d others =>
      obtain ⟨rfl, -⟩ := List.cons.inj hrest
      exact h before others hfront

end OnlyInComments

/-- In a filler, an `@` stands in a comment. Induction on the filler. -/
theorem Grammar.Filler.sign_in_comment {filler before after : List Char} (h : Filler filler)
    (hsign : filler = before ++ '@' :: after) :
    ∃ front comment, before = front ++ '#' :: comment ∧ '\n' ∉ comment := by
  induction h generalizing before with
  | nil => exact absurd hsign (by simp)
  | @blank c rest hblank _ ih =>
    cases before with
    | nil =>
      obtain ⟨rfl, -⟩ := List.cons.inj hsign
      exact absurd hblank (by decide)
    | cons d others =>
      obtain ⟨rfl, hrest⟩ := List.cons.inj hsign
      obtain ⟨front, comment, rfl, hcomment⟩ := ih hrest
      exact ⟨c :: front, comment, rfl, hcomment⟩
  | @continuation rest _ ih =>
    match before with
    | [] => exact absurd (List.cons.inj hsign).1 (by decide)
    | [d] => exact absurd (List.cons.inj (List.cons.inj hsign).2).1 (by decide)
    | d :: e :: others =>
      obtain ⟨rfl, hnext⟩ := List.cons.inj hsign
      obtain ⟨rfl, hrest⟩ := List.cons.inj hnext
      obtain ⟨front, comment, rfl, hcomment⟩ := ih hrest
      exact ⟨'\\' :: '\n' :: front, comment, rfl, hcomment⟩
  | @comment text rest hline _ ih =>
    cases before with
    | nil => exact absurd (List.cons.inj hsign).1 (by decide)
    | cons d others =>
      obtain ⟨rfl, hnext⟩ := List.cons.inj hsign
      -- the sign is behind the comment, or in it
      rcases List.append_eq_append_iff.mp hnext with ⟨more, rfl, hrest⟩ | ⟨more, rfl, -⟩
      · obtain ⟨front, comment, rfl, hcomment⟩ := ih hrest
        exact ⟨'#' :: (text ++ front), comment, by simp, hcomment⟩
      · exact ⟨[], others, rfl, fun hmem => hline (List.mem_append_left more hmem)⟩

/-- **Between two tokens, an `@` stands in a comment only.** -/
theorem signs_of_filler {gap : List Char} (h : Filler (lineFeeds gap)) : OnlyInComments '@' gap := by
  rintro before after rfl
  have hapart : Apart before ('@' :: after) := fun _ heq => absurd (Option.some.inj heq) (by decide)
  rw [lineFeeds_append hapart, lineFeeds_cons (by decide)] at h
  obtain ⟨front, comment, hbefore, hcomment⟩ := h.sign_in_comment rfl
  obtain ⟨first, second, rfl, -, -, hsecond⟩ := exists_lineFeeds_eq_append hbefore
  obtain ⟨mark, rest, rfl, -, hmark, rfl⟩ :=
    exists_lineFeeds_eq_append (hsecond.trans List.singleton_append.symm)
  obtain rfl : mark = ['#'] := eq_of_lineFeeds_eq hmark (by decide)
  refine ⟨first, rest, rfl, not_mem_of_lineFeeds hcomment, ?_⟩
  rw [eq_of_lineFeeds_eq rfl hcomment]
  exact hcomment

/-- From one token to another there may be opening parentheses, and an `@` in comments. -/
theorem Spelled.of_parens {text : String} {front back : List Char} {parens others : List Token}
    {opened : Token} (hparens : ∀ paren ∈ parens, paren.kind = .operator "(")
    (hopened : opened.isVisible = true)
    (h : Spelled text front back (parens ++ opened :: others)) :
    ∃ between behind, back = between ++ behind ∧ OnlyInComments '@' between
      ∧ (ofText text).Denotes opened.start (front ++ between).length := by
  induction parens generalizing front back with
  | nil =>
    obtain ⟨gap, spelling, behind, rfl, hgap, -, hstart, -⟩ := h.of_visible hopened
    exact ⟨gap, spelling ++ behind, rfl, signs_of_filler hgap, hstart⟩
  | cons paren rest ih =>
    obtain ⟨hparen, hrest⟩ := List.forall_mem_cons.mp hparens
    have hvisible : paren.isVisible = true := by
      unfold Token.isVisible
      rw [hparen]
    obtain ⟨gap, spelling, behind, rfl, hgap, hspelling, -, -, hnext⟩ := h.of_visible hvisible
    obtain ⟨between, last, rfl, hsigns, hstart⟩ := ih hrest hnext
    obtain rfl : spelling = ['('] := eq_of_lineFeeds_eq (hspelling _ hparen) (by decide)
    have hspelled : OnlyInComments '@' ['('] := .of_not_mem (by decide)
    refine ⟨gap ++ ['('] ++ between, last, ?_, ?_, ?_⟩
    · simp only [List.append_assoc]
    · exact ((signs_of_filler hgap).append hspelled).append hsigns
    · simpa only [List.append_assoc] using hstart

end ExpectFile
