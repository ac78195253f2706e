import ExpectFile.Grammar.Lexer

/-!
# Line feeds for line breaks

The lexer reads a text in which every break is a line feed. Such a text has the lines of the original,
and where it is cut, the original can be cut as well: between the pieces no break is cut in two
(`Apart`).

* **`exists_lineFeeds_eq_append`** — a cut of the text with line feeds is a cut of the original.
* **`lineFeeds_append`** — and the other way round, if no break is cut.
* **`exists_unifyBreaks_eq`** — the lexer may add one line feed at the end.
-/

namespace ExpectFile.Grammar

/-- Without a carriage return there is nothing to replace. -/
theorem lineFeeds_of_not_mem {text : List Char} (h : '\r' ∉ text) : lineFeeds text = text := by
  fun_induction lineFeeds text with
  | case1 => rfl
  | case2 rest ih => exact absurd List.mem_cons_self h
  | case3 rest _ ih => exact absurd List.mem_cons_self h
  | case4 c rest _ _ ih => rw [ih fun hmem => h (List.mem_cons_of_mem c hmem)]

/-- A text that has no line feed afterwards had no break. -/
theorem not_mem_of_lineFeeds {text : List Char} (h : '\n' ∉ lineFeeds text) : '\r' ∉ text := by
  fun_induction lineFeeds text with
  | case1 => exact List.not_mem_nil
  | case2 rest ih => exact absurd List.mem_cons_self h
  | case3 rest _ ih => exact absurd List.mem_cons_self h
  | case4 c rest _ hreturn ih =>
    rw [List.mem_cons, not_or] at h ⊢
    exact ⟨fun heq => hreturn heq.symm, ih h.2⟩

theorem eq_of_lineFeeds_eq {text unified : List Char} (h : lineFeeds text = unified)
    (hfeed : '\n' ∉ unified) : text = unified := by
  subst h
  exact (lineFeeds_of_not_mem (not_mem_of_lineFeeds hfeed)).symm

/-- A text that ends in no break is closed by one. -/
theorem unifyBreaks_of_getLast? {text line : List Char} (h : lineFeeds text = line)
    (hlast : line.getLast? ≠ some '\n') : unifyBreaks text = line ++ ['\n'] := by
  unfold unifyBreaks
  rw [h]
  simp [hlast]

/-- At most one line feed is added. -/
theorem exists_unifyBreaks_eq (text : List Char) :
    ∃ closing, unifyBreaks text = lineFeeds text ++ closing ∧ closing.length ≤ 1 := by
  unfold unifyBreaks
  dsimp only
  split
  · exact ⟨[], (List.append_nil _).symm, Nat.zero_le _⟩
  · exact ⟨['\n'], rfl, Nat.le_refl _⟩

/-! ## Cuts -/

/-- No line break is cut in two between the texts. -/
def Apart (front back : List Char) : Prop := front.getLast? = some '\r' → back.head? ≠ some '\n'

namespace Apart

variable {front middle back : List Char}

theorem nil_left (back : List Char) : Apart [] back := nofun

theorem nil_right (front : List Char) : Apart front [] := fun _ => nofun

/-- What stands further on does not matter. -/
theorem of_append_right (h : Apart front (middle ++ back)) : Apart front middle := by
  intro hreturn hfeed
  refine h hreturn ?_
  rw [List.head?_append, hfeed]
  rfl

/-- Nor what stands further in front, unless nothing is in between. -/
theorem append_left (h : Apart front (middle ++ back)) (hmiddle : Apart middle back) :
    Apart (front ++ middle) back := by
  intro hreturn
  cases middle with
  | nil => exact h (List.append_nil front ▸ hreturn)
  | cons c rest =>
    rw [List.getLast?_append, List.getLast?_cons, Option.some_or] at hreturn
    exact hmiddle (by rw [List.getLast?_cons, hreturn])

theorem of_cons {c : Char} (h : Apart (c :: front) back) : Apart front back := by
  cases front with
  | nil => exact nil_left back
  | cons d rest =>
    intro hreturn
    exact h (by rwa [List.getLast?_cons_cons])

/-- What follows a carriage return that is a break of its own is no line feed. -/
theorem head?_ne (h : Apart ('\r' :: front) back)
    (halone : ∀ rest, front = '\n' :: rest → False) : (front ++ back).head? ≠ some '\n' := by
  cases front with
  | nil => exact h rfl
  | cons c others =>
    rintro heq
    obtain rfl : c = '\n' := Option.some.inj heq
    exact halone others rfl

theorem cons {c : Char} (h : Apart front back)
    (hc : front = [] → c = '\r' → back.head? ≠ some '\n') : Apart (c :: front) back := by
  cases front with
  | nil => exact fun hreturn => hc rfl (Option.some.inj hreturn)
  | cons d rest =>
    intro hreturn
    exact h (by rwa [List.getLast?_cons_cons] at hreturn)

end Apart

/-- A carriage return is a break of its own if no line feed follows. -/
theorem lineFeeds_return {text : List Char} (h : text.head? ≠ some '\n') :
    lineFeeds ('\r' :: text) = '\n' :: lineFeeds text := by
  rw [lineFeeds]
  rintro rest rfl
  exact h rfl

theorem lineFeeds_cons {c : Char} (h : c ≠ '\r') (text : List Char) :
    lineFeeds (c :: text) = c :: lineFeeds text := by
  rw [lineFeeds]
  · rintro _ rfl
    exact absurd rfl h
  · rintro rfl
    exact absurd rfl h

theorem head?_ne_of_forall {text : List Char} (h : ∀ rest, text = '\n' :: rest → False) :
    text.head? ≠ some '\n' := by
  intro hfeed
  obtain ⟨rest, heq⟩ := List.head?_eq_some_iff.mp hfeed
  exact h rest heq

/-- **Pieces are treated apart** if no break is cut. -/
theorem lineFeeds_append {front back : List Char} (h : Apart front back) :
    lineFeeds (front ++ back) = lineFeeds front ++ lineFeeds back := by
  fun_induction lineFeeds front with
  | case1 => rfl
  | case2 rest ih =>
    show '\n' :: lineFeeds (rest ++ back) = '\n' :: (lineFeeds rest ++ lineFeeds back)
    rw [ih h.of_cons.of_cons]
  | case3 rest hrest ih =>
    rw [List.cons_append, lineFeeds_return (h.head?_ne hrest), ih h.of_cons]
    rfl
  | case4 c rest hboth hreturn ih =>
    rw [List.cons_append, lineFeeds_cons hreturn, ih h.of_cons]
    rfl

/-- **A cut of the text with line feeds is a cut of the original.** Induction on the breaks; a cut
in front of one stays in front of all of it. -/
theorem exists_lineFeeds_eq_append {text front back : List Char}
    (h : lineFeeds text = front ++ back) :
    ∃ first second, text = first ++ second ∧ Apart first second ∧ lineFeeds first = front
      ∧ lineFeeds second = back := by
  fun_induction lineFeeds text generalizing front with
  | case1 =>
    obtain ⟨rfl, rfl⟩ := List.append_eq_nil_iff.mp h.symm
    exact ⟨[], [], rfl, .nil_left [], rfl, rfl⟩
  | case2 rest ih =>
    cases front with
    | nil => exact ⟨[], _, rfl, .nil_left _, rfl, h⟩
    | cons d front =>
      obtain ⟨rfl, hrest⟩ := List.cons.inj h
      obtain ⟨first, second, rfl, hapart, rfl, rfl⟩ := ih hrest
      -- the cut is behind both characters of the break
      have hboth : Apart ('\r' :: '\n' :: first) second :=
        (hapart.cons fun _ heq => absurd heq (by decide)).cons nofun
      exact ⟨'\r' :: '\n' :: first, second, rfl, hboth, rfl, rfl⟩
  | case3 rest halone ih =>
    cases front with
    | nil =>
      exact ⟨[], _, rfl, .nil_left _, rfl, (lineFeeds_return (head?_ne_of_forall halone)).trans h⟩
    | cons d front =>
      obtain ⟨rfl, hrest⟩ := List.cons.inj h
      obtain ⟨first, second, rfl, hapart, rfl, rfl⟩ := ih hrest
      -- a carriage return on its own has no line feed behind it, so the cut may be right behind it
      have hhead : (first ++ second).head? ≠ some '\n' := head?_ne_of_forall halone
      have halone : Apart ('\r' :: first) second := by
        refine hapart.cons ?_
        rintro rfl -
        exact hhead
      refine ⟨'\r' :: first, second, rfl, halone, ?_, rfl⟩
      refine lineFeeds_return fun hfirst => hhead ?_
      rw [List.head?_append, hfirst]
      rfl
  | case4 c rest hboth hreturn ih =>
    cases front with
    | nil => exact ⟨[], _, rfl, .nil_left _, rfl, (lineFeeds_cons hreturn rest).trans h⟩
    | cons d front =>
      obtain ⟨rfl, hrest⟩ := List.cons.inj h
      obtain ⟨first, second, rfl, hapart, rfl, rfl⟩ := ih hrest
      exact ⟨c :: first, second, rfl, hapart.cons fun _ heq => absurd heq hreturn,
        lineFeeds_cons hreturn first, rfl⟩

end ExpectFile.Grammar
