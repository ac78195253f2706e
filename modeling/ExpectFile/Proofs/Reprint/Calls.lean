import ExpectFile.Proofs.Grammar.Calls
import ExpectFile.Proofs.Grammar.Names

/-!
# Printed calls

A text that is printed as the argument of a call is one line of four lexemes. They hold no carriage
return, so the lexer sees them as they were printed, and the parser finds the call that was meant.

* **`mem_literal`** — what characters there are in a literal.
* **`line_call`** — the lexemes of a printed call.
* **`parseStatements_call`** — the one statement that they are.
-/

namespace ExpectFile

open Grammar Text Unicode

/-! ## The characters of a literal -/

theorem isPrintable_hexDigit {d : Nat} (h : d < 16) : isPrintable (hexDigit d) = true := by
  have hall : ∀ d < 16, isPrintable (hexDigit d) = true := by decide
  exact hall d h

/-- What stands for a character on one line is printable, whatever the character is. -/
theorem isPrintable_of_mem_escaped {mark c d : Char} (hmark : isPrintable mark = true)
    (h : d ∈ escaped mark c) : isPrintable d = true := by
  -- an escape that is a letter alone is one without digits
  have hnumber : ∀ letter width, isPrintable letter = true →
      d ∈ '\\' :: letter :: hexDigits width c.toNat → isPrintable d = true := by
    intro letter width hletter hmem
    simp only [List.mem_cons] at hmem
    rcases hmem with rfl | rfl | hdigits
    · rfl
    · exact hletter
    · obtain ⟨value, hvalue, rfl⟩ := exists_of_mem_hexDigits hdigits
      exact isPrintable_hexDigit hvalue
  unfold escaped at h
  split at h
  · rename_i hspecial
    have hc : isPrintable c = true := by
      rcases hspecial with rfl | rfl
      · exact hmark
      · rfl
    simp only [List.mem_cons, List.not_mem_nil, or_false] at h
    rcases h with rfl | rfl
    · rfl
    · exact hc
  split at h
  · exact hnumber 'n' 0 rfl h
  split at h
  · exact hnumber 'r' 0 rfl h
  split at h
  · exact hnumber 't' 0 rfl h
  split at h
  · rename_i hprintable
    rw [List.mem_singleton.mp h]
    exact hprintable
  unfold escapedNumber at h
  split at h
  · exact hnumber 'x' 2 rfl h
  split at h
  · exact hnumber 'u' 4 rfl h
  · exact hnumber 'U' 8 rfl h

/-- **The characters of a literal**: it is printable, unless its text stands in it as it is. -/
theorem Reprint.mem_literal {text : List Char} {d : Char} (h : d ∈ literal text) :
    isPrintable d = true ∨ fits text = true ∧ d ∈ text := by
  unfold literal at h
  split at h
  · rename_i hfits
    simp only [fence, List.mem_append, List.mem_cons, List.not_mem_nil, or_false, or_self] at h
    rcases h with (rfl | htext) | rfl
    · exact Or.inl rfl
    · exact Or.inr ⟨hfits, htext⟩
    · exact Or.inl rfl
  · have hmark : isPrintable (quoteMark text) = true := by
      unfold quoteMark
      split <;> rfl
    simp only [quoted, List.mem_cons, List.mem_append, List.mem_flatMap, List.not_mem_nil,
      or_false] at h
    rcases h with (rfl | ⟨c, -, hc⟩) | rfl
    · exact Or.inl hmark
    · exact Or.inl (isPrintable_of_mem_escaped hmark hc)
    · exact Or.inl hmark

/-- A carriage return is in no literal. -/
theorem Reprint.return_not_mem_literal (text : List Char) : '\r' ∉ literal text := by
  intro h
  rcases mem_literal h with hprintable | ⟨hfits, hmem⟩
  · exact absurd hprintable (by decide)
  · exact (fits_iff.mp hfits).2.2.1 hmem

/-- Nor is the null character, if the text is without it. -/
theorem Reprint.null_not_mem_literal {text : List Char} (htext : '\x00' ∉ text) :
    '\x00' ∉ literal text := by
  intro h
  rcases mem_literal h with hprintable | ⟨-, hmem⟩
  · exact absurd hprintable (by decide)
  · exact htext hmem

/-! ## Calls -/

/-- A name that a call can be printed under: the lexer takes it for a name when a parenthesis
follows, and it is its own identifier. -/
structure Reprint.Callable (name : String) : Prop where
  lexeme : ∀ rest, lexeme? (name.toList ++ '(' :: rest)
    = some (.name name.toList, name.toList, '(' :: rest)
  begins : beginsLexeme name.toList = true
  identifier : Grammar.identifier name.toList = name
  printable : name.toList.all isPrintable = true

namespace Reprint

theorem callable_org : Callable "org" where
  lexeme _ := rfl
  begins := rfl
  identifier := identifier_of_ascii rfl
  printable := rfl

theorem callable_expect : Callable "expect" where
  lexeme _ := rfl
  begins := rfl
  identifier := identifier_of_ascii rfl
  printable := rfl

variable {name : String}

/-- What is in a printed call is in its literal, or printable. -/
theorem mem_call (hname : Callable name) {text : String} {d : Char} (h : d ∈ call name text) :
    isPrintable d = true ∨ d ∈ literal text.toList := by
  simp only [call, List.mem_append, List.mem_cons, List.not_mem_nil, or_false] at h
  rcases h with (hfront | rfl | hliteral) | rfl
  · exact Or.inl (List.all_eq_true.mp hname.printable d hfront)
  · exact Or.inl rfl
  · exact Or.inr hliteral
  · exact Or.inl rfl

theorem return_not_mem_call (hname : Callable name) (text : String) : '\r' ∉ call name text := by
  intro h
  rcases mem_call hname h with hprintable | hliteral
  · exact absurd hprintable (by decide)
  · exact return_not_mem_literal text.toList hliteral

theorem null_not_mem_call (hname : Callable name) {text : String}
    (htext : '\x00' ∉ text.toList) : '\x00' ∉ call name text := by
  intro h
  rcases mem_call hname h with hprintable | hliteral
  · exact absurd hprintable (by decide)
  · exact null_not_mem_literal htext hliteral

theorem beginsLexeme_literal (text : List Char) : beginsLexeme (literal text) = true := by
  obtain ⟨mark, more, hliteral, hmark⟩ := exists_literal_eq_cons text
  have hmarks : mark = apostrophe ∨ mark = doubleQuote := by
    simpa [literalLetters.isMark] using hmark
  rw [hliteral]
  rcases hmarks with rfl | rfl <;> rfl

/-- **A printed call is a line of four lexemes.** -/
theorem line_call (hname : Callable name) (text : String) :
    ∃ q r s u, TokenLine [] ⟨1, 0⟩ (call name text ++ ['\n'])
      [⟨.name name.toList, ⟨1, 0⟩, q⟩, ⟨.operator "(", q, r⟩,
        ⟨.literal ⟨[], body text.toList⟩, r, s⟩,
        ⟨.operator ")", s, Position.afterText ⟨1, 0⟩ (call name text)⟩,
        ⟨.newline, Position.afterText ⟨1, 0⟩ (call name text),
          Position.afterText ⟨1, 0⟩ (call name text)⟩,
        ⟨.finish, u, u⟩] := by
  have hsplit : call name text ++ ['\n']
      = name.toList ++ (['('] ++ (literal text.toList ++ ([')'] ++ ['\n']))) := by
    simp [call]
  have hstop : ∀ p : Position, p.afterText (call name text)
      = (((p.afterText name.toList).afterText ['(']).afterText (literal text.toList)).afterText
          [')'] := by
    intro p
    simp only [call, ← Position.afterText_append]
    simp
  have hread := lexeme?_literal text.toList []
  rw [List.append_nil] at hread
  rw [hsplit, hstop]
  exact ⟨_, _, _, _, .lexeme hname.begins (hname.lexeme _) rfl (line_argument hread rfl rfl rfl)⟩

theorem beginsLexeme_call (hname : Callable name) (text : String) :
    beginsLexeme (call name text) = true := by
  obtain ⟨c, rest, hcons, hc⟩ := exists_eq_cons_of_beginsLexeme hname.begins
  simp [call, hcons, beginsLexeme, hc]

theorem getLast?_call (name text : String) : (call name text).getLast? = some ')' := by
  unfold call
  rw [List.getLast?_concat]

/-- The value of a literal is the text that was written. -/
theorem literalsExpr_body (parse : List Char → Option Expr) (text : String) :
    literalsExpr parse [⟨[], body text.toList⟩] = some (.constant (.text text false)) := by
  have hdecode : decodeText (RawLiteral.isRaw ⟨[], body text.toList⟩)
      (RawLiteral.body ⟨[], body text.toList⟩) = some text.toList := decodeText_body text.toList
  have hvalue := literalsExpr_of_text rfl rfl hdecode parse
  rwa [String.ofList_toList] at hvalue

/-- **A printed call is one statement**, the call of the name with the text, and goes from the
beginning of what is printed to its end. -/
theorem parseStatements_call (hname : Callable name) (text : String) :
    parseStatements (call name text)
      = some [⟨some (.call (.name name) [.constant (.text text false)] []), ⟨1, 0⟩,
          Position.afterText ⟨1, 0⟩ (call name text), none⟩] := by
  obtain ⟨q, r, s, u, hline⟩ := line_call hname text
  have hlast : (call name text).getLast? ≠ some '\n' := by
    rw [getLast?_call]
    decide
  have htokens := tokens?_of_line (lineFeeds_of_not_mem (return_not_mem_call hname text)) hlast
    (beginsLexeme_call hname text) hline
  have hpoints : ([] : List Token).map (·.kind) = pointedKinds [] := rfl
  rw [parseStatements_of_alone htokens (by simp)
    (alone_call hpoints (literalsExpr_body _ text) rfl), attributes, List.foldl_nil,
    hname.identifier]

end Reprint

end ExpectFile
