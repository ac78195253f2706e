import ExpectFile.Proofs.Reprint.NullCharacters

/-!
# Which literals read back

A literal on a line of its own is the source of one expression, and its value is the text that was
written, whatever the text holds: quotation marks, backslashes, breaks of lines, characters that
cannot be seen. There is one exception. Between fences a null character stands for itself, and no
source may hold one; quoted on one line the same text would have been read.

* **`tokens?_literal`** — a literal is one token.
* **`parseStatements_literal`** — and one statement, with the text as its value.
* **`denotes_literal_iff`** — which literals read back, and what happens to the others.
* **`not_forall_denotes_literal`** — a literal that does not.
-/

namespace ExpectFile

open Grammar Text

namespace Reprint

/-! ## A literal on a line -/

/-- A literal ends in a mark. -/
theorem getLast?_literal (text : List Char) : ∃ mark, (literal text).getLast? = some mark
    ∧ literalLetters.isMark mark = true := by
  unfold literal
  split
  · have hlast : (fence ++ text ++ fence).getLast? = some doubleQuote := by
      rw [List.getLast?_append]
      rfl
    exact ⟨doubleQuote, hlast, rfl⟩
  · exact ⟨quoteMark text, List.getLast?_concat, isMark_quoteMark text⟩

theorem line_literal (text : List Char) :
    TokenLine [] ⟨1, 0⟩ (literal text ++ ['\n'])
      [⟨.literal ⟨[], body text⟩, ⟨1, 0⟩, Position.afterText ⟨1, 0⟩ (literal text)⟩,
        ⟨.newline, Position.afterText ⟨1, 0⟩ (literal text),
          Position.afterText ⟨1, 0⟩ (literal text)⟩,
        ⟨.finish, (Position.afterText ⟨1, 0⟩ (literal text)).after '\n',
          (Position.afterText ⟨1, 0⟩ (literal text)).after '\n'⟩] :=
  .lexeme (beginsLexeme_literal text) (lexeme?_literal text ['\n']) rfl (.finish _)

/-- **A literal is one token**, and after it come the ends of the line and of the text. -/
theorem tokens?_literal (text : List Char) :
    tokens? (literal text)
      = some [⟨.literal ⟨[], body text⟩, ⟨1, 0⟩, Position.afterText ⟨1, 0⟩ (literal text)⟩,
        ⟨.newline, Position.afterText ⟨1, 0⟩ (literal text),
          Position.afterText ⟨1, 0⟩ (literal text)⟩,
        ⟨.finish, (Position.afterText ⟨1, 0⟩ (literal text)).after '\n',
          (Position.afterText ⟨1, 0⟩ (literal text)).after '\n'⟩] := by
  have hlast : (literal text).getLast? ≠ some '\n' := by
    obtain ⟨mark, hlast, hmark⟩ := getLast?_literal text
    rw [hlast]
    intro heq
    obtain rfl : mark = '\n' := Option.some.inj heq
    exact absurd hmark (by decide)
  exact tokens?_of_line (lineFeeds_of_not_mem (return_not_mem_literal text)) hlast
    (beginsLexeme_literal text) (line_literal text)

/-- **A literal is one statement**: an expression, the constant that was written. -/
theorem parseStatements_literal (text : String) :
    parseStatements (literal text.toList)
      = some [⟨some (.constant (.text text false)), ⟨1, 0⟩,
          Position.afterText ⟨1, 0⟩ (literal text.toList), none⟩] :=
  parseStatements_of_alone (tokens?_literal text.toList) (by simp)
    (alone_literal (literalsExpr_body _ text) rfl)

/-! ## Reading back -/

/-- The source is a literal and nothing else, and the value of the literal is the text. -/
structure Denotes (source : List Char) (text : String) : Prop where
  /-- There is one token, a literal, between the beginning of the source and its end. -/
  token : ∃ content finish, tokens? source
    = some [⟨.literal content, ⟨1, 0⟩, Position.afterText ⟨1, 0⟩ source⟩,
      ⟨.newline, Position.afterText ⟨1, 0⟩ source, Position.afterText ⟨1, 0⟩ source⟩,
      ⟨.finish, finish, finish⟩]
  /-- The source is accepted, as one statement that is the text. -/
  value : parseSource unnamedSource (String.ofList source)
    = .ok [⟨some (.constant (.text text false)), ⟨1, 0⟩, Position.afterText ⟨1, 0⟩ source, none⟩]

theorem null_not_mem_unnamedSource : '\x00' ∉ unnamedSource.toList := by decide

/-- Without a null character in it, a literal reads back. -/
theorem denotes_literal {text : String} (h : '\x00' ∉ literal text.toList) :
    Denotes (literal text.toList) text where
  token := ⟨_, _, tokens?_literal text.toList⟩
  value := by
    rw [parseSource_eq_ok_iff, String.toList_ofList]
    exact ⟨null_not_mem_unnamedSource, h, parseStatements_literal text⟩

/-- **Which literals read back.** All do, with the text that was written as their value, but those
that hold a null character; and they do iff their text holds one and stands between fences. Such a
literal is refused for the null character. -/
theorem denotes_literal_iff (text : String) :
    (Denotes (literal text.toList) text
        ↔ ¬(fits text.toList = true ∧ '\x00' ∈ text.toList))
      ∧ (parseSource unnamedSource (String.ofList (literal text.toList)) = .error .nullCharacter
        ↔ fits text.toList = true ∧ '\x00' ∈ text.toList) := by
  have hrefused : parseSource unnamedSource (String.ofList (literal text.toList))
        = .error .nullCharacter
      ↔ fits text.toList = true ∧ '\x00' ∈ text.toList := by
    rw [parseSource_eq_nullCharacter_iff null_not_mem_unnamedSource, String.toList_ofList,
      null_mem_literal_iff]
  refine ⟨⟨fun hdenotes hnull => ?_, fun hnull => ?_⟩, hrefused⟩
  · have herror := hrefused.mpr hnull
    rw [hdenotes.value] at herror
    exact absurd herror nofun
  · exact denotes_literal (null_mem_literal_iff.not.mpr hnull)

/-- **Not every literal reads back.** A null character alone is written between fences as it is. -/
theorem not_forall_denotes_literal : ¬∀ text : String, Denotes (literal text.toList) text := by
  intro h
  have hrefused : parseSource unnamedSource (String.ofList (literal "\x00".toList))
      = .error .nullCharacter := rfl
  have hvalue := (h "\x00").value
  rw [hrefused] at hvalue
  exact absurd hvalue nofun

/-- Where something else keeps the text from standing between fences, the null character is no
obstacle: it is written as an escape. -/
example : literal "\x00\\".toList = "'\\x00\\\\'".toList := by decide

end Reprint

end ExpectFile
