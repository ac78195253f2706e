import ExpectFile.Proofs.Grammar.Calls
import ExpectFile.Proofs.Grammar.Names

/-!
# Calls of dotted names, spelled out

A text that is a dotted name, a parenthesis, a literal and a parenthesis is one statement, the call
of what the name spells with the text that the literal denotes. That holds for names from all the
characters that names may have, for every spelling of the literal, and whatever line breaks there
are in it. What a name spells need not be its spelling: an identifier is in normal form.

* **`exists_line_dottedCall`** — the lexemes of such a text.
* **`parseStatements_dottedCall`** — the one statement that they are.
-/

namespace ExpectFile.Grammar

open Text

/-- The text of a call of a dotted name with a literal. -/
def dottedCall (parts : List (List Char)) (literal : List Char) : List Char :=
  joined ['.'] parts ++ (['('] ++ (literal ++ [')']))

/-- `SpellsText spelling value`: the spelling is one literal of text and nothing else, and the value
is what it denotes. -/
inductive SpellsText : (spelling : List Char) → (value : String) → Prop where
  | literal {content : RawLiteral} {spelling value : List Char}
      (hread : lexeme? spelling = some (.literal content, spelling, []))
      (hbytes : content.isBytes = false) (hplain : content.isInterpolated = false)
      (hvalue : decodeText content.isRaw content.body = some value) :
      SpellsText spelling (String.ofList value)

variable {raw literal after : List Char} {others parts : List (List Char)} {due : List String}
  {position : Position} {tokens : List Token} {value : String}

/-! ## Lexemes -/

theorem exists_joined_eq_append (separator piece : List Char) (others : List (List Char)) :
    ∃ more, joined separator (piece :: others) = piece ++ more := by
  cases others with
  | nil => exact ⟨[], (List.append_nil piece).symm⟩
  | cons second others => exact ⟨_, List.append_assoc piece separator _⟩

/-- **A dotted name in front of a line of lexemes**, if a parenthesis comes first. Induction on the
names behind points. -/
theorem exists_line_dotted (hnames : ∀ part ∈ raw :: others, IsName part)
    (hline : TokenLine due (position.afterText (joined ['.'] (raw :: others))) (['('] ++ after)
      tokens) :
    ∃ stop points, points.map (·.kind) = pointedKinds others
      ∧ TokenLine due position (joined ['.'] (raw :: others) ++ (['('] ++ after))
        (⟨.name raw, position, stop⟩ :: (points ++ tokens)) := by
  induction others generalizing raw position with
  | nil =>
    have hraw : IsName raw := hnames raw List.mem_cons_self
    exact ⟨_, [], rfl, .lexeme hraw.begins (lexeme?_name hraw rfl) rfl hline⟩
  | cons second others ih =>
    obtain ⟨hraw, hothers⟩ := List.forall_mem_cons.mp hnames
    have hsecond : IsName second := hothers second List.mem_cons_self
    have hjoined : joined ['.'] (raw :: second :: others)
        = raw ++ (['.'] ++ joined ['.'] (second :: others)) := List.append_assoc raw ['.'] _
    have hposition : position.afterText (joined ['.'] (raw :: second :: others))
        = ((position.afterText raw).afterText ['.']).afterText (joined ['.'] (second :: others)) := by
      rw [hjoined, Position.afterText_append, Position.afterText_append]
    rw [hposition] at hline
    obtain ⟨stop, points, hpoints, hbehind⟩ := ih hothers hline
    -- a name is behind the point, so it is not the start of a number
    have hpoint : lexeme? (['.'] ++ (joined ['.'] (second :: others) ++ (['('] ++ after)))
        = some (.operator ".", ['.'], joined ['.'] (second :: others) ++ (['('] ++ after)) := by
      obtain ⟨more, hmore⟩ := exists_joined_eq_append ['.'] second others
      rw [hmore, List.append_assoc, List.singleton_append]
      exact lexeme?_point hsecond
    rw [hjoined, List.append_assoc, List.append_assoc]
    refine ⟨_, ⟨.operator ".", _, _⟩ :: ⟨.name second, _, stop⟩ :: points, ?_,
      .lexeme hraw.begins (lexeme?_name hraw rfl) rfl (.lexeme rfl hpoint rfl hbehind)⟩
    show _ :: _ :: points.map (·.kind) = pointedKinds (second :: others)
    rw [hpoints]
    rfl

/-- **The lexemes of a call of a dotted name.** -/
theorem exists_line_dottedCall {content : RawLiteral} (hnames : ∀ part ∈ raw :: others, IsName part)
    (hread : lexeme? literal = some (.literal content, literal, [])) {t : Position}
    (ht : t = Position.afterText ⟨1, 0⟩ (dottedCall (raw :: others) literal)) :
    ∃ p o r s points, points.map (·.kind) = pointedKinds others
      ∧ TokenLine [] ⟨1, 0⟩ (dottedCall (raw :: others) literal ++ ['\n'])
        (⟨.name raw, ⟨1, 0⟩, p⟩ :: (points ++ [⟨.operator "(", o, r⟩, ⟨.literal content, r, s⟩,
          ⟨.operator ")", s, t⟩, ⟨.newline, t, t⟩, ⟨.finish, t.after '\n', t.after '\n'⟩])) := by
  have htext : dottedCall (raw :: others) literal ++ ['\n']
      = joined ['.'] (raw :: others) ++ (['('] ++ (literal ++ ([')'] ++ ['\n']))) := by
    simp [dottedCall]
  have hstop : t = (((Position.afterText ⟨1, 0⟩ (joined ['.'] (raw :: others))).afterText
      ['(']).afterText literal).afterText [')'] := by
    simp only [ht, dottedCall, ← Position.afterText_append, List.append_assoc]
  obtain ⟨p, points, hpoints, hline⟩ :=
    exists_line_dotted hnames (line_argument hread rfl rfl hstop)
  rw [htext]
  exact ⟨p, _, _, _, points, hpoints, hline⟩

/-! ## Characters -/

/-- In a dotted name there are points and characters of names. -/
theorem not_mem_joined (hnames : ∀ part ∈ parts, IsName part) {d : Char}
    (hword : isWordChar d = false) (hpoint : d ≠ '.') : d ∉ joined ['.'] parts := by
  have hpart : ∀ part ∈ parts, d ∉ part :=
    fun part hmem hd => ne_of_isWordChar ((hnames part hmem).isWordChar hd) hword rfl
  fun_induction joined ['.'] parts with
  | case1 => exact List.not_mem_nil
  | case2 piece => exact hpart piece List.mem_cons_self
  | case3 piece others _ ih =>
    obtain ⟨hpiece, hothers⟩ := List.forall_mem_cons.mp hpart
    simp only [List.mem_append, List.mem_singleton, not_or]
    exact ⟨⟨hpiece, hpoint⟩, ih (List.forall_mem_cons.mp hnames).2 hothers⟩

/-- Line breaks are in the literal alone. -/
theorem lineFeeds_dottedCall (hnames : ∀ part ∈ parts, IsName part) (literal : List Char) :
    lineFeeds (dottedCall parts literal) = dottedCall parts (lineFeeds literal) := by
  have hreturn : '\r' ∉ joined ['.'] parts ++ ['('] := by
    have hname : '\r' ∉ joined ['.'] parts := not_mem_joined hnames (by decide) (by decide)
    simpa using hname
  have hfront : Apart (joined ['.'] parts ++ ['(']) (literal ++ [')']) := by
    intro hlast
    rw [List.getLast?_concat] at hlast
    exact absurd hlast (by decide)
  have hback : Apart literal [')'] := fun _ => by decide
  unfold dottedCall
  rw [← List.append_assoc, lineFeeds_append hfront, lineFeeds_of_not_mem hreturn,
    lineFeeds_append hback, List.append_assoc]
  rfl

/-! ## The statement -/

theorem beginsLexeme_dottedCall (hraw : IsName raw) :
    beginsLexeme (dottedCall (raw :: others) literal) = true := by
  obtain ⟨more, hmore⟩ := exists_joined_eq_append ['.'] raw others
  obtain ⟨c, rest, rfl, hc⟩ := exists_eq_cons_of_beginsLexeme hraw.begins
  rw [dottedCall, hmore]
  simp [beginsLexeme, hc]

theorem getLast?_dottedCall (parts : List (List Char)) (literal : List Char) :
    (dottedCall parts literal).getLast? = some ')' := by
  have hlast : dottedCall parts literal = joined ['.'] parts ++ (['('] ++ literal) ++ [')'] := by
    simp [dottedCall]
  rw [hlast, List.getLast?_concat]

/-- **A call of a dotted name is one statement**, from the beginning of the text to its end. -/
theorem parseStatements_dottedCall {text : List Char} (hnames : ∀ part ∈ raw :: others, IsName part)
    (hliteral : SpellsText literal value)
    (htext : lineFeeds text = dottedCall (raw :: others) literal) :
    ∃ marked, parseStatements text
      = some [⟨some (.call (attributes (.name (identifier raw)) others)
          [.constant (.text value marked)] []), ⟨1, 0⟩, Position.afterText ⟨1, 0⟩ (lineFeeds text),
          none⟩] := by
  obtain @⟨content, _, value, hread, hbytes, hplain, hvalue⟩ := hliteral
  obtain ⟨p, o, r, s, points, hpoints, hline⟩ := exists_line_dottedCall hnames hread rfl
  have hlast : (dottedCall (raw :: others) literal).getLast? ≠ some '\n' := by
    rw [getLast?_dottedCall]
    decide
  have htokens := tokens?_of_line htext hlast
    (beginsLexeme_dottedCall (hnames raw List.mem_cons_self)) hline
  have hpointed : ∀ point ∈ points, point.kind ≠ .operator ":" := by
    intro point hpoint hkind
    have hmem : point.kind ∈ pointedKinds others := hpoints ▸ List.mem_map_of_mem hpoint
    rw [hkind] at hmem
    simp [pointedKinds] at hmem
  refine ⟨content.letters.head? == some 'u', ?_⟩
  rw [htext]
  exact parseStatements_of_alone htokens (by simpa [or_imp, forall_and] using hpointed)
    (alone_call hpoints (literalsExpr_of_text hbytes hplain hvalue _) rfl)

end ExpectFile.Grammar
