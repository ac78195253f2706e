import ExpectFile.Grammar.Interpolation
import ExpectFile.Proofs.Grammar.Likeness

/-!
# Texts inside of literals

An expression in a literal is parsed on its own, from a text that is shorter than the body of the
literal. So the expression that a literal makes depends only on how shorter texts are parsed.

* **`shortens_bodyParts`** — for the parts of a body.
* **`literalsExpr_congr`** — for the expression of adjacent literals.
-/

namespace ExpectFile.Grammar

open Text

/-! ## Shorter and shorter -/

/-- What is left behind a brace is no longer than before. The brace itself may be left, which makes
one more. -/
theorem length_rest_of_braceRun {inFormat : Bool} {brace : Char} {rest : List Char} {run : TextRun}
    (h : braceRun inFormat brace rest = some run) : run.rest.length ≤ rest.length + 1 := by
  unfold braceRun at h
  split at h
  · obtain rfl := Option.some.inj h
    exact Nat.le_refl _
  split at h
  · obtain rfl := Option.some.inj h
    simp only [List.length_drop]
    omega
  split at h
  · exact absurd h nofun
  · obtain rfl := Option.some.inj h
    exact Nat.le_refl _

/-- More characters in front of what was read leave the same. -/
theorem length_rest_of_push {x : Option TextRun} {characters : List Char} {run : TextRun}
    {n m : Nat}
    (h : x.map (·.push characters) = some run) (hx : ∀ run, x = some run → run.rest.length ≤ n)
    (hn : n ≤ m) : run.rest.length ≤ m := by
  obtain ⟨inner, hinner, rfl⟩ := Option.map_eq_some_iff.mp h
  exact Nat.le_trans (hx inner hinner) hn

/-- A run of text leaves no more than there was. Induction on the fuel; every step takes a character
or stops. -/
theorem length_rest_of_textRun {raw inFormat : Bool} {fuel : Nat} {text : List Char} {run : TextRun}
    (h : textRun raw inFormat fuel text = some run) : run.rest.length ≤ text.length := by
  induction fuel generalizing text run with
  | zero =>
    cases text with
    | nil =>
      obtain rfl := Option.some.inj h
      exact Nat.le_refl _
    | cons c rest => exact absurd h nofun
  | succ fuel ih =>
    cases text with
    | nil =>
      obtain rfl := Option.some.inj h
      exact Nat.le_refl _
    | cons c rest =>
      unfold textRun at h
      split at h
      · exact length_rest_of_braceRun h
      split at h
      · exact length_rest_of_push h (fun _ => ih) (Nat.le_succ _)
      split at h
      · obtain rfl := Option.some.inj h
        exact Nat.zero_le _
      rename_i d after
      simp only [List.length_cons]
      split at h
      · exact length_rest_of_push h (fun _ => length_rest_of_braceRun) (by omega)
      split at h
      · refine length_rest_of_push h (fun _ => ih) ?_
        have := (List.dropWhile_sublist (· != closeBrace) (l := after)).length_le
        simp only [List.length_drop]
        omega
      · exact length_rest_of_push h (fun _ => ih) (by omega)

/-- The text of an expression and what is left behind it are no more than there was. So they are
shorter than the body, as the brace in front belongs to neither. -/
theorem length_of_expressionRun {quote : Option (Char × Bool)} {opened : List Char} {fuel : Nat}
    {text source rest : List Char}
    (h : expressionRun quote opened fuel text = some (source, rest)) :
    source.length + rest.length ≤ text.length := by
  induction fuel generalizing quote opened text source rest with
  | zero => cases text <;> exact absurd h nofun
  | succ fuel ih =>
    cases text with
    | nil => exact absurd h nofun
    | cons c text =>
      -- every branch of the reader takes some characters and goes on with the rest
      have hstep : ∀ {quote : Option (Char × Bool)} {opened taken after : List Char},
          (expressionRun quote opened fuel after).map (fun run => (taken ++ run.1, run.2))
            = some (source, rest) → taken.length + after.length ≤ text.length + 1 →
          source.length + rest.length ≤ text.length + 1 := by
        intro quote opened taken after h hle
        obtain ⟨⟨inner, behind⟩, hinner, heq⟩ := Option.map_eq_some_iff.mp h
        obtain ⟨rfl, rfl⟩ := Prod.mk.inj heq
        have := ih hinner
        simp only [List.length_append]
        omega
      have htwo : ∀ mark, [mark, mark].isPrefixOf text = true → 2 ≤ text.length := fun mark hmark =>
        (List.isPrefixOf_iff_prefix.mp hmark).length_le
      have hone : text.head? = some '=' → 1 ≤ text.length := by cases text <;> simp
      unfold expressionRun at h
      simp only [List.length_cons]
      dsimp only at h
      split at h
      · exact absurd h nofun
      split at h
      · split at h
        · have := htwo _ ‹_ ∧ _›.2
          exact hstep h (by simp only [List.length_cons, List.length_nil, List.length_drop]; omega)
        · exact hstep h (by simp only [List.length_cons, List.length_nil]; omega)
      · exact hstep h (by simp only [List.length_cons, List.length_nil]; omega)
      split at h
      · split at h
        · have := htwo _ ‹_›
          exact hstep h (by simp only [List.length_cons, List.length_nil, List.length_drop]; omega)
        · exact hstep h (by simp only [List.length_cons, List.length_nil]; omega)
      split at h
      · split at h
        · exact hstep h (by simp only [List.length_cons, List.length_nil]; omega)
        · exact absurd h nofun
      split at h
      · exact absurd h nofun
      split at h
      · have := hone ‹_ ∧ _ ∧ _›.2.1
        exact hstep h (by simp only [List.length_cons, List.length_nil, List.length_drop]; omega)
      split at h
      · obtain ⟨rfl, rfl⟩ := Prod.mk.inj (Option.some.inj h)
        simp
      split at h
      · split at h
        · split at h
          · exact hstep h (by simp only [List.length_cons, List.length_nil]; omega)
          · exact absurd h nofun
        · exact absurd h nofun
      · exact hstep h (by simp only [List.length_cons, List.length_nil]; omega)

/-- A conversion leaves no more than there was. -/
theorem length_of_conversion? {text : List Char} {conversion : Option Char} {rest : List Char}
    (h : conversion? text = some (conversion, rest)) : rest.length ≤ text.length := by
  unfold conversion? at h
  split at h
  · split at h
    · obtain ⟨rfl, rfl⟩ := Prod.mk.inj (Option.some.inj h)
      simp only [List.length_cons]
      omega
    · exact absurd h nofun
  · exact absurd h nofun
  · obtain ⟨rfl, rfl⟩ := Prod.mk.inj (Option.some.inj h)
    exact Nat.le_refl _

/-- Two results are the same, and what they leave is no longer than `n`. -/
def Shortens {β : Type} (n : Nat) (x x' : Option (β × List Char)) : Prop :=
  x = x' ∧ ∀ result, x = some result → result.2.length ≤ n

namespace Shortens

variable {α β γ : Type} {n m : Nat}

/-- Where nothing is found, nothing is left. -/
theorem none : Shortens n (none : Option (β × List Char)) Option.none := ⟨rfl, nofun⟩

/-- A result that is the same leaves what it leaves. -/
theorem some (a : β) {rest : List Char} (h : rest.length ≤ n) :
    Shortens n (some (a, rest)) (Option.some (a, rest)) :=
  ⟨rfl, fun _ heq => Option.some.inj heq ▸ h⟩

/-- Results are the same behind results that are the same, and what is left is bounded step by step.
-/
theorem bind {x x' : Option (α × List Char)} {f f' : α × List Char → Option (β × List Char)}
    (h : Shortens m x x')
    (hf : ∀ a rest, rest.length ≤ m → Shortens n (f (a, rest)) (f' (a, rest))) :
    Shortens n (x >>= f) (x' >>= f') := by
  obtain ⟨rfl, hlength⟩ := h
  cases x with
  | none => exact .none
  | some result => exact hf result.1 result.2 (hlength result rfl)

/-- What is made of a result does not change what it leaves. -/
theorem map {x x' : Option (α × List Char)} (h : Shortens m x x') (g : α → β) (hm : m ≤ n) :
    Shortens n (x.map fun result => (g result.1, result.2))
      (x'.map fun result => (g result.1, result.2)) := by
  obtain ⟨rfl, hlength⟩ := h
  cases x with
  | none => exact .none
  | some result => exact .some _ (Nat.le_trans (hlength result rfl) hm)

/-- A step that parses no expression is the same on both sides. -/
theorem behind {x : Option γ} {f f' : γ → Option (β × List Char)}
    (hf : ∀ a, x = Option.some a → Shortens n (f a) (f' a)) :
    Shortens n (x >>= f) (x >>= f') := by
  cases x with
  | none => exact .none
  | some a => exact hf a rfl

end Shortens

variable {parse parse' : List Char → Option Expr}

/-- The parts of a body depend on how its own, shorter texts are parsed. -/
theorem shortens_bodyParts (raw : Bool) (fuel level : Nat) {text : List Char}
    (h : ∀ source : List Char, source.length < text.length → parse source = parse' source) :
    Shortens text.length (bodyParts parse raw fuel level text)
      (bodyParts parse' raw fuel level text) := by
  induction fuel generalizing level text with
  | zero => exact .none
  | succ fuel ih =>
    have hmore : ∀ (level : Nat) {after : List Char}, after.length ≤ text.length →
        Shortens after.length (bodyParts parse raw fuel level after)
          (bodyParts parse' raw fuel level after) :=
      fun level after hle => ih _ fun source hlt => h source (by omega)
    unfold bodyParts
    refine .behind fun run hrun => .behind fun content _ => ?_
    have hrest := length_rest_of_textRun hrun
    dsimp only
    split
    · exact (hmore level hrest).map _ hrest
    split
    · exact .some _ (Nat.zero_le _)
    rename_i brace rest heq
    split
    · exact .some _ hrest
    split
    · exact .none
    rw [heq, List.length_cons] at hrest
    refine .behind fun found hfound => ?_
    obtain ⟨source, behind⟩ := found
    have hsource := length_of_expressionRun hfound
    dsimp only
    split
    · exact .none
    rw [h source (by omega)]
    refine .behind fun value _ => ?_
    -- Whether the expression is repeated does not matter to what follows.
    have hless : ∀ {after : List Char}, after.length ≤ behind.length → after.length < text.length :=
      fun hle => by omega
    split
    case h_1 | h_2 =>
      refine .behind fun found hfound => ?_
      obtain ⟨conversion, after⟩ := found
      have hafter := length_of_conversion? hfound
      replace hafter : after.length < text.length := by
        first
        | exact hless hafter
        | exact hless (Nat.le_trans hafter (Nat.le_succ_of_le (List.dropWhile_sublist _).length_le))
      dsimp only
      split
      · rw [List.length_cons] at hafter
        split
        · exact .none
        refine (Shortens.map (hmore (level + 1) ?_)
          (fun parts => some (Expr.interpolated (gather false parts [])))
          (Nat.le_refl _)).bind fun format rest hle => ?_
        · omega
        dsimp only
        split
        · rw [List.length_cons] at hle
          split
          · exact .none
          · exact (hmore level (by omega)).map _ (by omega)
        · exact .none
      · refine (Shortens.some _ (Nat.le_refl _)).bind fun format rest hle => ?_
        dsimp only at hle ⊢
        split
        · rw [List.length_cons] at hle
          split
          · exact .none
          · exact (hmore level (by omega)).map _ (by omega)
        · exact .none

/-- The parts of a literal depend on how texts shorter than its body are parsed. -/
theorem literalParts_congr {literal : RawLiteral}
    (h : ∀ source : List Char, source.length < literal.body.length →
      parse source = parse' source) : literalParts parse literal = literalParts parse' literal := by
  have hbody := (shortens_bodyParts literal.isRaw (literal.body.length + 1) 0 h).1
  simp only [literalParts, interpolatedParts, hbody]

/-- So do those of several literals. -/
theorem mapM_literalParts_congr {literals : List RawLiteral}
    (h : ∀ literal ∈ literals, literalParts parse literal = literalParts parse' literal) :
    literals.mapM (literalParts parse) = literals.mapM (literalParts parse') := by
  induction literals with
  | nil => rw [List.mapM_nil, List.mapM_nil]
  | cons literal others ih =>
    rw [List.mapM_cons, List.mapM_cons, h literal List.mem_cons_self,
      ih fun other hmem => h other (List.mem_cons_of_mem literal hmem)]

/-- The expression that adjacent literals make depends on how the texts in their bodies are parsed.
-/
theorem literalsExpr_congr {literals : List RawLiteral}
    (h : ∀ literal ∈ literals, ∀ source : List Char, source.length < literal.body.length →
      parse source = parse' source) :
    literalsExpr parse literals = literalsExpr parse' literals := by
  have hall := mapM_literalParts_congr fun literal hmem => literalParts_congr (h literal hmem)
  unfold literalsExpr
  rw [hall]

end ExpectFile.Grammar
