import ExpectFile.Grammar.Printer
import ExpectFile.Proofs.Outcome

/-!
# When an expression cannot be printed

Two things cannot be written out: a number with too many digits, and a replacement whose expression
holds a backslash. Every other step of the printer puts texts together, so whatever the expression
is, printing it fails for one of these two reasons or not at all.

* **`failsOnly_printAt`** — the functions of the printer, by induction on the expression with all
  of them at once.
* **`failsOnly_text`** — an expression statement as text.
-/

namespace ExpectFile

/-- The faults of printing an expression. -/
inductive Fault.OfPrinting : Fault → Prop where
  | backslash : Fault.OfPrinting .backslashInInterpolation
  | digits : Fault.OfPrinting .tooManyDigits

namespace Grammar

open Outcome Fault

/-- A number fails to be printed only if it has too many digits. -/
theorem failsOnly_numeralText (value : Numeral) : FailsOnly OfPrinting (numeralText value) := by
  cases value with
  | whole value =>
    rw [numeralText]
    split
    · exact .ok _
    · exact .error .digits
  | real value => exact .ok _
  | imaginary value => exact .ok _

/-- So does a constant, as all others can be printed. -/
theorem failsOnly_constantText (free : Bool) (value : Constant) :
    FailsOnly OfPrinting (constantText free value) := by
  unfold constantText
  split
  case h_5 value => exact failsOnly_numeralText value
  all_goals exact .ok _

/-- The items of a tuple fail to be printed as the tuple does. -/
theorem failsOnly_printAll_of_tuple {free : Bool} {level : Level} {items : List Expr}
    (h : FailsOnly OfPrinting (printAt free level (.tuple items))) :
    FailsOnly OfPrinting (printAll free .test items) := by
  rw [printAt] at h
  exact fun fault hfault => h fault (bind_pure_eq_error.mpr hfault)

/-- So do the parts of an interpolated literal, and with them a format. -/
theorem failsOnly_formatText {free : Bool} {level : Level} {format : Expr}
    (h : FailsOnly OfPrinting (printAt free level format)) :
    FailsOnly OfPrinting (formatText (some format)) := by
  unfold formatText
  split
  · exact .ok _
  · rename_i parts heq
    rw [Option.some.inj heq, printAt] at h
    have hparts : FailsOnly OfPrinting (partTexts parts) :=
      fun fault hfault => h fault (bind_pure_eq_error.mpr hfault)
    exact hparts.bind fun _ => .ok _
  · exact .ok _

/-- A part is a text, which can always be printed, or an expression. -/
theorem failsOnly_partTexts_cons {part : Expr} {rest : List Expr}
    (hpart : FailsOnly OfPrinting (printAt true .or part))
    (hrest : FailsOnly OfPrinting (partTexts rest)) :
    FailsOnly OfPrinting (partTexts (part :: rest)) := by
  unfold partTexts
  split
  · exact .ok _
  · rename_i value marked others heq
    obtain ⟨-, rfl⟩ := List.cons.inj heq
    exact hrest.bind fun _ => .ok _
  · rename_i other others hother heq
    obtain ⟨rfl, rfl⟩ := List.cons.inj heq
    exact hpart.bind fun _ => hrest.bind fun _ => .ok _

mutual

/-- **An expression fails to be printed for one of the two reasons only.** Every case puts together
what its parts are printed as. -/
theorem failsOnly_printAt (free : Bool) (level : Level) :
    (e : Expr) → FailsOnly OfPrinting (printAt free level e)
  | .name _ => .ok _
  | .constant value => failsOnly_constantText free value
  | .interpolated parts => by
    rw [printAt]
    exact (failsOnly_partTexts parts).bind fun _ => .ok _
  -- a replacement is printed apart, and the result may not hold a backslash
  | .replacement value _ none => by
    unfold printAt
    refine (failsOnly_printAt true .or value).bind fun text => ?_
    split
    · exact .error .backslash
    · exact .ok _
  | .replacement value _ (some format) => by
    have hformat := failsOnly_formatText (failsOnly_printAt true .or format)
    unfold printAt
    refine (failsOnly_printAt true .or value).bind fun text => ?_
    split
    · exact .error .backslash
    · exact hformat.bind fun _ => .ok _
  | .attribute value _ => by
    rw [printAt]
    exact (failsOnly_printAt free .atom value).bind fun _ => .ok _
  | .subscript value index => by
    have hindex := failsOnly_printAt free .test index
    unfold printAt
    refine (failsOnly_printAt free .atom value).bind fun _ => ?_
    split
    -- an index that is a tuple is printed without parentheses, from the texts of its items
    · split
      · exact .ok _
      · exact ((failsOnly_printAll_of_tuple hindex).map tupleText).bind fun _ => .ok _
    · exact hindex.bind fun _ => .ok _
  | .slice lower upper step => by
    rw [printAt]
    exact (failsOnly_printOptional free [] lower).bind fun _ =>
      (failsOnly_printOptional free [] upper).bind fun _ =>
        (failsOnly_printOptional free [':'] step).bind fun _ => .ok _
  | .call callee positional named => by
    rw [printAt]
    exact (failsOnly_printAt free .atom callee).bind fun _ =>
      (failsOnly_printAll free .test positional).bind fun _ =>
        (failsOnly_printAll free .test named).bind fun _ => .ok _
  | .keyword _ value => by
    rw [printAt]
    exact (failsOnly_printAt free .test value).bind fun _ => .ok _
  | .starred value => by
    rw [printAt]
    exact (failsOnly_printAt free .bitOr value).bind fun _ => .ok _
  | .tuple items => by
    rw [printAt]
    exact (failsOnly_printAll free .test items).bind fun _ => .ok _
  | .list items => by
    rw [printAt]
    exact (failsOnly_printAll free .test items).bind fun _ => .ok _
  | .set items => by
    rw [printAt]
    exact (failsOnly_printAll free .test items).bind fun _ => .ok _
  | .table entries => by
    rw [printAt]
    exact (failsOnly_printAll free .test entries).bind fun _ => .ok _
  | .entry none value => by
    rw [printAt]
    exact (failsOnly_printAt free .bitOr value).bind fun _ => .ok _
  | .entry (some key) value => by
    rw [printAt]
    exact (failsOnly_printAt free .test key).bind fun _ =>
      (failsOnly_printAt free .test value).bind fun _ => .ok _
  | .comprehension _ element clauses => by
    rw [printAt]
    exact (failsOnly_printAt free .test element).bind fun _ =>
      (failsOnly_printAll free .test clauses).bind fun _ => .ok _
  | .clause _ target source conditions => by
    rw [printAt]
    exact (failsOnly_printAt free .tuple target).bind fun _ =>
      (failsOnly_printAt free .or source).bind fun _ =>
        (failsOnly_printAll free .or conditions).bind fun _ => .ok _
  | .unary own _ operand => by
    rw [printAt]
    exact (failsOnly_printAt free own operand).bind fun _ => .ok _
  | .binary own _ left right => by
    rw [printAt]
    exact (failsOnly_printAt free _ left).bind fun _ =>
      (failsOnly_printAt free _ right).bind fun _ => .ok _
  | .boolean own _ operands => by
    rw [printAt]
    exact (failsOnly_printRising free own.next operands).bind fun _ => .ok _
  | .comparison first others => by
    rw [printAt]
    exact (failsOnly_printAt free .bitOr first).bind fun _ =>
      (failsOnly_printAll free .bitOr others).bind fun _ => .ok _
  | .compared _ operand => by
    rw [printAt]
    exact (failsOnly_printAt free .bitOr operand).bind fun _ => .ok _
  | .conditional test body otherwise => by
    rw [printAt]
    exact (failsOnly_printAt free .or body).bind fun _ =>
      (failsOnly_printAt free .or test).bind fun _ =>
        (failsOnly_printAt free .test otherwise).bind fun _ => .ok _
  | .function parameters body => by
    rw [printAt]
    exact (failsOnly_printAll free .test parameters).bind fun _ =>
      (failsOnly_printAt free .test body).bind fun _ => .ok _
  | .parameter _ _ fallback => by
    rw [printAt]
    exact (failsOnly_printOptional free ['='] fallback).bind fun _ => .ok _
  | .assigned target value => by
    rw [printAt]
    exact (failsOnly_printAt free .atom target).bind fun _ =>
      (failsOnly_printAt free .atom value).bind fun _ => .ok _
  | .await value => by
    rw [printAt]
    exact (failsOnly_printAt free .atom value).bind fun _ => .ok _
  | .yield none => .ok _
  | .yield (some value) => by
    rw [printAt]
    exact (failsOnly_printAt free .atom value).bind fun _ => .ok _
  | .yieldFrom value => by
    rw [printAt]
    exact (failsOnly_printAt free .atom value).bind fun _ => .ok _

/-- Expressions in a list fail to be printed as one of them does. -/
theorem failsOnly_printAll (free : Bool) (level : Level) :
    (items : List Expr) → FailsOnly OfPrinting (printAll free level items)
  | [] => .ok _
  | item :: rest => by
    rw [printAll]
    exact (failsOnly_printAt free level item).bind fun _ =>
      (failsOnly_printAll free level rest).bind fun _ => .ok _

/-- So do operands whose levels rise. -/
theorem failsOnly_printRising (free : Bool) (level : Level) :
    (items : List Expr) → FailsOnly OfPrinting (printRising free level items)
  | [] => .ok _
  | item :: rest => by
    rw [printRising]
    exact (failsOnly_printAt free level item).bind fun _ =>
      (failsOnly_printRising free level.next rest).bind fun _ => .ok _

/-- So does an expression that may be missing. -/
theorem failsOnly_printOptional (free : Bool) (mark : List Char) :
    (value : Option Expr) → FailsOnly OfPrinting (printOptional free mark value)
  | none => .ok _
  | some value => by
    rw [printOptional]
    exact (failsOnly_printAt free .test value).bind fun _ => .ok _

/-- So do the parts of an interpolated text. -/
theorem failsOnly_partTexts : (parts : List Expr) → FailsOnly OfPrinting (partTexts parts)
  | [] => .ok _
  | part :: rest =>
    failsOnly_partTexts_cons (failsOnly_printAt true .or part) (failsOnly_partTexts rest)

end

/-- **An expression statement cannot be printed for one of two reasons.** -/
theorem failsOnly_text (e : Expr) : FailsOnly OfPrinting e.text :=
  (failsOnly_printAt false .yield e).map String.ofList

end Grammar

end ExpectFile
