import ExpectFile.Marker

/-!
# Expectations

The text that an assertion stands for. An exact assertion stands for its text as it is. A tolerant
one stands for it up to blanks at the ends of lines and empty lines at the end; the form without
them is `trimmed`. An assertion without a text stands for nothing.
-/

namespace ExpectFile

open Text

/-- Turns an assertion into the text to compare with, or into none. -/
abbrev Rendering := Assertion → Option String

namespace Expectation

/-- The lines without the empty ones at their end; of lines that are all empty, the first. -/
def dropEmptyEnd : List (List Char) → List (List Char)
  | [] => []
  | line :: rest =>
    match dropEmptyEnd rest with
    | [[]] => [line]
    | kept => line :: kept

/-- The text without the blanks at the end of each line and without empty lines at its end. -/
def trimmed (text : List Char) : List Char :=
  joined ['\n'] (dropEmptyEnd ((pieces '\n' text).map trimEnd))

/-- The text that an assertion records. -/
def recorded : Rendering := fun assertion =>
  match assertion.payload, assertion.strictness with
  | none, _ => none
  | some text, .exact => some text
  | some text, .tolerant => some (String.ofList (trimmed text.toList))

end Expectation

end ExpectFile
