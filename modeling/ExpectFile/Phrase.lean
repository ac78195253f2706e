import ExpectFile.Grammar.StatementParser
import ExpectFile.Text.LineTable

/-!
# Phrases

A phrase is what is read at once: a statement, or the statements that only a semicolon separates
on a line. Statements come from the parser with their places; here they get extents and are
grouped. Comments, blank lines and the semicolons between statements belong to no statement.

`Phrase.ofParsed` is the whole way from the statements of a parser to phrases.
-/

namespace ExpectFile

open Grammar

/-- A top-level statement: its expression if it is nothing else, its line, and its extent. -/
structure Statement where
  expression : Option Expr
  line : Nat
  extent : Extent

/-- Statements that are read together, and the extent of them all. -/
structure Phrase where
  extent : Extent
  statements : List Statement

namespace Phrase

/-- Whether nothing is read. -/
def isEmpty (phrase : Phrase) : Bool := phrase.statements.isEmpty

/-- The phrase of a single statement. -/
def single (statement : Statement) : Phrase := ⟨statement.extent, [statement]⟩

/-- The statement of a phrase that has just one. -/
def only? (phrase : Phrase) : Option Statement :=
  match phrase.statements with
  | [statement] => some statement
  | _ => none

end Phrase

/-! ## Extents of statements -/

/-- The offset of the last occurrence of a character in front of an offset. -/
def lastBefore? (c : Char) (offset : Nat) (text : List Char) : Option Nat :=
  let before := text.take offset
  if before.contains c then some (before.length - 1 - before.reverse.idxOf c) else none

/-- The extent of a statement. A decorated definition starts at the last `@` in front of the
expression of its first decorator, if that is earlier. -/
def Statement.extentOf (table : LineTable) (text : List Char) (parsed : ParsedStatement) :
    Except Fault Extent := do
  let own ← table.offset parsed.start.line parsed.start.column
  let start ←
    match parsed.decorator with
    | none => pure own
    | some place => do
      let expression ← table.offset place.line place.column
      pure (match lastBefore? '@' expression text with
        | some sign => min own sign
        | none => own)
  let stop ← table.offset parsed.stop.line parsed.stop.column
  Extent.ofBounds start stop

/-- A statement of the parser with its extent in the text. -/
def Statement.ofParsed (table : LineTable) (text : List Char) (parsed : ParsedStatement) :
    Except Fault Statement := do
  let extent ← Statement.extentOf table text parsed
  return ⟨parsed.expression, parsed.start.line, extent⟩

/-! ## Grouping -/

/-- Whether only a semicolon stands between two statements, spaces and tabs apart. -/
def joinedBySemicolon (text : List Char) (first second : Statement) : Bool :=
  let gap := (text.drop first.extent.stop).take (second.extent.start - first.extent.stop)
  (gap.filter fun c => c != ' ' && c != '\t') == [';']

/-- The statements in runs that semicolons join. -/
def runs (text : List Char) : List Statement → List (List Statement)
  | [] => []
  | first :: rest =>
    match runs text rest with
    | (second :: others) :: more =>
      if joinedBySemicolon text first second then (first :: second :: others) :: more
      else [first] :: (second :: others) :: more
    | more => [first] :: more

/-- The phrase of a run, from the start of its first statement to the stop of its last. -/
def Phrase.ofRun (run : List Statement) : Except Fault Phrase :=
  match run.head?, run.getLast? with
  | some first, some last => do
    let extent ← Extent.ofBounds first.extent.start last.extent.stop
    return ⟨extent, run⟩
  | _, _ => .ok ⟨Extent.empty 0, []⟩

/-- The phrases of a text, given the statements that the parser found in it. -/
def Phrase.ofParsed (text : String) (parsed : List ParsedStatement) :
    Except Fault (List Phrase) := do
  let table := LineTable.ofText text
  let chars := text.toList
  let statements ← parsed.mapM (Statement.ofParsed table chars)
  (runs chars statements).mapM Phrase.ofRun

end ExpectFile
