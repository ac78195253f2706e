import ExpectFile.Chunk
import ExpectFile.Diff.Unified
import ExpectFile.Journal
import ExpectFile.Output
import ExpectFile.Partition

/-!
# Sources

From the text of a file to its chunks, its blocks, and the difference between the file and what its
blocks print as. A `Reading` says how a source is read; its functions keep a journal.

A vocabulary that the settings give is built when the first statement has to be classified, so a
file without statements can be read under settings that have no vocabulary.
-/

namespace ExpectFile

open Grammar

/-- The statements of a text. The name of the source serves to report a text that does not parse. -/
def parseSource (sourceName contents : String) : Except Fault (List ParsedStatement) :=
  if sourceName.toList.contains '\x00' then .error .nullInSourceName
  else if contents.toList.contains '\x00' then .error .nullCharacter
  else match parseStatements contents.toList with
    | some statements => .ok statements
    | none => .error (.unparsable sourceName)

/-- The phrases of a text. -/
def phrasesOf (sourceName contents : String) : Except Fault (List Phrase) := do
  let statements ← parseSource sourceName contents
  Phrase.ofParsed contents statements

/-- The name of a text that is not a file. -/
def unnamedSource : String := "<unknown>"

/-- The first statement of a text on its own, to be given an extent. -/
def statementOf (contents : String) : Except Fault (Extent → Statement) := do
  match ← parseSource unnamedSource contents with
  | [] => throw .noSuchLine
  | first :: _ => return fun extent => ⟨first.expression, first.start.line, extent⟩

/-- A vocabulary, with a note if names in it are ambiguous. -/
def Vocabulary.noted (built : Except Fault Vocabulary) : Noted Vocabulary := do
  let v ← built
  if !v.ambiguousNames.isEmpty then
    Noted.event (.ambiguousNames v.ambiguousNames)
  return v

/-- How a source is read. -/
structure Reading where
  settings : Settings
  /-- The vocabulary; if there is none, the one of the settings. -/
  vocabulary : Option Vocabulary
  render : Rendering
  /-- The name of the source; if there is none, the one of the settings. -/
  sourceName : Option String

namespace Reading

/-- The name of the source. -/
def name (reading : Reading) : String := reading.sourceName.getD reading.settings.sourceName

/-- The vocabulary to classify statements by. If none is classified, any will do. -/
def vocabularyFor (reading : Reading) (classifies : Bool) : Noted Vocabulary :=
  match reading.vocabulary with
  | some v => return v
  | none =>
    if classifies then Vocabulary.noted reading.settings.vocabulary
    else return Vocabulary.standard

/-- The marker that a statement is. -/
def marker? (reading : Reading) (contents : Option String) (statement : Statement) :
    Noted (Option Marker) := do
  let v ← reading.vocabularyFor true
  statement.marker? v contents

/-! ## Phrases -/

/-- The chunks that phrases make, the first of them from `start` on. -/
def splitPhrases (reading : Reading) (start : Int) (contents : Option String)
    (phrases : List Phrase) : Noted Split := do
  let v ← reading.vocabularyFor (phrases.any fun phrase => phrase.only?.isSome)
  let result ← ExpectFile.split ⟨reading.name, v, reading.render, contents⟩ start phrases
  Noted.event (.divided reading.name result.chunks.length result.trailing.isSome)
  return result

/-- The blocks of a text with these phrases. -/
def partitionPhrases (reading : Reading) (contents : String) (phrases : List Phrase) :
    Noted (List Block) := do
  let v ← reading.vocabularyFor (phrases.any fun phrase => !phrase.isEmpty)
  let (blocks, counts) ← partitionCounted v reading.render contents phrases
  Noted.event (.tiled counts)
  Noted.event (.partitioned contents.length blocks.length)
  return blocks

/-! ## Texts -/

/-- The chunks of a text. -/
def split (reading : Reading) (contents : String) : Noted Split := do
  let phrases ← phrasesOf reading.name contents
  reading.splitPhrases 0 (some contents) phrases

/-- The blocks of a text. -/
def partition (reading : Reading) (contents : String) : Noted (List Block) := do
  let phrases ← phrasesOf reading.name contents
  reading.partitionPhrases contents phrases

/-- How two texts under one name differ, the second of them a reprint of the first. -/
def difference (reading : Reading) (contents reprinted : String) : String :=
  String.ofList (Diff.unified reading.name.toList (reading.name.toList ++ " (round trip)".toList)
    contents.toList reprinted.toList)

/-- What a journal calls the source: nothing is known by its default name or by an empty one. -/
def title (reading : Reading) : String :=
  match reading.sourceName with
  | some given => if given.isEmpty then "source" else given
  | none => "source"

/-- How a text differs from what its blocks print as. -/
def drift (reading : Reading) (contents : String) : Noted String := do
  let blocks ← reading.partition contents
  let names := Reprint.Names.ofChoice reading.settings "" ""
  let found := reading.difference contents (Reprint.text names blocks)
  if !found.isEmpty then
    Noted.event (.drifted reading.title)
  return found

end Reading

end ExpectFile
