import ExpectFile.Export
import ExpectFile.Reprint
import ExpectFile.Settings

/-!
# Outputs

A partitioned file can be written in several formats. A format has a key to choose it by and a
title, and what it writes comes with the ending of a file name and a media type.
-/

namespace ExpectFile

/-- A file that is written from blocks. -/
structure Output where
  /-- What follows the name of the source in the name of the file. -/
  ending : String
  content : String
  mediaType : String
deriving DecidableEq

/-- The formats. -/
inductive Format where
  | document
  | reprint
deriving DecidableEq

namespace Format

/-- The formats, sorted by their keys. -/
def all : List Format := [.document, .reprint]

/-- The key of a format. -/
def key : Format → String
  | .document => "json_blocks"
  | .reprint => "round_trip"

/-- The title of a format. -/
def title : Format → String
  | .document => "Blocks JSON"
  | .reprint => "Round-trip source"

/-- The format of a key. -/
def ofKey? (key : String) : Option Format := all.find? fun format => format.key == key

end Format

/-- The names to print calls under: the ones chosen, or the ones of the settings where none is. -/
def Reprint.Names.ofChoice (settings : Settings) (directive assertion : String) : Reprint.Names :=
  ⟨if directive.isEmpty then settings.printDirective else directive,
    if assertion.isEmpty then settings.printAssertion else assertion⟩

/-- The name of the source in a document: the one chosen, or the one of the settings if the choice
counts as none. -/
def Export.sourceOfChoice (settings : Settings) (source : Json) : Json :=
  if source.isVoid then .string settings.sourceName else source

/-- The blocks as source text. -/
def Output.reprint (names : Reprint.Names) (blocks : List Block) : Output :=
  ⟨"-roundtrip.py", Reprint.text names blocks, "text/x-python"⟩

/-- The blocks as a document. -/
def Output.document (source : Json) (entries : List Export.Entry) : Except Fault Output := do
  let content ← Export.text source entries
  return ⟨"-blocks.json", content, "application/json"⟩

/-- A format with what is chosen for it. -/
inductive Printer where
  | document (source : Json)
  | reprint (names : Reprint.Names)

/-- The blocks of a file as a printer writes them. -/
def Printer.print : Printer → List Block → Except Fault Output
  | document source, blocks => Output.document source (blocks.map Export.Entry.ofBlock)
  | reprint names, blocks => .ok (Output.reprint names blocks)

end ExpectFile
