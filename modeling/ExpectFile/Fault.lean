import ExpectFile.Extent
import ExpectFile.Json

/-!
# Faults

Everything that can go wrong, by cause. A fault carries what a reader needs to find the place: an
excerpt of the source, an extent, or two. Its wording is a function of the cause
(`Fault.message`), so no other module writes messages.
-/

namespace ExpectFile

open Text

/-- What is wrong with the arguments of a marker call. -/
inductive Malformation where
  | keywordArgument
  | severalArguments
  | notALiteral
  | missingLabel
deriving DecidableEq

/-- The words for a malformation. -/
def Malformation.reason : Malformation → String
  | .keywordArgument => "keyword arguments are not allowed"
  | .severalArguments => "expected at most one argument"
  | .notALiteral => "the argument must be a string literal"
  | .missingLabel => "a part declaration needs a name"

/-- Why something could not be done. -/
inductive Fault where
  /-- The bounds of an extent are negative or in the wrong order. -/
  | invalidExtent (start stop : Int)
  /-- An extent reaches beyond the end of the text. -/
  | outsideText (extent : Extent) (length : Nat)
  /-- A line number that no line has. -/
  | noSuchLine
  /-- A line number that cannot even be counted to. -/
  | uncountableLine
  /-- A byte column inside a character: where its bytes begin, how many stand before the column,
  and the first of them. -/
  | splitCharacter (position count : Nat) (first : Nat)
  /-- A list of names without a name. -/
  | noNames (given : String)
  /-- Names of tolerant assertions that are also names of exact ones. -/
  | ambiguousStrictness (names : List String)
  /-- Names of part declarations that are also names of other markers. -/
  | reusedPartNames (names : List String)
  /-- A word that names no kind of block. -/
  | unknownBlockKind (word : String)
  /-- A word that names no strictness. -/
  | unknownStrictness (word : String)
  /-- Source text that holds a NUL character. -/
  | nullCharacter
  /-- The name of a source that holds a NUL character. -/
  | nullInSourceName
  /-- Source text that does not parse. -/
  | unparsable (sourceName : String)
  /-- A call that is both an assertion and a directive. -/
  | conflictingMarkers (excerpt : String)
  /-- A marker call with arguments that markers do not take. -/
  | malformedMarker (name : String) (what : Malformation) (excerpt : String)
  /-- A part declaration with code in front of it that no assertion closes. -/
  | misplacedPart (extent : Extent) (sourceName : String) (line : Nat)
  /-- Two neighbouring ranges of which the second begins before the first ends. -/
  | overlap (previous next : Extent)
  /-- An expression that cannot be written inside an interpolated literal. -/
  | backslashInInterpolation
  /-- A number with more digits than may be written out. -/
  | tooManyDigits
  /-- A value that should be a text. -/
  | notText (value : Json)

/-- The form in which extents appear in messages. -/
def Extent.shown (e : Extent) : List Char :=
  '[' :: decimal e.start ++ [',', ' '] ++ decimal e.stop ++ [')']

/-- Names as a message lists them. -/
def shownNames (names : List String) : List Char :=
  '[' :: joined [',', ' '] (names.map fun name => quoted name.toList) ++ [']']

namespace Fault

/-- The wording of a fault, as characters. -/
def words : Fault → List Char
  | invalidExtent start stop =>
    "Invalid location [".toList ++ integer start ++ [',', ' '] ++ integer stop ++ [')']
  | outsideText extent length =>
    "Location ".toList ++ extent.shown ++ " is outside a buffer of length ".toList
      ++ decimal length
  | noSuchLine => "list index out of range".toList
  | uncountableLine => "cannot fit 'int' into an index-sized integer".toList
  | splitCharacter position count first =>
    "'utf-8' codec can't decode byte".toList
      ++ (if count = 1 then
            " 0x".toList ++ hexDigits 2 first ++ " in position ".toList ++ decimal position
          else
            "s in position ".toList ++ decimal position ++ ['-']
              ++ decimal (position + count - 1))
      ++ ": unexpected end of data".toList
  | noNames given =>
    "Expected at least one marker name, got ".toList ++ quoted given.toList
  | ambiguousStrictness names =>
    "Names registered as both tolerant and exact: ".toList ++ shownNames names
  | reusedPartNames names => "Part names reused by other markers: ".toList ++ shownNames names
  | unknownBlockKind word => quoted word.toList ++ " is not a valid BlockKind".toList
  | unknownStrictness word => quoted word.toList ++ " is not a valid AssertionKind".toList
  | nullCharacter => "source code string cannot contain null bytes".toList
  | nullInSourceName => "embedded null character".toList
  | unparsable _ => "invalid syntax".toList
  | conflictingMarkers excerpt =>
    "Both a directive and an assertion marker: ".toList ++ quoted excerpt.toList
  | malformedMarker name what excerpt =>
    "Malformed ".toList ++ name.toList ++ "(...) marker (".toList ++ what.reason.toList
      ++ "): ".toList ++ quoted excerpt.toList
  | misplacedPart _ sourceName line =>
    sourceName.toList ++ [':'] ++ decimal line
      ++ ": a part declaration cannot appear in the middle of a code block".toList
  | overlap previous next =>
    "Overlap: prev=".toList ++ previous.shown ++ " next=".toList ++ next.shown
  | backslashInInterpolation => "Unable to avoid backslash in f-string expression part".toList
  | tooManyDigits =>
    ("Exceeds the limit (4300 digits) for integer string conversion; "
      ++ "use sys.set_int_max_str_digits() to increase the limit").toList
  | notText value => value.shown ++ " is not of type 'string'".toList

/-- The wording of a fault. -/
def message (fault : Fault) : String := String.ofList fault.words

end Fault

/-- The extent between two numbers, or the fault that there is none. -/
def Extent.ofBounds (start stop : Int) : Except Fault Extent :=
  match Extent.ofBounds? start stop with
  | some e => .ok e
  | none => .error (.invalidExtent start stop)

/-- The text of an extent, or the fault that the text ends before it. -/
def Extent.slice (e : Extent) (text : String) : Except Fault String :=
  match e.slice? text with
  | some cut => .ok cut
  | none => .error (.outsideText e text.length)

end ExpectFile
