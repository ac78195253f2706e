import ExpectFile.Vocabulary

/-!
# Settings

What a project can choose for itself: the names of its markers, the name of a source that has none,
and the names under which markers are printed. Each setting has a key; a key that is not set leaves
the default.
-/

namespace ExpectFile

/-- The choices of a project. -/
structure Settings where
  tolerant : List String
  exact : List String
  directives : List String
  parts : List String
  /-- The name of a source that the caller does not name. -/
  sourceName : String
  /-- The name under which directives are printed. -/
  printDirective : String
  /-- The name under which assertions are printed. -/
  printAssertion : String

namespace Settings

/-- The value of a key. -/
def valueOf (given : List (String × String)) (key default : String) : String :=
  ((given.find? fun entry => entry.1 == key).map (·.2)).getD default

/-- The settings that the keys give. The lists of names are read in the order of the fields. -/
def read (given : List (String × String)) : Except Fault Settings := do
  let tolerant ← readNames (valueOf given "TOLERANT_NAMES" "expect")
  let exact ← readNames (valueOf given "EXACT_NAMES" "expect_exact")
  let directives ← readNames (valueOf given "DIRECTIVE_NAMES" "org")
  let parts ← readNames (valueOf given "PART_NAMES" "part")
  return {
    tolerant, exact, directives, parts
    sourceName := valueOf given "SOURCE_NAME" "<toplevel>"
    printDirective := valueOf given "PRINT_DIRECTIVE" "org"
    printAssertion := valueOf given "PRINT_ASSERTION" "expect" }

/-- The vocabulary of the settings. -/
def vocabulary (settings : Settings) : Except Fault Vocabulary :=
  Vocabulary.ofNames settings.tolerant settings.exact settings.directives settings.parts

end Settings

end ExpectFile
