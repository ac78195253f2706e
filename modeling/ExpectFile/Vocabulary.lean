import ExpectFile.Fault
import ExpectFile.Text.Blank

/-!
# Vocabularies

Which calls are markers is a matter of names. A vocabulary gives four sets of them: for tolerant
assertions, for exact assertions, for directives and for part declarations. A name may be dotted.
No name is tolerant and exact, and the names of part declarations are used for nothing else; that
is part of the type. A name may be registered for assertions and for directives, but it fails where
it is used.
-/

namespace ExpectFile

open Text

/-- How closely an output has to match the text of an assertion. -/
inductive Strictness where
  | tolerant
  | exact
deriving DecidableEq

/-- The word for a strictness. -/
def Strictness.word : Strictness → String
  | .tolerant => "tolerant"
  | .exact => "exact"

/-- The strictness that a word names. -/
def Strictness.ofWord (word : String) : Except Fault Strictness :=
  if word = "tolerant" then .ok .tolerant
  else if word = "exact" then .ok .exact
  else .error (.unknownStrictness word)

/-! ## Sets of names -/

/-- A name put into its place in a sorted list, unless it is there. -/
def insertName (name : String) : List String → List String
  | [] => [name]
  | other :: rest =>
    if name = other then other :: rest
    else if name < other then name :: other :: rest
    else other :: insertName name rest

/-- The names of a list, sorted and each once. -/
def sortedNames (names : List String) : List String := names.foldr insertName []

/-- The names of a list separated by commas. Blanks around a name are not part of it, and there
has to be a name. -/
def readNames (given : String) : Except Fault (List String) :=
  let trimmed := (pieces ',' given.toList).map trim
  match sortedNames ((trimmed.filter (!·.isEmpty)).map String.ofList) with
  | [] => .error (.noNames given)
  | names => .ok names

/-- The names that both lists have, sorted and each once. -/
def sharedNames (first second : List String) : List String :=
  sortedNames (first.filter second.contains)

theorem mem_insertName {name other : String} {names : List String} :
    other ∈ insertName name names ↔ other = name ∨ other ∈ names := by
  induction names with
  | nil => simp [insertName]
  | cons first rest ih =>
    unfold insertName
    split
    · rename_i h; subst h; simp
    · split
      · simp
      · simp [ih, or_left_comm]

theorem mem_sortedNames {name : String} {names : List String} :
    name ∈ sortedNames names ↔ name ∈ names := by
  induction names with
  | nil => simp [sortedNames]
  | cons first rest ih =>
    have : sortedNames (first :: rest) = insertName first (sortedNames rest) := rfl
    simp [this, mem_insertName, ih]

theorem mem_sharedNames {name : String} {first second : List String} :
    name ∈ sharedNames first second ↔ name ∈ first ∧ name ∈ second := by
  simp [sharedNames, mem_sortedNames]

/-! ## Vocabularies -/

/-- The names of the markers. -/
structure Vocabulary where
  tolerant : List String
  exact : List String
  directives : List String
  parts : List String
  tolerant_not_exact : ∀ name ∈ tolerant, name ∉ exact
  part_not_tolerant : ∀ name ∈ parts, name ∉ tolerant
  part_not_exact : ∀ name ∈ parts, name ∉ exact
  part_not_directive : ∀ name ∈ parts, name ∉ directives

namespace Vocabulary

/-- The vocabulary of four lists of names, unless a name stands for two things that exclude each
other. -/
def ofNames (tolerant exact directives parts : List String) : Except Fault Vocabulary :=
  let bothKinds := sharedNames tolerant exact
  if hboth : bothKinds = [] then
    let reused := sharedNames parts (tolerant ++ exact ++ directives)
    if hreused : reused = [] then
      have hparts : ∀ name ∈ parts, name ∉ tolerant ++ exact ++ directives := by
        intro name hname hother
        have : name ∈ reused := mem_sharedNames.2 ⟨hname, hother⟩
        simp [hreused] at this
      .ok
        { tolerant, exact, directives, parts
          tolerant_not_exact := by
            intro name hname hother
            have : name ∈ bothKinds := mem_sharedNames.2 ⟨hname, hother⟩
            simp [hboth] at this
          part_not_tolerant := fun name hname hother => hparts name hname (by simp [hother])
          part_not_exact := fun name hname hother => hparts name hname (by simp [hother])
          part_not_directive := fun name hname hother => hparts name hname (by simp [hother]) }
    else .error (.reusedPartNames reused)
  else .error (.ambiguousStrictness bothKinds)

/-- The vocabulary of the default names. -/
def standard : Vocabulary where
  tolerant := ["expect"]
  exact := ["expect_exact"]
  directives := ["org"]
  parts := ["part"]
  tolerant_not_exact := by simp
  part_not_tolerant := by simp
  part_not_exact := by simp
  part_not_directive := by simp

/-- The strictness of the assertion that a name stands for. -/
def strictness? (v : Vocabulary) (name : String) : Option Strictness :=
  if v.tolerant.contains name then some .tolerant
  else if v.exact.contains name then some .exact
  else none

/-- Whether a name is in the vocabulary at all. -/
def contains (v : Vocabulary) (name : String) : Bool :=
  v.tolerant.contains name || v.exact.contains name || v.directives.contains name
    || v.parts.contains name

/-- The names for assertions that are names for directives as well, sorted. -/
def ambiguousNames (v : Vocabulary) : List String :=
  sharedNames (v.tolerant ++ v.exact) v.directives

end Vocabulary

end ExpectFile
