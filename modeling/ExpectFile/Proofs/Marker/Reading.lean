import ExpectFile.Marker
import ExpectFile.Proofs.Extent.Tiling

/-!
# Reading a marker

What can be said of `Statement.marker?` without looking at names and arguments: a marker stands
where its statement stands, and a statement within the text fails only with one of the two faults
of markers.

* **`reads_marker?`** — the ways to read a statement, each with its result.
* **`marker?_extent`** — the extent of a marker is the extent of its statement.
* **`ofMarker_of_marker?_eq_error`** — which faults there are, the excerpt being at hand;
  **`eq_outsideText_of_marker?_eq_error`** — and the only one where it is not at hand.
* **`marker?_eq_ok_congr`** — what a statement is has nothing to do with the text to quote from.

`Sample` is a file to apply theorems to.
-/

namespace ExpectFile

open Grammar

/-- The faults of a call that names a marker and is not one: its name stands for two things, or its
arguments are not what a marker takes. -/
inductive Fault.OfMarker : Fault → Prop where
  | conflicting (excerpt : String) : Fault.OfMarker (.conflictingMarkers excerpt)
  | malformed (name : String) (what : Malformation) (excerpt : String) :
      Fault.OfMarker (.malformedMarker name what excerpt)

/-- The extent of so many characters from an offset on. -/
def Extent.ofLength (start length : Nat) : Extent :=
  ⟨start, start + length, Nat.le_add_right start length⟩

namespace Statement

/-- A statement that calls a plain name, with texts as its arguments. -/
def calling (name : String) (texts : List String) (line : Nat) (extent : Extent) : Statement :=
  ⟨some (.call (.name name) (texts.map fun text => .constant (.text text false)) []), line, extent⟩

/-- A statement that is no expression. -/
def plain (line : Nat) (extent : Extent) : Statement := ⟨none, line, extent⟩

/-- Within the text, a statement can be quoted. -/
theorem excerpt_eq_ok {statement : Statement} {contents : String}
    (h : statement.extent.stop ≤ contents.length) :
    ∃ excerpt, statement.excerpt (some contents) = .ok excerpt := by
  refine ⟨String.ofList (statement.extent.cut contents.toList), ?_⟩
  show statement.extent.slice contents = _
  exact Extent.slice_eq_ok h

theorem malformed_ofMarker {statement : Statement} {contents : String} (name : String)
    (what : Malformation) (h : statement.extent.stop ≤ contents.length) :
    Fault.OfMarker (statement.malformed (some contents) name what) := by
  obtain ⟨excerpt, hexcerpt⟩ := excerpt_eq_ok h
  unfold malformed
  rw [hexcerpt]
  exact .malformed name what excerpt

/-- The ways to read a statement, and what comes of each. -/
inductive Reads (statement : Statement) (contents : Option String) :
    Except Fault (Option Marker) → Prop where
  /-- The statement calls no name of the vocabulary. -/
  | code : Reads statement contents (.ok none)
  | assertion (name : String) (strictness : Strictness) (text : Option String) :
      Reads statement contents (.ok (some (.assertion ⟨name, strictness, text, statement.extent⟩)))
  | directive (name text : String) :
      Reads statement contents (.ok (some (.directive name text statement.extent)))
  | part (name label : String) :
      Reads statement contents (.ok (some (.part name label statement.extent)))
  /-- The name stands for an assertion and a directive. -/
  | conflicting (excerpt : String) (hexcerpt : statement.excerpt contents = .ok excerpt) :
      Reads statement contents (.error (.conflictingMarkers excerpt))
  /-- The same, and the statement cannot even be quoted. -/
  | unquotable (fault : Fault) (hexcerpt : statement.excerpt contents = .error fault) :
      Reads statement contents (.error fault)
  /-- The arguments are not what a marker takes. -/
  | malformed (name : String) (what : Malformation) :
      Reads statement contents (.error (statement.malformed contents name what))

/-- **A statement is read in one of these ways.** The cases are the branches of `marker?`. -/
theorem reads_marker? (statement : Statement) (v : Vocabulary) (contents : Option String) :
    Reads statement contents (statement.marker? v contents) := by
  unfold marker?
  split
  · exact .code
  dsimp only
  split
  · exact .code
  split
  · split
    · rename_i excerpt hexcerpt
      exact .conflicting excerpt hexcerpt
    · rename_i fault hexcerpt
      exact .unquotable fault hexcerpt
  split
  · exact .malformed _ _
  split
  · exact .assertion _ _ _
  split
  · exact .directive _ _
  split
  · exact .part _ _
  · exact .malformed _ _

/-- A marker stands where its statement stands. -/
theorem marker?_extent {statement : Statement} {v : Vocabulary} {contents : Option String}
    {marker : Marker} (h : statement.marker? v contents = .ok (some marker)) :
    marker.extent = statement.extent := by
  have hreads := reads_marker? statement v contents
  rw [h] at hreads
  cases hreads <;> rfl

/-- **The faults of a statement within the text.** Everything else that can go wrong when a
statement is read has to do with quoting it. -/
theorem ofMarker_of_marker?_eq_error {statement : Statement} {v : Vocabulary} {contents : String}
    {fault : Fault} (h : statement.marker? v (some contents) = .error fault)
    (hinside : statement.extent.stop ≤ contents.length) : Fault.OfMarker fault := by
  obtain ⟨found, hfound⟩ := excerpt_eq_ok hinside
  have hreads := reads_marker? statement v (some contents)
  rw [h] at hreads
  cases hreads with
  | conflicting excerpt _ => exact .conflicting excerpt
  | unquotable _ hexcerpt =>
    rw [hfound] at hexcerpt
    exact absurd hexcerpt nofun
  | malformed name what => exact malformed_ofMarker name what hinside

/-- Behind the end of the text every quotation fails, and in the same way; so what should have been
said of the statement is lost. -/
theorem eq_outsideText_of_marker?_eq_error {statement : Statement} {v : Vocabulary}
    {contents : String} {fault : Fault} (h : statement.marker? v (some contents) = .error fault)
    (houtside : contents.length < statement.extent.stop) :
    fault = .outsideText statement.extent contents.length := by
  have hquote : statement.excerpt (some contents)
      = .error (.outsideText statement.extent contents.length) := by
    show statement.extent.slice contents = _
    unfold Extent.slice Extent.slice?
    rw [if_neg (Nat.not_le.mpr houtside)]
  have hreads := reads_marker? statement v (some contents)
  rw [h] at hreads
  cases hreads with
  | conflicting excerpt hexcerpt => simp [hquote] at hexcerpt
  | unquotable _ hexcerpt =>
    rw [hquote] at hexcerpt
    exact (Except.error.inj hexcerpt).symm
  | malformed name what =>
    unfold malformed
    rw [hquote]

/-- **All faults of a statement.** It is no proper marker, or it does not lie in the text. -/
theorem fault_of_marker?_eq_error {statement : Statement} {v : Vocabulary} {contents : String}
    {fault : Fault} (h : statement.marker? v (some contents) = .error fault) :
    Fault.OfMarker fault ∨ fault = .outsideText statement.extent contents.length := by
  by_cases hinside : statement.extent.stop ≤ contents.length
  · exact Or.inl (ofMarker_of_marker?_eq_error h hinside)
  · exact Or.inr (eq_outsideText_of_marker?_eq_error h (Nat.not_le.mp hinside))

/-- A reading that succeeds quotes nothing, so it succeeds whatever there is to quote from. -/
theorem marker?_eq_ok_congr {statement : Statement} {v : Vocabulary} {contents : Option String}
    {found : Option Marker} (h : statement.marker? v contents = .ok found)
    (other : Option String) : statement.marker? v other = .ok found := by
  unfold marker? at h ⊢
  cases hcall : statement.namedCall? with
  | none => simpa only [hcall] using h
  | some call =>
    obtain ⟨name, positional, named⟩ := call
    simp only [hcall] at h ⊢
    -- the branches that quote the statement are those that fail
    split at h
    · rename_i hunknown
      rw [if_pos hunknown]
      exact h
    rename_i hknown
    rw [if_neg hknown]
    split at h
    · split at h <;> cases h
    rename_i hone
    rw [if_neg hone]
    cases hpayload : payload positional named with
    | error what => simp [hpayload] at h
    | ok text =>
      simp only [hpayload] at h ⊢
      cases hkind : v.strictness? name with
      | some strictness => simpa only [hkind] using h
      | none =>
        simp only [hkind] at h ⊢
        cases text with
        | some label => exact h
        | none =>
          split at h
          · rename_i hdirective
            rw [if_pos hdirective]
            exact h
          · cases h

end Statement

/-! ## A file with every kind of marker -/

namespace Sample

/-- A part declaration, code, an assertion with a text, one to be filled in, and a directive. -/
def text : String := "part(\"p\")\nx = 1\nexpect(\"1\")\nexpect()\norg(\"t\")"

/-- The code in the file. -/
def assignment : Phrase := .single (.plain 2 (.ofLength 10 5))

/-- The directive in the file. -/
def directive : Phrase := .single (.calling "org" ["t"] 5 (.ofLength 37 8))

/-- The phrases of the file, each of them one line. -/
def phrases : List Phrase :=
  [.single (.calling "part" ["p"] 1 (.ofLength 0 9)),
    assignment,
    .single (.calling "expect" ["1"] 3 (.ofLength 16 11)),
    .single (.calling "expect" [] 4 (.ofLength 28 8)),
    directive]

end Sample

end ExpectFile
