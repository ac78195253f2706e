/-!
# Extents

An extent is a half-open range of offsets into a text. Offsets count characters. That an extent is
not inverted is part of the type, so whoever computes one from numbers of unknown origin has to go
through `Extent.ofBounds?`.
-/

namespace ExpectFile

/-- The characters from `start` up to, and without, `stop`. -/
structure Extent where
  start : Nat
  stop : Nat
  start_le_stop : start ≤ stop := by omega
deriving DecidableEq

namespace Extent

/-- The extent of no characters at an offset. -/
def empty (offset : Nat) : Extent := ⟨offset, offset, Nat.le_refl offset⟩

/-- Whether the extent holds no character. -/
def isEmpty (e : Extent) : Bool := e.start == e.stop

/-- The extent between two numbers, unless one is negative or they are in the wrong order. -/
def ofBounds? (start stop : Int) : Option Extent :=
  if h : 0 ≤ start ∧ start ≤ stop then some ⟨start.toNat, stop.toNat, by omega⟩ else none

/-- The text of an extent; what lies behind the end of the text is not there. -/
def cut (e : Extent) (text : List Char) : List Char :=
  (text.drop e.start).take (e.stop - e.start)

/-- The text of an extent that lies in the text. -/
def slice? (e : Extent) (text : String) : Option String :=
  if e.stop ≤ text.length then some (String.ofList (e.cut text.toList)) else none

theorem ext_bounds {a b : Extent} (hstart : a.start = b.start) (hstop : a.stop = b.stop) :
    a = b := by
  cases a; cases b; simp_all

theorem ofBounds?_eq_none_iff {start stop : Int} :
    ofBounds? start stop = none ↔ start < 0 ∨ stop < start := by
  unfold ofBounds?
  split <;> simp <;> omega

theorem ofBounds?_natCast (e : Extent) : ofBounds? e.start e.stop = some e := by
  have := e.start_le_stop
  unfold ofBounds?
  rw [dif_pos (by omega)]
  exact congrArg some (ext_bounds (by simp) (by simp))

end Extent

end ExpectFile
