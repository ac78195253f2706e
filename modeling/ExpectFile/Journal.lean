import ExpectFile.Fault
import ExpectFile.Span

/-!
# Journals

What happens on the way to a result and is worth a note, be the result a success or a fault. A
computation that keeps a journal (`Noted`) gives both: the events in their order and the outcome.
-/

namespace ExpectFile

open Text

/-- How much an event matters. -/
inductive Level where
  | debug
  | info
  | warning
deriving DecidableEq

/-- The word for a level. -/
def Level.word : Level → String
  | .debug => "DEBUG"
  | .info => "INFO"
  | .warning => "WARNING"

/-- Something worth a note. -/
inductive Event where
  /-- A vocabulary has names that stand for assertions and for directives. -/
  | ambiguousNames (names : List String)
  /-- A text was tiled with spans. -/
  | tiled (counts : Span.TilingCounts)
  /-- A text was partitioned. -/
  | partitioned (length blocks : Nat)
  /-- A source was split into chunks, with code left at its end or without. -/
  | divided (sourceName : String) (chunks : Nat) (trailing : Bool)
  /-- A source is not what its blocks print as. -/
  | drifted (sourceName : String)
deriving DecidableEq

namespace Event

/-- The level of an event. -/
def level : Event → Level
  | ambiguousNames _ => .warning
  | drifted _ => .info
  | tiled _ | partitioned _ _ | divided _ _ _ => .debug

/-- The wording of an event, as characters. -/
def words : Event → List Char
  | ambiguousNames names =>
    "Marker names registered as both assertion and directive: ".toList
      ++ joined [',', ' '] (names.map String.toList)
  | tiled counts =>
    "Span queue: ".toList ++ decimal counts.recorded ++ " recorded, ".toList
      ++ decimal counts.covered ++ " after gap fill, ".toList ++ decimal counts.joined
      ++ " after merge".toList
  | partitioned length blocks =>
    "Reconstructed ".toList ++ decimal length ++ " characters into ".toList ++ decimal blocks
      ++ " blocks".toList
  | divided sourceName chunks trailing =>
    "Split ".toList ++ sourceName.toList ++ " into ".toList ++ decimal chunks
      ++ (if trailing then " chunks (with leftover code)" else " chunks (no leftover)").toList
  | drifted sourceName =>
    "Round trip of ".toList ++ sourceName.toList ++ " differs from the source".toList

/-- The wording of an event. -/
def text (event : Event) : String := String.ofList event.words

end Event

/-- The outcome of a computation, and the events on the way to it. -/
structure Noted (α : Type) where
  events : List Event
  outcome : Except Fault α

namespace Noted

/-- An outcome without events. -/
def ofExcept {α : Type} (outcome : Except Fault α) : Noted α := ⟨[], outcome⟩

/-- An event and nothing else. -/
def event (e : Event) : Noted Unit := ⟨[e], .ok ()⟩

/-- One computation after another; a fault in the first is the outcome of both. -/
def andThen {α β : Type} (first : Noted α) (next : α → Noted β) : Noted β :=
  match first.outcome with
  | .ok value =>
    let second := next value
    ⟨first.events ++ second.events, second.outcome⟩
  | .error fault => ⟨first.events, .error fault⟩

instance : Monad Noted where
  pure value := ⟨[], .ok value⟩
  bind := andThen

instance : MonadLift (Except Fault) Noted where
  monadLift := ofExcept

end Noted

end ExpectFile
