import ViewCode.Markup.Attributes
import ViewCode.Notice

/-!
# Events and their sinks

A document is reported as a stream of events. A sink takes them one at a time, keeps a state of its
own, and may refuse an event, which ends the stream; its state is then the one it had reached.
Between the events there are notices on the markup, which no sink is sent.
-/

namespace ViewCode.Markup

/-- One step of a walk through a document, in document order. -/
inductive Event where
  /-- An element is entered. -/
  | enter (name : String) (attributes : Attributes)
  /-- Text is met inside the innermost element, or at the top level. -/
  | text (content : String)
  /-- The innermost element is left. -/
  | leave
  deriving DecidableEq, Repr

/-- What is reported of markup. -/
inductive Signal where
  /-- An event of the document. -/
  | event (e : Event)
  /-- A notice on the markup. -/
  | notice (n : Notice)
  deriving DecidableEq, Repr

/-- A receiver of events with states `σ` and refusals `ε`. -/
abbrev Sink (ε σ : Type) := Event → EStateM ε σ Unit

namespace Sink

/-- The handler that sends events to the sink and drops notices. -/
def handler {ε σ : Type} (sink : Sink ε σ) : Signal → EStateM ε σ Unit
  | .event e => sink e
  | .notice _ => pure ()

/-- Sends events to the sink, up to the first one that it refuses. -/
def sendAll {ε σ : Type} (sink : Sink ε σ) (events : List Event) : EStateM ε σ Unit :=
  events.forM sink

/-- The sink that keeps every event. -/
def keepAll {ε : Type} : Sink ε (Array Event) :=
  fun event => modify (·.push event)

/-- What a sink with room for a limited number of events has seen. -/
structure Limited where
  /-- The events it kept. -/
  kept : Array Event := #[]
  /-- How often it was called. -/
  calls : Nat := 0
  deriving DecidableEq, Repr

/-- The refusal of a sink. -/
inductive Refusal where
  /-- There is no room for the event. -/
  | full
  deriving DecidableEq, Repr

/-- The sink that keeps events up to the limit and refuses the next one. -/
def keepFirst (limit : Nat) : Sink Refusal Limited := fun event seen =>
  if seen.kept.size < limit then .ok () ⟨seen.kept.push event, seen.calls + 1⟩
  else .error .full { seen with calls := seen.calls + 1 }

end Sink

end ViewCode.Markup
