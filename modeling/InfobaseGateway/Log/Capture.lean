import InfobaseGateway.Log

/-!
# Capturing events

A capture keeps the events that it sees, so that they can be looked up by their message.
-/

namespace InfobaseGateway

/-- The events seen so far, in order. -/
structure Capture where
  events : List Event

namespace Capture

def empty : Capture :=
  ⟨[]⟩

def record (capture : Capture) (event : Event) : Capture :=
  ⟨capture.events ++ [event]⟩

def clear (_ : Capture) : Capture :=
  empty

/-- The events with exactly the given message, in order. -/
def withMessage (capture : Capture) (message : String) : List Event :=
  capture.events.filter fun event => event.message = message

end Capture

end InfobaseGateway
