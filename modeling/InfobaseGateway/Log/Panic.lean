import InfobaseGateway.Log

/-!
# Panics in the log

A hook that is installed once logs every panic and then runs the hook that was there before it.
-/

namespace InfobaseGateway

/-- What a panic carries: a text, or something that is not shown. -/
inductive PanicPayload
  | text (message : String)
  | other
  deriving DecidableEq

/-- A panic, and where in the program it arose. -/
structure Panic where
  payload : PanicPayload
  location : String
  deriving DecidableEq

/-- The record of a panic. -/
def Panic.event (panic : Panic) : Event :=
  let message :=
    match panic.payload with
    | .text message => some message
    | .other => none
  ⟨.error, "A panic occurred",
    optionalField "panic.payload" message ++ [("panic.location", panic.location)]⟩

/-- What runs when a panic arises. -/
inductive PanicHook
  /-- The hook of the process itself. -/
  | base
  /-- Logs the panic and runs the hook before it. -/
  | logging (previous : PanicHook)

namespace PanicHook

/-- The hook of a process in which the logging one was installed a number of times. -/
def installed : (times : Nat) → PanicHook
  | 0 => base
  | times + 1 => logging (installed times)

/-- The records that a panic leaves. -/
def events (panic : Panic) : PanicHook → List Event
  | base => []
  | logging previous => panic.event :: previous.events panic

/-- How often the hook of the process itself runs for a panic. -/
def baseRuns : PanicHook → Nat
  | base => 1
  | logging previous => previous.baseRuns

end PanicHook

end InfobaseGateway
