import DriveDecision.Host.Interface

/-!
# Host/Session — one call of the interface after another

A host makes a new handler and then calls the interface, one function at a time; what a call leaves
of the handler is what the next one finds.  A session tells what comes back from every call.
-/

namespace DriveDecision.Host

/-- A call of the interface. -/
inductive Request where
  | setTime (nanos : UInt64)
  | setHazard (level emergency holding : UInt8)
  | setSpeed (speed : Float)
  | setMode (code : UInt8)
  | setStatus (maneuver status : UInt8)
  | restore (given : State)
  /-- A tick, with what stands where the host wants the commands, if it wants them. -/
  | tick (wanted : Option Output)
  | state
  deriving Repr

/-- What comes back from a call. -/
inductive Reply where
  | returned (number : Int)
  /-- With what now stands where the host wants the commands, and the calls its callback saw. -/
  | ticked (number : Int) (found : Option Output) (seen : List (UInt8 × UInt8))
  | told (state : State)
  /-- Nothing: the process has ended. -/
  | aborted
  deriving DecidableEq, Repr

/-- The number returned, if a number is. -/
def Reply.number? : Reply → Option Int
  | returned number | ticked number _ _ => some number
  | told _ | aborted => none

/-- The reply of a function that returns how it went. -/
def Reply.ofResult (result : Status × Option System) : Reply × Option System :=
  (.returned result.1.number, result.2)

/-- **One call**, of a host that may hold a handler. -/
def Request.perform (held : Option System) : Request → Reply × Option System
  | .setTime nanos => Reply.ofResult (Host.setTime nanos held)
  | .setHazard level emergency holding =>
    Reply.ofResult (Host.setHazard level emergency holding held)
  | .setSpeed speed => Reply.ofResult (Host.setSpeed speed held)
  | .setMode code => Reply.ofResult (Host.setMode code held)
  | .setStatus maneuver status => Reply.ofResult (Host.setStatus maneuver status held)
  | .restore given =>
    match Host.restore given held with
    | (.returned status, next) => (.returned status.number, next)
    | (.aborted, next) => (.aborted, next)
  | .tick wanted =>
    let (status, next, reaction) := Host.tick held
    (.ticked status.number (found wanted reaction) (callsSeen reaction), next)
  | .state => (.told (Host.state held), held)

/-- A call that has been made. -/
structure Interaction where
  request : Request
  reply : Reply
  /-- The handler the host holds afterwards. -/
  after : Option System

def Request.interaction (held : Option System) (request : Request) : Interaction :=
  ⟨request, (request.perform held).1, (request.perform held).2⟩

/-- **A session**, to its last call or until the process ends. -/
def session (held : Option System) : List Request → List Interaction
  | [] => []
  | request :: requests =>
    let made := request.interaction held
    match made.reply with
    | .aborted => [made]
    | .returned _ | .ticked .. | .told _ => made :: session made.after requests

end DriveDecision.Host
