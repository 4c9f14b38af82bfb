import DriveDecision.Failsafe.Handler
import DriveDecision.Time.Clock
import DriveDecision.Wire.Inbound

/-!
# Failsafe/System — the handler among its clock, its store and its modules

A run is a list of events: producers write, the clock moves, the handler ticks.  `System.step` takes
one event and tells what became visible.
-/

namespace DriveDecision

/-- A handler at work. -/
structure System where
  settings : FailsafeSettings
  clock : Clock
  store : Store
  handler : Handler
  responder : Responder

/-- What can happen. -/
inductive Event where
  | write (reading : Reading)
  | advance (dt : Duration)
  | setTime (t : Duration)
  | tick

/-- What becomes visible of an event. -/
structure Reaction where
  output : Option HandlerOutput := none
  issued : List (Call × Answer) := []
  entries : List (LogEntry Float) := []

/-- What of the handler is kept over a restart. -/
structure HandlerSnapshot where
  state : ManeuverState
  pending : List Call
  deriving DecidableEq, Repr

namespace System

/-- A system that starts at a time, with nothing reported yet. -/
def starting (settings : FailsafeSettings) (start : Duration) (responder : Responder) : System :=
  let clock := Clock.showing start
  { settings := settings
    clock := clock
    store := {}
    handler := .starting clock.now
    responder := responder }

def now (system : System) : Duration := system.clock.now

def write (system : System) (reading : Reading) : System :=
  { system with store := system.store.record system.now reading }

/-- The next tick, before it is taken over. -/
def tickResult (system : System) : TickResult :=
  system.handler.tick system.settings system.store system.now system.responder

def tick (system : System) : System × Reaction :=
  let result := system.tickResult
  ({ system with handler := result.handler, responder := result.responder },
    ⟨result.output, result.issued, result.entries⟩)

/-- **One event.** -/
def step (system : System) : Event → System × Reaction
  | .write reading => (system.write reading, {})
  | .advance dt => ({ system with clock := system.clock.advance dt }, {})
  | .setTime t => ({ system with clock := .showing t }, {})
  | .tick => system.tick

/-- A run: what becomes visible of each event, and where the system ends up. -/
def run (system : System) : List Event → System × List Reaction
  | [] => (system, [])
  | event :: events =>
    let (next, reaction) := system.step event
    let (last, reactions) := run next events
    (last, reaction :: reactions)

theorem run_append (system : System) (first second : List Event) :
    system.run (first ++ second)
      = (((system.run first).1.run second).1,
        (system.run first).2 ++ ((system.run first).1.run second).2) := by
  induction first generalizing system with
  | nil => rfl
  | cons event events ih => simp [run, ih]

/-! ## Restarts -/

def snapshot (system : System) : HandlerSnapshot := ⟨system.handler.state, system.handler.pending⟩

/-- Take over the state and the open calls of a snapshot. -/
def restore (system : System) (snap : HandlerSnapshot) : System :=
  { system with handler := { system.handler with state := snap.state, pending := snap.pending } }

/-! ## Ticking on its own

Left to itself the handler ticks until it is told to stop.  As long as nothing else moves, a tick
that is skipped is skipped for ever, so what it publishes is what its first ticks publish. -/

/-- **The first `count` outputs** of a system that only ticks, and the calls made for them. -/
def publish (system : System) : Nat → List HandlerOutput × List (Call × Answer)
  | 0 => ([], [])
  | count + 1 =>
    let (next, reaction) := system.tick
    match reaction.output with
    | none => ([], [])
    | some out =>
      let (outs, issued) := publish next count
      (out :: outs, reaction.issued ++ issued)

end System

end DriveDecision
