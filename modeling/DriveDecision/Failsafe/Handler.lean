import DriveDecision.Failsafe.Call
import DriveDecision.Failsafe.Decision
import DriveDecision.Failsafe.Store
import DriveDecision.Failsafe.Throttle

/-!
# Failsafe/Handler — the tick of the fault handler

A tick reads the store, takes one step of the maneuver, and calls the modules: the calls left open
that still agree with the recorded maneuver, and the ones of this step.  What is published does not
wait for the answers; a call without one is made again by the next tick.

A tick that misses an input changes nothing but when it last complained.
-/

namespace DriveDecision

/-- What the handler remembers. -/
structure Handler where
  state : ManeuverState
  pending : List Call := []
  throttle : Throttle := {}
  deriving DecidableEq, Repr, Inhabited

/-- What a tick publishes. -/
structure HandlerOutput where
  hazardLights : HazardLights
  gear : Gear
  state : ManeuverState
  deriving DecidableEq, Repr

/-- The outcome of a tick. -/
structure TickResult where
  handler : Handler
  output : Option HandlerOutput
  /-- The calls made, each with its answer. -/
  issued : List (Call × Answer)
  responder : Responder
  entries : List (LogEntry Float)

/-! ## Is there enough to decide on? -/

/-- **The report to act on, or what is missing.** -/
def Store.ready (store : Store) (settings : FailsafeSettings) : Except Notice StampedReport :=
  match store.hazard with
  | none => .error .awaitingReport
  | some report =>
    if settings.useComfortableStop && !store.comfortableStopStatus.isAvailable then
      .error .awaitingComfortableStop
    else if !store.emergencyStopStatus.isAvailable then .error .awaitingEmergencyStop
    else .ok report

/-- What a step decides on, given the report to act on. -/
def Store.input (store : Store) (settings : FailsafeSettings) (report : StampedReport)
    (now : Duration) : FailsafeInput where
  hazard := report.report
  isStale := report.isStale now settings.staleAfter
  mode := store.modeOrDefault
  speed := store.speedOrZero

/-! ## What is written -/

/-- The entry of a notice; a stale report comes with its age. -/
def Notice.entry (notice : Notice) (age timeout : Duration) : LogEntry Float :=
  match notice with
  | .awaitingReport => ⟨.info, "waiting for hazard status", []⟩
  | .awaitingComfortableStop =>
    ⟨.info, "waiting for comfortable stop to become available", []⟩
  | .awaitingEmergencyStop => ⟨.info, "waiting for emergency stop to become available", []⟩
  | .staleReport =>
    ⟨.warn, "hazard status timed out, treating as single point fault",
      [("age", .text age.text), ("timeout", .text timeout.text)]⟩

/-- The entry of a call and its answer. -/
def Call.entry (call : Call) (answer : Answer) (wait : Duration) : LogEntry Float :=
  let who := call.maneuver.text
  match answer.error? call.maneuver wait with
  | some e =>
    ⟨.error, s!"{call.verb} request to {who} unanswered, retrying next tick",
      [("err", .text e.message)]⟩
  | none =>
    if answer = .granted then
      ⟨.warn, if call.operate then s!"{who} is operated" else s!"{who} is canceled", []⟩
    else ⟨.error, s!"{who} failed to {call.verb}", []⟩

/-! ## The calls of a tick -/

/-- The calls of a change. -/
def ManeuverChange.calls (change : ManeuverChange) : List Call :=
  change.cancel.toList.map (⟨·, false⟩) ++ change.activate.toList.map (⟨·, true⟩)

/-- **The calls to make**: the open ones that are still wanted and those of the change, each once,
and all cancellations before any activation. -/
def callsFor (pending : List Call) (change : Option ManeuverChange) (recorded : Maneuver) :
    List Call :=
  let wanted := pending.filter (·.isWanted recorded)
  let calls := (wanted ++ change.toList.flatMap (·.calls)).eraseDups
  calls.filter (!·.operate) ++ calls.filter (·.operate)

namespace Handler

/-- A handler that starts at `now`. -/
def starting (now : Duration) : Handler := { state := .idle now }

/-- A tick that misses an input. -/
def skip (handler : Handler) (notice : Notice) (now : Duration) (responder : Responder) :
    TickResult :=
  let isDue := handler.throttle.isDue notice now
  { handler :=
      { handler with
        throttle := if isDue then handler.throttle.mark notice now else handler.throttle }
    output := none
    issued := []
    responder := responder
    entries := if isDue then [notice.entry .zero .zero] else [] }

/-- A tick with everything it needs. -/
def act (handler : Handler) (settings : FailsafeSettings) (input : FailsafeInput) (age : Duration)
    (now : Duration) (responder : Responder) : TickResult :=
  let isDue := input.isStale && handler.throttle.isDue .staleReport now
  let step := input.step settings handler.state now
  let state := { step.state with stamp := now }
  let calls := callsFor handler.pending step.change state.maneuver
  let (issued, responder) := responder.answer calls
  { handler :=
      { state := state
        pending := (issued.filter (·.2.isOpen)).map (·.1)
        throttle := if isDue then handler.throttle.mark .staleReport now else handler.throttle }
    output := some ⟨step.hazardLights, step.gear, state⟩
    issued := issued
    responder := responder
    entries :=
      (if isDue then [Notice.staleReport.entry age settings.staleAfter] else [])
        ++ step.entries
        ++ issued.map fun (call, answer) => call.entry answer settings.serviceWait }

/-- **One tick.** -/
def tick (handler : Handler) (settings : FailsafeSettings) (store : Store) (now : Duration)
    (responder : Responder) : TickResult :=
  match store.ready settings with
  | .error notice => handler.skip notice now responder
  | .ok report =>
    handler.act settings (store.input settings report now) (now.since report.stamp) now responder

end Handler

end DriveDecision
