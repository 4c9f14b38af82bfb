import DriveDecision.Failsafe.System
import DriveDecision.Number.Double
import DriveDecision.Signal.Shift
import DriveDecision.Wire.Outbound

/-!
# Host/Interface — the fault handler in plain numbers

A host that shares no types with the library drives it through functions on numbers: flags and codes
are bytes, times are nanoseconds, and each function returns a number that says how it went.  A host
may hold no handler; every function says so and does nothing else.
-/

namespace DriveDecision.Host

/-- The version of the interface. -/
def version : Nat := 1

/-- How a call of the interface went. -/
inductive Status where
  | done
  /-- A tick with an output. -/
  | published
  | noHandler
  | badCode
  | badManeuver
  deriving DecidableEq, Repr

/-- The number returned to the host. -/
def Status.number : Status → Int
  | done => 0
  | published => 1
  | noHandler => -1
  | badCode => -2
  | badManeuver => -3

/-! ## Settings -/

/-- Settings in plain numbers: a flag is set unless zero. -/
structure Settings where
  updateRate : UInt32
  hazardTimeout : Float
  parkAfterStop : UInt8
  useComfortableStop : UInt8
  hazardLightsOnEmergency : UInt8
  serviceTimeout : Float
  deriving Repr

def flag (b : Bool) : UInt8 := if b then 1 else 0

/-- The settings in use unless the host says otherwise. -/
def Settings.standard : Settings :=
  let s := FailsafeSettings.standard
  ⟨s.updateRate, s.hazardTimeout, flag s.parkAfterStop, flag s.useComfortableStop,
    flag s.hazardLightsOnEmergency, s.serviceTimeout⟩

/-- Whether a number of seconds can be waited. -/
def isWaitable (seconds : Float) : Bool := seconds.isFinite && 0 ≤ seconds

/-- A number of seconds, or the default for one that cannot be waited. -/
def waitable (seconds default : Float) : Float := if isWaitable seconds then seconds else default

/-- The settings a host means. -/
def Settings.resolve (s : Settings) : FailsafeSettings :=
  let standard := FailsafeSettings.standard
  { updateRate := if s.updateRate = 0 then 1 else s.updateRate
    hazardTimeout := waitable s.hazardTimeout standard.hazardTimeout
    parkAfterStop := s.parkAfterStop != 0
    useComfortableStop := s.useComfortableStop != 0
    hazardLightsOnEmergency := s.hazardLightsOnEmergency != 0
    serviceTimeout := waitable s.serviceTimeout standard.serviceTimeout }

/-- The entry for a number of seconds that is replaced. -/
def replaced (key : String) (seconds default : Float) : List (LogEntry Float) :=
  if isWaitable seconds then []
  else [⟨.warn, "invalid timeout in cfg, using default",
    [("key", .text key), ("secs", .number seconds), ("default", .number default)]⟩]

/-- The entries for the settings that are replaced. -/
def Settings.entries (s : Settings) : List (LogEntry Float) :=
  let standard := FailsafeSettings.standard
  replaced "timeout_hazard_status" s.hazardTimeout standard.hazardTimeout
    ++ replaced "service_timeout" s.serviceTimeout standard.serviceTimeout

/-! ## The handler -/

/-- What the number returned by the host's callback means. -/
def answerOf (returned : Int) : Answer :=
  if returned = 1 then .granted else if returned = 0 then .refused else .silent

/-- A host that answers with the listed numbers and then with success; without a callback nobody
answers. -/
def responder (hasCallback : Bool) (returned : List Int) : Responder :=
  if hasCallback then ⟨returned.map answerOf, .granted⟩ else ⟨[], .disconnected⟩

/-- A handler for a host, started at a time. -/
def create (settings : Settings) (startNanos : UInt64) (responder : Responder) : System :=
  .starting settings.resolve (.ofWord startNanos) responder

/-- The calls of a tick as the host's callback sees them: the code of the maneuver and a flag.  A
call that found nobody there reached no callback. -/
def callsSeen (reaction : Reaction) : List (UInt8 × UInt8) :=
  (reaction.issued.filter (·.2 != .disconnected)).map fun (call, _) =>
    (WireCode.code call.maneuver, flag call.operate)

/-- A maneuver state for the host. -/
structure State where
  phase : UInt8 := 0
  maneuver : UInt8 := 0
  stampNanos : UInt64 := 0
  deriving DecidableEq, Repr, Inhabited

def State.ofMessage (m : StateMessage) : State := ⟨m.phase, m.maneuver, m.stampNanos⟩

def State.toMessage (s : State) : StateMessage := ⟨s.stampNanos, s.phase, s.maneuver⟩

/-- The commands of a tick for the host. -/
structure Output where
  hazardLights : UInt8 := 0
  gear : UInt8 := 0
  state : State := {}
  deriving DecidableEq, Repr, Inhabited

def Output.ofOutput (out : HandlerOutput) : Output :=
  let m := out.messages
  ⟨m.hazardLights, m.gear, .ofMessage m.state⟩

/-! ## The functions

Each takes the handler the host holds, if any, and leaves it as it is unless it succeeds. -/

def setTime (nanos : UInt64) : Option System → Status × Option System
  | none => (.noHandler, none)
  | some system => (.done, some (system.step (.setTime (.ofWord nanos))).1)

/-- Write the value a code stands for. -/
def writeCode {τ : Type} [WireCode τ] (code : UInt8) (reading : τ → Reading) :
    Option System → Status × Option System
  | none => (.noHandler, none)
  | some system =>
    match (WireCode.ofCode code : Except DecodeError τ) with
    | .error _ => (.badCode, some system)
    | .ok value => (.done, some (system.write (reading value)))

def setHazard (level emergency holding : UInt8) : Option System → Status × Option System :=
  writeCode level fun level => .hazard ⟨level, emergency != 0, holding != 0⟩

def setSpeed (speed : Float) : Option System → Status × Option System
  | none => (.noHandler, none)
  | some system => (.done, some (system.write (.speed speed)))

def setMode (code : UInt8) : Option System → Status × Option System := writeCode code .mode

/-- The status of the module of a maneuver; a bad status is noticed before a bad maneuver. -/
def setStatus (maneuver status : UInt8) : Option System → Status × Option System
  | none => (.noHandler, none)
  | some system =>
    match (WireCode.ofCode status : Except DecodeError ModuleStatus),
      (WireCode.ofCode maneuver : Except DecodeError Maneuver) with
    | .error _, _ => (.badCode, some system)
    | .ok status, .ok .comfortableStop => (.done, some (system.write (.comfortableStop status)))
    | .ok status, .ok .emergencyStop => (.done, some (system.write (.emergencyStop status)))
    | .ok _, _ => (.badManeuver, some system)

/-- **A tick**, with what it publishes and the calls it makes. -/
def tick : Option System → Status × Option System × Reaction
  | none => (.noHandler, none, {})
  | some system =>
    let (next, reaction) := system.tick
    (if reaction.output.isSome then .published else .done, some next, reaction)

/-- What stands where the host wants the commands after a tick: those, or what stood there before.
A host may not want them. -/
def found (wanted : Option Output) (reaction : Reaction) : Option Output :=
  wanted.map fun before => (reaction.output.map Output.ofOutput).getD before

def state : Option System → State
  | none => {}
  | some system => .ofMessage (.ofState system.handler.state)

/-- How taking over a state ends. -/
inductive Restored where
  | returned (status : Status)
  /-- The state makes no sense, which the host has promised never to happen: the process ends. -/
  | aborted
  deriving DecidableEq, Repr

/-- **Take over a state**, with no open calls. -/
def restore (s : State) : Option System → Restored × Option System
  | none => (.returned .noHandler, none)
  | some system =>
    match s.toMessage.toState with
    | .error _ => (.aborted, some system)
    | .ok state => (.returned .done, some (system.restore ⟨state, []⟩))

/-! ## Shifts -/

def kindNumber : ShiftKind → UInt8
  | .none => 0
  | .avoid => 1
  | .rejoin => 2
  | .leftMiddle => 3
  | .rightMiddle => 4

def kindOf? : UInt8 → Option ShiftKind
  | 0 => some .none
  | 1 => some .avoid
  | 2 => some .rejoin
  | 3 => some .leftMiddle
  | 4 => some .rightMiddle
  | _ => none

theorem kindOf?_kindNumber (kind : ShiftKind) : kindOf? (kindNumber kind) = some kind := by
  cases kind <;> rfl

def classify (start stop threshold : Float) : UInt8 := kindNumber (.of start stop threshold)

/-- One if there is a lane on the side of the shift, zero if not, minus one for an unknown kind. -/
def hasSideLane (kind : UInt8) (relative : Float) (hasLeft hasRight : UInt8) : Int :=
  match kindOf? kind with
  | none => -1
  | some kind => if kind.hasSideLane relative (hasLeft != 0) (hasRight != 0) then 1 else 0

end DriveDecision.Host
