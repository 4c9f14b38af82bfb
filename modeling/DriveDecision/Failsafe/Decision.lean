import DriveDecision.Failsafe.Hazard
import DriveDecision.Failsafe.Maneuver
import DriveDecision.Failsafe.Settings
import DriveDecision.Log
import DriveDecision.Signal.Command

/-!
# Failsafe/Decision — one step of the maneuver

    normal ──emergency while autonomous──▸ operating ──stopped──▸ succeeded
       ◂──────────────────── no emergency ────────────────────┘

First the phase moves, then the maneuver follows it: while operating it only ever escalates, and
back in normal there is none.  The step names the maneuvers to cancel and to activate; who calls
their modules is not its business.
-/

namespace DriveDecision

/-- What a step decides on. -/
structure FailsafeInput where
  hazard : HazardReport
  /-- No report within the timeout. -/
  isStale : Bool
  mode : ControlMode
  speed : Float
  deriving Repr

/-- A command to the gear. -/
inductive Gear where
  | drive
  | park
  deriving DecidableEq, Repr, Inhabited

def Gear.name : Gear → String
  | .drive => "Drive"
  | .park => "Park"

namespace FailsafeInput

/-- Below this speed in meters a second ego counts as stopped, and in reverse always. -/
def stoppedBelow : Float := 0.001

def isStopped (i : FailsafeInput) : Bool := i.speed < stoppedBelow

def isEmergency (i : FailsafeInput) : Bool := i.hazard.emergency || i.hazard.holding || i.isStale

def isAutonomous (i : FailsafeInput) : Bool := i.mode == .autonomous

/-- The level to act on: silence is the worst fault. -/
def level (i : FailsafeInput) : FaultLevel :=
  if i.isStale then .singlePointFault else i.hazard.level

/-- Hazard lights: always for a latched emergency, for any other if so set. -/
def hazardLights (i : FailsafeInput) (s : FailsafeSettings) : HazardLights :=
  if i.hazard.holding || (i.isEmergency && s.hazardLightsOnEmergency) then .enable else .noCommand

def gear (i : FailsafeInput) (s : FailsafeSettings) : Gear :=
  if s.parkAfterStop && i.isStopped then .park else .drive

end FailsafeInput

/-- **The next phase**, or none to stay.  A finished maneuver ends only with the emergency. -/
def Phase.next? (phase : Phase) (isAutonomous isEmergency isStopped : Bool) : Option Phase :=
  match phase with
  | .normal => if isAutonomous && isEmergency then some .operating else none
  | .operating =>
    if !isEmergency then some .normal else if isStopped then some .succeeded else none
  | .succeeded | .failed => if !isEmergency then some .normal else none

/-- **The maneuver for a fault level**, given the one that is running: it only escalates. -/
def Maneuver.escalate (running : Maneuver) (level : FaultLevel) (useComfortableStop : Bool) :
    Maneuver :=
  match running, level with
  | .none, .latentFault => if useComfortableStop then .comfortableStop else .emergencyStop
  | .none, .singlePointFault => .emergencyStop
  | .comfortableStop, .singlePointFault => .emergencyStop
  | running, _ => running

/-- The maneuvers to stop and to start. -/
structure ManeuverChange where
  cancel : Option Maneuver
  activate : Option Maneuver
  deriving DecidableEq, Repr

/-- A maneuver, unless it is none. -/
def Maneuver.some? (m : Maneuver) : Option Maneuver := if m = .none then .none else some m

/-- What to stop and to start to get from one maneuver to another. -/
def ManeuverChange.between (old new : Maneuver) : Option ManeuverChange :=
  if old = new then none else some ⟨old.some?, new.some?⟩

/-- What a step asks of the vehicle and the modules. -/
structure FailsafeStep where
  state : ManeuverState
  hazardLights : HazardLights
  gear : Gear
  change : Option ManeuverChange
  /-- The phase entered, and from which. -/
  transition : Option (Phase × Phase)
  deriving DecidableEq, Repr

/-- The entry a step writes. -/
def FailsafeStep.entries (step : FailsafeStep) : List (LogEntry Float) :=
  step.transition.toList.map fun (old, new) =>
    ⟨.debug, s!"MRM state changed: {old.text} -> {new.text}", []⟩

/-- **One step**: the phase, then the maneuver, then the vehicle's commands. -/
def FailsafeInput.step (input : FailsafeInput) (settings : FailsafeSettings)
    (state : ManeuverState) (now : Duration) : FailsafeStep :=
  let next := state.phase.next? input.isAutonomous input.isEmergency input.isStopped
  let phase := next.getD state.phase
  let maneuver :=
    match phase with
    | .normal => .none
    | .operating => state.maneuver.escalate input.level settings.useComfortableStop
    | .succeeded | .failed => state.maneuver
  { state := ⟨phase, maneuver, if next.isSome then now else state.stamp⟩
    hazardLights := input.hazardLights settings
    gear := input.gear settings
    change := ManeuverChange.between state.maneuver maneuver
    transition := next.map fun new => (state.phase, new) }

end DriveDecision
