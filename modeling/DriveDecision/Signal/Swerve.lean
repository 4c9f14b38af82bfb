import DriveDecision.Log
import DriveDecision.Signal.Settings
import DriveDecision.Signal.Shift

/-!
# Signal/Swerve — the candidate of a planned shift

A planned shift either asks for a blinker or gives a reason not to.  The verdict keeps the reason;
the candidate handed on, whether callers should drop a signal they carried over, and the log entry
are read off it.
-/

namespace DriveDecision

variable {α : Type} [Scalar α]

/-- What a shift is judged by. -/
structure ShiftRequest (α : Type) where
  /-- The path with the shift applied. -/
  path : Path α
  shift : Shift α
  /-- The lanes ego drives on before the shift. -/
  lanes : List LaneId
  pose : Pose α
  speed : α
  /-- Ego's lateral offset now. -/
  currentLength : α
  isForward : Bool := true
  /-- The shift is measured from ego's own lane, not from the lane it leads to. -/
  ownLaneShifted : Bool := true
  /-- Judge a return as if ego were moving. -/
  overrideStopped : Bool := false
  deriving Repr

/-- **What becomes of a shift.** -/
inductive SwerveVerdict (α : Type) where
  /-- Ego drives backward: the hazard lights are used instead. -/
  | reversing (candidate : Candidate α)
  | outOfPath (startIndex endIndex pathLength : Nat)
  /-- Too little to count. -/
  | negligible
  | unsignalled (startLength endLength : α)
  /-- Ego has all but arrived at the target offset. -/
  | finished
  /-- The shift is too far ahead. -/
  | early
  | noRouteLane
  | noSideLane (kind : ShiftKind) (relative : α) (hasLeft hasRight : Bool)
  | straddles (kind : ShiftKind)
  | signalled (candidate : Candidate α)
  deriving Repr

/-- What callers get: a candidate, and whether to drop a signal carried over from another shift. -/
structure BehaviorSignal (α : Type) where
  candidate : Candidate α
  isIgnored : Bool
  deriving Repr

namespace SwerveVerdict

def signal : SwerveVerdict α → BehaviorSignal α
  | reversing c | signalled c => ⟨c, false⟩
  | outOfPath .. | early => ⟨.none, false⟩
  | negligible | unsignalled .. | finished | noRouteLane | noSideLane .. | straddles .. =>
    ⟨.none, true⟩

omit [Scalar α] in
/-- The entry a verdict writes, if any. -/
def entry? : SwerveVerdict α → Option (LogEntry α)
  | outOfPath startIndex endIndex pathLength =>
    some ⟨.warn, "shift line index out of path range",
      [("start_idx", .count startIndex), ("end_idx", .count endIndex),
        ("path_len", .count pathLength)]⟩
  | unsignalled startLength endLength =>
    some ⟨.debug, "shift is not a signalled maneuver",
      [("start_shift", .number startLength), ("end_shift", .number endLength)]⟩
  | noRouteLane => some ⟨.debug, "no route lane near the shift", []⟩
  | noSideLane kind relative hasLeft hasRight =>
    some ⟨.debug, "no lane on the shift side",
      [("kind", .text kind.name), ("relative_shift", .number relative),
        ("has_left_lane", .flag hasLeft), ("has_right_lane", .flag hasRight)]⟩
  | straddles kind =>
    some ⟨.debug, "shift would straddle a road bound", [("kind", .text kind.name)]⟩
  | reversing _ | negligible | finished | early | signalled _ => none

end SwerveVerdict

namespace ShiftRequest

/-- The shift's two lengths in ego's frame: seen from the target lane they change roles. -/
def lengths (request : ShiftRequest α) : α × α :=
  if request.ownLaneShifted then (request.shift.startLength, request.shift.endLength)
  else (request.shift.endLength, -request.shift.startLength)

/-- Driving backward, the hazard lights are on from where the route started to where ego is. -/
def backward (request : ShiftRequest α) (start : Pose α) : Candidate α :=
  ⟨.noCommand, .enable, start, request.pose, start, request.pose⟩

/-- How far the front of the vehicle is from the start of the shift. -/
def aheadOfStart (request : ShiftRequest α) (vehicle : Vehicle α) : α :=
  let position := request.pose.position
  request.path.signedLengthTo position ((request.path.nearestSegment? position).getD 0)
    request.shift.startIndex - vehicle.front

/-- The blinker for a shift whose two end poses are given: it may come on a margin early while the
front of the vehicle is short of the start. -/
def candidate (request : ShiftRequest α) (settings : SignalSettings α) (relative ahead : α)
    (first last : Pose α) : Candidate α where
  turn := if 0 < relative then .left else .right
  hazard := .noCommand
  desiredStart :=
    if 0 < ahead then
      (request.path.poseAt?
        (request.path.arcLengthTo request.shift.startIndex - settings.desiredLeadMargin)).getD first
    else first
  desiredEnd := last
  requiredStart := first
  requiredEnd := last

/-- **The vetoes**: without a route lane at the shift, a lane on its side, or room between the
bounds, a blinker would mislead.  A return that is all but done may clip the bound it leaves, so
while ego stands still a return onto its own lane is not held against it. -/
def vetoed (request : ShiftRequest α) (vehicle : Vehicle α) (net : Network α) (kind : ShiftKind)
    (relative : α) (candidate : Candidate α) : SwerveVerdict α :=
  let queried := if request.ownLaneShifted then candidate.requiredEnd else candidate.requiredStart
  match net.closestOnRoute? queried.position with
  | none => .noRouteLane
  | some id =>
    let hasLeft := net.hasLeft id
    let hasRight := net.hasRight id
    if kind.hasSideLane relative hasLeft hasRight then
      let lanes := request.lanes.filterMap net.lane?
      let isStanding : Bool := request.speed < 0.1 && !request.overrideStopped
      if !(isStanding && kind.nearlyReturned request.pose.position lanes)
          && request.shift.straddles request.path lanes vehicle then
        .straddles kind
      else .signalled candidate
    else .noSideLane kind relative hasLeft hasRight

/-- **Judge a planned shift.** -/
def verdict (request : ShiftRequest α) (settings : SignalSettings α) (vehicle : Vehicle α)
    (net : Network α) : SwerveVerdict α :=
  let points := request.path.points
  let shift := request.shift
  if !request.isForward then .reversing (request.backward net.start)
  else match points[shift.startIndex]?, points[shift.endIndex]? with
  | some first, some last =>
    let (startLength, endLength) := request.lengths
    let relative := endLength - startLength
    let kind := ShiftKind.of startLength endLength settings.shiftThreshold
    let ahead := request.aheadOfStart vehicle
    if Scalar.abs relative < settings.shiftThreshold then .negligible
    else if kind = .none then .unsignalled startLength endLength
    else if Scalar.abs (endLength - request.currentLength) < 0.1 then .finished
    else if Scalar.max (request.speed * settings.searchTime) settings.minimumSearchDistance < ahead
    then .early
    else
      let candidate := request.candidate settings relative ahead first.pose last.pose
      if settings.onSwerving then request.vetoed vehicle net kind relative candidate
      else .signalled candidate
  | _, _ => .outOfPath shift.startIndex shift.endIndex points.length

end ShiftRequest

end DriveDecision
