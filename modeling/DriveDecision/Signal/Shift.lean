import DriveDecision.Road.Network
import DriveDecision.Road.Vehicle
import DriveDecision.Signal.Candidate

/-!
# Signal/Shift — planned lateral shifts and what they mean for a blinker

A shift moves ego sideways between two points of the path; lengths are signed, positive to the left.
Its kind says whether it leaves the reference line, comes back to it, or stays off it, and with the
kind comes the side on which there has to be a lane for a blinker to make sense.
-/

namespace DriveDecision

/-- A lateral shift planned between two points of the path. -/
structure Shift (α : Type) where
  startIndex : Nat
  endIndex : Nat
  startLength : α
  endLength : α
  deriving Repr

/-- What a shift does. -/
inductive ShiftKind where
  | none
  /-- From the reference line out. -/
  | avoid
  /-- From an offset back to the reference line. -/
  | rejoin
  /-- Between two offsets to the left. -/
  | leftMiddle
  /-- Between two offsets to the right. -/
  | rightMiddle
  deriving DecidableEq, Repr, Inhabited

namespace ShiftKind

/-- The kind's name in dumps. -/
def name : ShiftKind → String
  | none => "None"
  | avoid => "Avoid"
  | rejoin => "Return"
  | leftMiddle => "LeftMiddle"
  | rightMiddle => "RightMiddle"

variable {α : Type} [Scalar α]

/-- **The kind of a shift from `start` to `stop`**: an offset counts only beyond the threshold, and
a crossing from one side to the other is none of the kinds. -/
def of (start stop threshold : α) : ShiftKind :=
  if Scalar.abs start < threshold ∧ threshold < Scalar.abs stop then .avoid
  else if threshold < Scalar.abs start ∧ Scalar.abs stop < threshold then .rejoin
  else if threshold < start ∧ threshold < stop then .leftMiddle
  else if start < -threshold ∧ stop < -threshold then .rightMiddle
  else .none

/-- **Whether there is a lane on the side a shift concerns.**  A return is judged by the side it
comes back from, and between two offsets only their own side counts. -/
def hasSideLane (kind : ShiftKind) (relative : α) (hasLeft hasRight : Bool) : Bool :=
  let leftward : Bool := 0 < relative
  let rightward : Bool := relative < 0
  match kind with
  | avoid => !(leftward && !hasLeft) && !(rightward && !hasRight)
  | rejoin => !(leftward && !hasRight) && !(rightward && !hasLeft)
  | leftMiddle => !((leftward || rightward) && !hasLeft)
  | rightMiddle => !((leftward || rightward) && !hasRight)
  | none => true

end ShiftKind

namespace Shift

variable {α : Type} [Scalar α]

/-- How far the shift moves, positive to the left. -/
def relative (shift : Shift α) : α := shift.endLength - shift.startLength

/-- The poses of the path from the start of the shift up to, and without, its end. -/
def poses (shift : Shift α) (path : Path α) : List (Pose α) :=
  ((path.points.take shift.endIndex).drop shift.startIndex).map (·.pose)

/-- **Whether the vehicle, following the path through the shift, touches a bound of a lane.** -/
def straddles (shift : Shift α) (path : Path α) (lanes : List (Lane α)) (vehicle : Vehicle α) :
    Bool :=
  lanes.any fun lane =>
    (shift.poses path).any fun pose =>
      let outline := vehicle.cornersAt pose
      Polygon.touches outline lane.leftBound || Polygon.touches outline lane.rightBound

end Shift

/-- Whether a shift is a return and ego is already back on one of its lanes. -/
def ShiftKind.nearlyReturned {α : Type} [Scalar α] (kind : ShiftKind) (ego : Point α)
    (lanes : List (Lane α)) : Bool :=
  kind == .rejoin && lanes.any (·.contains ego)

end DriveDecision
