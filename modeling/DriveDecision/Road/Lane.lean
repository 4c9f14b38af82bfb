import DriveDecision.Plane.Polygon
import DriveDecision.Road.Path

/-!
# Road/Lane — directed lane segments

A lane is bounded on both sides and has a centerline; it may ask for a turn signal.  What is
measured on a lane — its ends, its length, the way to it — is measured on the centerline, while
being on the lane is decided by its outline.
-/

namespace DriveDecision

/-- The direction a lane is tagged with in the map. -/
inductive TurnDirection where
  | none
  | straight
  | left
  | right
  deriving DecidableEq, Repr, Inhabited

namespace TurnDirection

/-- The direction a map attribute names; anything unknown names none. -/
def ofAttribute : String → TurnDirection
  | "left" => left
  | "right" => right
  | "straight" => straight
  | _ => none

/-- Only a turn is signalled. -/
def requiresSignal (direction : TurnDirection) : Bool := direction == left || direction == right

theorem requiresSignal_iff {direction : TurnDirection} :
    direction.requiresSignal = true ↔ direction = .left ∨ direction = .right := by
  cases direction <;> decide

end TurnDirection

/-- A directed lane segment. -/
structure Lane (α : Type) where
  id : LaneId
  leftBound : List (Point α)
  rightBound : List (Point α)
  centerline : List (Point α)
  turn : TurnDirection
  deriving Repr

namespace Lane

variable {α : Type} [Scalar α]

/-- A lane between two bounds; the centerline runs halfway between paired vertices. -/
def between (id : LaneId) (leftBound rightBound : List (Point α)) (turn : TurnDirection) :
    Lane α where
  id := id
  leftBound := leftBound
  rightBound := rightBound
  centerline := List.zipWith (fun l r => (l + r) * (0.5 : α)) leftBound rightBound
  turn := turn

omit [Scalar α] in
/-- The closed outline: along the left bound and back along the right. -/
def outline (lane : Lane α) : List (Point α) := lane.leftBound ++ lane.rightBound.reverse

def contains (lane : Lane α) (p : Point α) : Bool := Polygon.contains lane.outline p

def length (lane : Lane α) : α := Polyline.length lane.centerline

/-- The pose of entering the lane; a centerline of fewer than two points has none. -/
def front? (lane : Lane α) : Option (Pose α) :=
  (consecutive lane.centerline).head?.map fun (a, b) => ⟨a, a.azimuth b⟩

/-- The pose of leaving the lane. -/
def back? (lane : Lane α) : Option (Pose α) :=
  (consecutive lane.centerline).getLast?.map fun (a, b) => ⟨b, a.azimuth b⟩

/-- The point of the segment from `a` to `b` nearest to `p`. -/
def footOn (p a b : Point α) : Point α :=
  let along := b - a
  let lengthSq := along.dot along
  let t := if 0 < lengthSq then Scalar.clamp ((p - a).dot along / lengthSq) 0 1 else 0
  a + along * t

/-- The distance from `p` to the centerline; what does not compare is skipped. -/
def distanceTo (lane : Lane α) (p : Point α) : α :=
  ((consecutive lane.centerline).map fun (a, b) => p.distance (footOn p a b)).foldl Scalar.min
    Scalar.greatest

end Lane

end DriveDecision
