import DriveDecision.Plane.Point

/-!
# Road/Vehicle — the outline of ego

A rectangle around the reference point of the vehicle's pose.
-/

namespace DriveDecision

/-- How far the vehicle reaches from its reference point. -/
structure Vehicle (α : Type) where
  front : α
  rear : α
  halfWidth : α
  deriving Repr

namespace Vehicle

variable {α : Type} [Scalar α]

/-- A passenger car. -/
def standard : Vehicle α where
  front := 4.89
  rear := 1.03
  halfWidth := 0.96

/-- The corners in the vehicle's own frame, counter-clockwise from the front left. -/
def corners (vehicle : Vehicle α) : List (Point α) :=
  [⟨vehicle.front, vehicle.halfWidth⟩, ⟨-vehicle.rear, vehicle.halfWidth⟩,
    ⟨-vehicle.rear, -vehicle.halfWidth⟩, ⟨vehicle.front, -vehicle.halfWidth⟩]

/-- The corners with the vehicle at `pose`. -/
def cornersAt (vehicle : Vehicle α) (pose : Pose α) : List (Point α) :=
  vehicle.corners.map pose.place

end Vehicle

end DriveDecision
