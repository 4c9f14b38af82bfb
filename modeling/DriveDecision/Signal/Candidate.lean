import DriveDecision.Signal.Command

/-!
# Signal/Candidate — a request for a signal and where it applies

A candidate must signal along its required span and may signal along the wider desired span.  Ego
measures both spans from where it is; the starts are measured from the front of the vehicle.
-/

namespace DriveDecision

/-- One request.  Its poses mean nothing when it carries no command. -/
structure Candidate (α : Type) where
  turn : TurnCommand
  hazard : HazardLights
  desiredStart : Pose α
  desiredEnd : Pose α
  requiredStart : Pose α
  requiredEnd : Pose α
  deriving Repr

namespace Candidate

variable {α : Type} [Scalar α]

/-- No request. -/
def none : Candidate α := ⟨.noCommand, .noCommand, .origin, .origin, .origin, .origin⟩

omit [Scalar α] in
/-- Neither a turn nor the hazard lights are commanded. -/
def isEmpty (c : Candidate α) : Bool := c.turn == .noCommand && c.hazard == .noCommand

end Candidate

/-- Where ego is on a path: its pose, the segment it is on, and how poses are located. -/
structure Ego (α : Type) where
  path : Path α
  near : Path.Nearness α
  /-- From the reference point to the front of the vehicle. -/
  front : α
  pose : Pose α
  segment : Nat
  deriving Repr

/-- Signed distances from ego to the four ends of a candidate's spans. -/
structure SpanDistances (α : Type) where
  desiredStart : α
  desiredEnd : α
  requiredStart : α
  requiredEnd : α
  deriving Repr

namespace SpanDistances

variable {α : Type} [Scalar α]

/-- Ego is within the required span: its front has reached the start and it has not passed the
end. -/
def withinRequired (d : SpanDistances α) : Bool := d.requiredStart ≤ 0 && 0 ≤ d.requiredEnd

end SpanDistances

namespace Ego

variable {α : Type} [Scalar α]

/-- The signed distance along the path from ego to a pose. -/
def distanceTo (ego : Ego α) (target : Pose α) : α :=
  ego.path.signedLength ego.pose.position ego.segment target.position
    ((ego.path.locate? ego.near target).getD 0)

/-- **Where ego stands relative to a candidate.** -/
def spanOf (ego : Ego α) (c : Candidate α) : SpanDistances α where
  desiredStart := ego.distanceTo c.desiredStart - ego.front
  desiredEnd := ego.distanceTo c.desiredEnd
  requiredStart := ego.distanceTo c.requiredStart - ego.front
  requiredEnd := ego.distanceTo c.requiredEnd

end Ego

end DriveDecision
