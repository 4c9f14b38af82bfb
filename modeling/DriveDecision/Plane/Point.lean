import DriveDecision.Number.Scalar

/-!
# Plane/Point — positions and poses in the map frame

The road is flat: heights are ignored, and a vehicle is where it is and where it heads.  Headings
are radians, counter-clockwise from the first axis.
-/

namespace DriveDecision

/-- A position, or a displacement between two. -/
structure Point (α : Type) where
  x : α
  y : α
  deriving Repr, BEq, DecidableEq

namespace Point

variable {α : Type} [Scalar α]

instance : Add (Point α) := ⟨fun p q => ⟨p.x + q.x, p.y + q.y⟩⟩
instance : Sub (Point α) := ⟨fun p q => ⟨p.x - q.x, p.y - q.y⟩⟩
instance : HMul (Point α) α (Point α) := ⟨fun p s => ⟨p.x * s, p.y * s⟩⟩

def origin : Point α := ⟨0, 0⟩

def dot (p q : Point α) : α := p.x * q.x + p.y * q.y

/-- Twice the signed area spanned: positive when `q` lies to the left of `p`. -/
def cross (p q : Point α) : α := p.x * q.y - p.y * q.x

def length (p : Point α) : α := Scalar.sqrt (p.dot p)

def distance (p q : Point α) : α := (p - q).length

def distanceSq (p q : Point α) : α := (p - q).dot (p - q)

/-- The point a fraction `t` of the way from `p` to `q`. -/
def lerp (p q : Point α) (t : α) : Point α := p * (1 - t) + q * t

/-- `q` turned by the angle of the unit vector `p`. -/
def rotate (p q : Point α) : Point α := ⟨p.x * q.x - p.y * q.y, p.y * q.x + p.x * q.y⟩

/-- The heading of the way from `p` to `q`. -/
def azimuth (p q : Point α) : α := Scalar.atan2 (q - p).y (q - p).x

end Point

/-- Position and heading. -/
structure Pose (α : Type) where
  position : Point α
  yaw : α
  deriving Repr, BEq, DecidableEq

namespace Pose

variable {α : Type} [Scalar α]

/-- At the origin, heading along the first axis. -/
def origin : Pose α := ⟨.origin, 0⟩

instance : Inhabited (Pose α) := ⟨origin⟩

/-- The unit vector along the heading. -/
def heading (pose : Pose α) : Point α := ⟨Scalar.cos pose.yaw, Scalar.sin pose.yaw⟩

/-- **A point of the pose's own frame**, placed in the map. -/
def place (pose : Pose α) (own : Point α) : Point α := pose.position + pose.heading.rotate own

end Pose

/-- **An angle as its representative in `(-π, π]`**: a truncated remainder leaves less than a full
turn of the dividend's sign, and half a turn decides which way to correct it. -/
def wrapAngle {α : Type} [Scalar α] (angle : α) : α :=
  let a := Scalar.rem angle Scalar.tau
  if Scalar.pi < a then a - Scalar.tau
  else if a ≤ -Scalar.pi then a + Scalar.tau
  else a

end DriveDecision
