import DriveDecision.Road.Lane

/-!
# Road/Network — lanes, their neighbors, and the route

What the arbiter asks the map: a lane by its number, whether there is a lane beside it, and which
lane of the route a pose is on.
-/

namespace DriveDecision

/-- Values under lane numbers; the entry written last is the one found. -/
abbrev LaneTable (β : Type) := List (LaneId × β)

/-- The road map with the route planned on it. -/
structure Network (α : Type) where
  lanes : LaneTable (Lane α) := []
  /-- The neighbor on the left, in the same direction. -/
  left : LaneTable LaneId := []
  /-- The neighbor on the right, in the same direction. -/
  right : LaneTable LaneId := []
  /-- Lanes of opposite direction on the left. -/
  leftOpposite : List (LaneId × LaneId) := []
  /-- Lanes of opposite direction on the right. -/
  rightOpposite : List (LaneId × LaneId) := []
  route : List LaneId := []
  /-- Where the route was started. -/
  start : Pose α
  deriving Repr

namespace Network

variable {α : Type} [Scalar α]

def empty : Network α := { start := .origin }

/-! ## Building a map -/

/-- Add a lane, in place of one with the same number. -/
def insert (net : Network α) (lane : Lane α) : Network α :=
  { net with lanes := (lane.id, lane) :: net.lanes }

/-- Record `other` as the left neighbor of `id`, and `id` as the right neighbor of `other`. -/
def setLeftNeighbor (net : Network α) (id other : LaneId) : Network α :=
  { net with left := (id, other) :: net.left, right := (other, id) :: net.right }

def addLeftOpposite (net : Network α) (id other : LaneId) : Network α :=
  { net with leftOpposite := (id, other) :: net.leftOpposite }

def addRightOpposite (net : Network α) (id other : LaneId) : Network α :=
  { net with rightOpposite := (id, other) :: net.rightOpposite }

def setRoute (net : Network α) (route : List LaneId) (start : Pose α) : Network α :=
  { net with route := route, start := start }

/-! ## Asking the map -/

omit [Scalar α] in
def lane? (net : Network α) (id : LaneId) : Option (Lane α) := net.lanes.lookup id

omit [Scalar α] in
/-- A lane of either direction lies on the left. -/
def hasLeft (net : Network α) (id : LaneId) : Bool :=
  (net.left.lookup id).isSome || (net.leftOpposite.lookup id).isSome

omit [Scalar α] in
/-- A lane of either direction lies on the right. -/
def hasRight (net : Network α) (id : LaneId) : Bool :=
  (net.right.lookup id).isSome || (net.rightOpposite.lookup id).isSome

omit [Scalar α] in
/-- The lanes of the route that the map knows, in route order. -/
def routeLanes (net : Network α) : List (Lane α) := net.route.filterMap net.lane?

/-- **The lane of the route a point is on**: the first that contains it, or else the first of the
nearest. -/
def closestOnRoute? (net : Network α) (p : Point α) : Option LaneId :=
  match net.routeLanes.find? (·.contains p) with
  | some lane => some lane.id
  | none => (firstLeast? (·.distanceTo p) net.routeLanes).map (·.id)

end Network

end DriveDecision
