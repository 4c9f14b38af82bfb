import DriveDecision.Plane.Polyline

/-!
# Road/Path — the planned path and distances along it

Every distance the arbiter compares is an arc length on the current path.  Segment `i` of a path
joins its points `i` and `i + 1`; an index past the last segment means the last one, so no caller
can point outside.
-/

namespace DriveDecision

/-- The number a lane is known by. -/
abbrev LaneId := Int

/-- A pose of the path and the lanes it belongs to: one, or two on a boundary. -/
structure PathPoint (α : Type) where
  pose : Pose α
  lanes : List LaneId
  deriving Repr

/-- The planned path, nearest point first. -/
structure Path (α : Type) where
  points : List (PathPoint α)
  deriving Repr

/-- The first of the elements with the least key; a key that does not compare never displaces. -/
def firstLeast? {α β : Type} [Scalar α] (key : β → α) : List β → Option β
  | [] => none
  | b :: bs => some (bs.foldl (fun best c => if key c < key best then c else best) b)

theorem firstLeast?_eq_none_iff {α β : Type} [Scalar α] {key : β → α} {bs : List β} :
    firstLeast? key bs = none ↔ bs = [] := by
  cases bs <;> simp [firstLeast?]

namespace Path

variable {α : Type} [Scalar α]

/-- The positions of the path's points. -/
def positions (path : Path α) : List (Point α) := path.points.map (·.pose.position)

/-- The position of point `i`, if the path has it. -/
def position? (path : Path α) (i : Nat) : Option (Point α) := path.points[i]?.map (·.pose.position)

/-- The segments, each with its two end poses. -/
def segments (path : Path α) : List (Pose α × Pose α) := consecutive (path.points.map (·.pose))

omit [Scalar α] in
@[simp] theorem length_segments (path : Path α) :
    path.segments.length = path.points.length - 1 := by
  simp [segments]

omit [Scalar α] in
/-- **Segment `i` joins points `i` and `i + 1`.** -/
theorem getElem?_segments_iff {path : Path α} {i : Nat} {a b : Pose α} :
    path.segments[i]? = some (a, b) ↔ ∃ p q, path.points[i]? = some p
      ∧ path.points[i + 1]? = some q ∧ p.pose = a ∧ q.pose = b := by
  simp only [segments, getElem?_consecutive_iff, List.getElem?_map, Option.map_eq_some_iff]
  constructor
  · rintro ⟨⟨p, hp, ha⟩, q, hq, hb⟩
    exact ⟨p, q, hp, hq, ha, hb⟩
  · rintro ⟨p, q, hp, hq, ha, hb⟩
    exact ⟨⟨p, hp, ha⟩, q, hq, hb⟩

omit [Scalar α] in
theorem getElem?_segments_of_lt {path : Path α} {i : Nat} (h : i + 1 < path.points.length) :
    ∃ p q, path.points[i]? = some p ∧ path.points[i + 1]? = some q
      ∧ path.segments[i]? = some (p.pose, q.pose) := by
  have hp := List.getElem?_eq_getElem (Nat.lt_of_succ_lt h)
  have hq := List.getElem?_eq_getElem h
  exact ⟨_, _, hp, hq, getElem?_segments_iff.2 ⟨_, _, hp, hq, rfl, rfl⟩⟩

/-- The length of a segment. -/
def segmentLength (segment : Pose α × Pose α) : α :=
  segment.1.position.distance segment.2.position

/-- Segment `i`, or the last one for an index past it. -/
def segment? (path : Path α) (i : Nat) : Option (Pose α × Pose α) :=
  path.segments[Min.min i (path.segments.length - 1)]?

/-! ## Arc lengths -/

/-- The arc length from the first point to point `i`; past the last point it stays. -/
def arcLengthTo (path : Path α) (i : Nat) : α :=
  Scalar.sum ((path.segments.take i).map segmentLength)

def totalLength (path : Path α) : α := path.arcLengthTo (path.points.length - 1)

/-- **One point further, one segment more.** -/
theorem arcLengthTo_succ {path : Path α} {i : Nat} {segment : Pose α × Pose α}
    (h : path.segments[i]? = some segment) :
    path.arcLengthTo (i + 1) = path.arcLengthTo i + segmentLength segment := by
  rw [arcLengthTo, List.take_add_one, h, Option.toList_some, List.map_append, List.map_singleton,
    Scalar.sum_concat, arcLengthTo]

/-- From the last point on there is no more. -/
theorem arcLengthTo_of_le {path : Path α} {i : Nat} (h : path.points.length ≤ i + 1) :
    path.arcLengthTo i = path.totalLength := by
  have hi : path.segments.length ≤ i := by
    rw [length_segments]
    omega
  rw [totalLength, arcLengthTo, arcLengthTo, List.take_of_length_le hi,
    List.take_of_length_le (Nat.le_of_eq (length_segments path))]

/-- The arc length at which `p` projects onto segment `i`, counted from the start of that segment.
A path without segments, or a segment without direction, counts nothing. -/
def offsetOn (path : Path α) (i : Nat) (p : Point α) : α :=
  match path.segment? i with
  | none => 0
  | some (a, b) =>
    let along := b.position - a.position
    let length := along.length
    if length ≤ Scalar.epsilon then 0 else (p - a.position).dot along / length

/-- **The signed arc length from `src` to `dst`**, each on its segment: negative when `dst` is
behind. -/
def signedLength (path : Path α) (src : Point α) (srcSegment : Nat) (dst : Point α)
    (dstSegment : Nat) : α :=
  path.arcLengthTo dstSegment - path.arcLengthTo srcSegment - path.offsetOn srcSegment src
    + path.offsetOn dstSegment dst

/-- The signed arc length from `src` on its segment to point `i`. -/
def signedLengthTo (path : Path α) (src : Point α) (srcSegment : Nat) (i : Nat) : α :=
  path.arcLengthTo i - path.arcLengthTo srcSegment - path.offsetOn srcSegment src

/-- The pose at arc length `s` on `segments`, of which `done` is already behind; `last` when they
end first. -/
def poseAlong (s : α) (last : Pose α) : α → List (Pose α × Pose α) → Pose α
  | _, [] => last
  | done, (a, b) :: rest =>
    let length := segmentLength (a, b)
    if s ≤ done + length ∧ Scalar.epsilon < length then
      ⟨a.position.lerp b.position ((s - done) / length), a.position.azimuth b.position⟩
    else poseAlong s last (done + length) rest

/-- **The pose at arc length `s`**, heading along the segment it falls on; past an end it is the
pose of that end. -/
def poseAt? (path : Path α) (s : α) : Option (Pose α) :=
  match path.points.head?, path.points.getLast? with
  | some first, some last =>
    some (if s ≤ 0 then first.pose else poseAlong s last.pose 0 path.segments)
  | _, _ => none

theorem poseAt?_eq_none_iff {path : Path α} {s : α} : path.poseAt? s = none ↔ path.points = [] := by
  rcases path with ⟨points⟩
  cases points with
  | nil => simp [poseAt?]
  | cons first rest => cases h : (first :: rest).getLast? <;> simp_all [poseAt?]

/-! ## The segment a pose is on -/

/-- The points with their indices. -/
def indexed (path : Path α) : List (PathPoint α × Nat) := path.points.zipIdx

/-- The index of the first point nearest to `p`. -/
def nearestPoint? (path : Path α) (p : Point α) : Option Nat :=
  (firstLeast? (fun q => q.1.pose.position.distanceSq p) path.indexed).map (·.2)

/-- The segment at point `i` on which `p` projects: the one before the point unless `p` is strictly
past it. -/
def segmentAround (path : Path α) (i : Nat) (p : Point α) : Nat :=
  let last := path.points.length - 1
  if i = 0 ∨ last = 0 then 0
  else if i = last then last - 1
  else if path.offsetOn i p ≤ 0 then i - 1
  else i

/-- The segment around the point nearest to `p`. -/
def nearestSegment? (path : Path α) (p : Point α) : Option Nat :=
  (path.nearestPoint? p).map fun i => path.segmentAround i p

/-- How far, and how differently headed, a point of the path may be to count as near a pose. -/
structure Nearness (α : Type) where
  distance : α
  yaw : α
  deriving Repr

/-- Whether a point of the path is near a pose. -/
def Nearness.admits (near : Nearness α) (pose : Pose α) (point : PathPoint α) : Bool :=
  point.pose.position.distanceSq pose.position ≤ near.distance * near.distance
    && Scalar.abs (wrapAngle (point.pose.yaw - pose.yaw)) ≤ near.yaw

/-- **The segment a pose is on**: around the nearest point among those near it, or among all points
when none is. -/
def locate? (path : Path α) (near : Nearness α) (pose : Pose α) : Option Nat :=
  let candidates := path.indexed.filter fun q => near.admits pose q.1
  match firstLeast? (fun q => q.1.pose.position.distanceSq pose.position) candidates with
  | some q => some (path.segmentAround q.2 pose.position)
  | none => path.nearestSegment? pose.position

theorem nearestSegment?_eq_none_iff {path : Path α} {p : Point α} :
    path.nearestSegment? p = none ↔ path.points = [] := by
  rw [nearestSegment?, Option.map_eq_none_iff, nearestPoint?, Option.map_eq_none_iff,
    firstLeast?_eq_none_iff, indexed, List.zipIdx_eq_nil_iff]

/-- Only an empty path has no segment to be on. -/
theorem locate?_eq_none_iff {path : Path α} {near : Nearness α} {pose : Pose α} :
    path.locate? near pose = none ↔ path.points = [] := by
  simp only [locate?]
  split
  · rename_i q hleast
    refine ⟨fun hsome => absurd hsome (Option.some_ne_none _), fun hnil => ?_⟩
    have hindexed : path.indexed = [] := by rw [indexed, hnil, List.zipIdx_nil]
    rw [hindexed, List.filter_nil] at hleast
    cases hleast
  · exact nearestSegment?_eq_none_iff

/-- The lanes referenced from point `i` on, each once, in path order. -/
def lanesFrom (path : Path α) (i : Nat) : List LaneId :=
  ((path.points.drop i).flatMap (·.lanes)).eraseDups

omit [Scalar α] in
theorem mem_lanesFrom {path : Path α} {i : Nat} {id : LaneId} :
    id ∈ path.lanesFrom i ↔ ∃ point ∈ path.points.drop i, id ∈ point.lanes := by
  rw [lanesFrom, List.mem_eraseDups, List.mem_flatMap]

omit [Scalar α] in
/-- **The lanes from a later point on are among those from an earlier one.** -/
theorem lanesFrom_subset (path : Path α) {i j : Nat} (h : i ≤ j) :
    path.lanesFrom j ⊆ path.lanesFrom i := by
  intro id hid
  obtain ⟨point, hpoint, hlane⟩ := mem_lanesFrom.1 hid
  exact mem_lanesFrom.2 ⟨point, List.drop_subset_drop_left path.points h hpoint, hlane⟩

end Path

end DriveDecision
