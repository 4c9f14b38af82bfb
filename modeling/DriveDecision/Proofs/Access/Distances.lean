import DriveDecision.Proofs.Access.Indexing
import DriveDecision.Proofs.Number.Least
import DriveDecision.Road.Path

/-!
# Proofs/Access/Distances — paths are read within range

    caller's index   0    1    2    3    4    9    2⁶⁴ - 1
    segment read     0    1    2    3    3    3    3          of a path of five points

Here the distances on a path are computed by index: segment `i` is read at points `i` and `i + 1`,
and an index from outside is moved onto the last segment first.  Whatever the index and whatever the
coordinates, nothing is read outside the path, and the distances are the ones of `Road/Path`; so is
the segment a pose is on, which is one the path has (`Path.IsSegment`).
-/

namespace DriveDecision

variable {α : Type} [Scalar α]

namespace Path

omit [Scalar α] in
/-- **A segment a pose can be on**: the only index of a single point, and an index with a next one
otherwise. -/
def IsSegment (path : Path α) (i : Nat) : Prop :=
  (path.points.length = 1 → i = 0) ∧ (1 < path.points.length → i + 1 < path.points.length)

variable {path : Path α} {near : Nearness α} {pose : Pose α} {p : Point α} {i : Nat}

theorem isSegment_segmentAround (h : i < path.points.length) :
    path.IsSegment (path.segmentAround i p) := by
  simp only [IsSegment, segmentAround]
  split_ifs <;> omega

theorem isSegment_nearestSegment? (h : path.nearestSegment? p = some i) : path.IsSegment i := by
  rw [nearestSegment?, nearestPoint?, Option.map_map, Option.map_eq_some_iff] at h
  obtain ⟨q, hq, rfl⟩ := h
  exact isSegment_segmentAround (List.snd_lt_of_mem_zipIdx (mem_of_firstLeast? hq))

/-- **What is located is a segment of the path**, whatever compares. -/
theorem isSegment_locate? (h : path.locate? near pose = some i) : path.IsSegment i := by
  simp only [locate?] at h
  split at h
  · rename_i q hleast
    obtain rfl := Option.some.inj h
    have hq := (List.mem_filter.1 (mem_of_firstLeast? hleast)).1
    exact isSegment_segmentAround (List.snd_lt_of_mem_zipIdx hq)
  · exact isSegment_nearestSegment? h

end Path

namespace Indexed

/-! ## Distances on a path -/

/-- The end poses of segment `i`. -/
def edge (path : Path α) (i : Nat) : Access (Pose α × Pose α) := do
  let a ← fetch path.points i
  let b ← fetch path.points (i + 1)
  return (a.pose, b.pose)

/-- The signed arc length of `p` on a segment, from its start. -/
def offsetOn (path : Path α) (i : Nat) (p : Point α) : Access α := do
  if path.points.length < 2 then return 0
  else
    let (a, b) ← edge path (min i (← minus path.points.length 2))
    let along := b.position - a.position
    let length := along.length
    return if length ≤ Scalar.epsilon then 0 else (p - a.position).dot along / length

/-- The arc length up to point `i`, or to the last one. -/
def arcLengthTo (path : Path α) (i : Nat) : Access α := do
  let lengths ← (List.range (min i (path.points.length - 1))).mapM fun k =>
    return Path.segmentLength (← edge path k)
  return Scalar.sum lengths

def signedLength (path : Path α) (src : Point α) (srcSegment : Nat) (dst : Point α)
    (dstSegment : Nat) : Access α := do
  return (← arcLengthTo path dstSegment) - (← arcLengthTo path srcSegment)
    - (← offsetOn path srcSegment src) + (← offsetOn path dstSegment dst)

def signedLengthTo (path : Path α) (src : Point α) (srcSegment : Nat) (i : Nat) : Access α := do
  return (← arcLengthTo path i) - (← arcLengthTo path srcSegment) - (← offsetOn path srcSegment src)

/-- The pose at arc length `s` on the segments of the given indices, of which `done` is already
behind; `last` when they end first. -/
def poseAlong (path : Path α) (s : α) (last : Pose α) : α → List Nat → Access (Pose α)
  | _, [] => return last
  | done, i :: rest => do
    let (a, b) ← edge path i
    let length := Path.segmentLength (a, b)
    if s ≤ done + length ∧ Scalar.epsilon < length then
      return ⟨a.position.lerp b.position ((s - done) / length), a.position.azimuth b.position⟩
    else poseAlong path s last (done + length) rest

def poseAt? (path : Path α) (s : α) : Access (Option (Pose α)) := do
  match path.points.head?, path.points.getLast? with
  | some first, some last =>
    if path.points.length < 2 ∨ s ≤ 0 then return some first.pose
    else
      return some (← poseAlong path s last.pose 0 (List.range (← minus path.points.length 1)))
  | _, _ => return none

/-! ## The segment a pose is on -/

def segmentAround (path : Path α) (nearest : Nat) (p : Point α) : Access Nat := do
  if path.points.length < 2 ∨ nearest = 0 then return 0
  else
    let last ← minus path.points.length 1
    if nearest = last then minus last 1
    else if (← offsetOn path nearest p) ≤ 0 then minus nearest 1
    else return nearest

def nearestSegment? (path : Path α) (p : Point α) : Access (Option Nat) :=
  match path.nearestPoint? p with
  | none => return none
  | some i => return some (← segmentAround path i p)

def locate? (path : Path α) (near : Path.Nearness α) (pose : Pose α) : Access (Option Nat) :=
  let candidates := path.indexed.filter fun q => near.admits pose q.1
  match firstLeast? (fun q => q.1.pose.position.distanceSq pose.position) candidates with
  | some q => return some (← segmentAround path q.2 pose.position)
  | none => nearestSegment? path pose.position

variable {path : Path α} {near : Path.Nearness α} {pose : Pose α} {p : Point α} {s : α} {i : Nat}

section

omit [Scalar α]

/-- A segment of the path is read where the path has it. -/
theorem edge_eq {segment : Pose α × Pose α} (h : path.segments[i]? = some segment) :
    edge path i = pure segment := by
  obtain ⟨first, last⟩ := segment
  obtain ⟨a, b, ha, hb, rfl, rfl⟩ := Path.getElem?_segments_iff.1 h
  rw [edge, fetch_eq ha, fetch_eq hb]
  rfl

end

/-! ## They are read where they are -/

@[simp] theorem offsetOn_eq : offsetOn path i p = pure (path.offsetOn i p) := by
  rw [offsetOn, Path.offsetOn, Path.segment?]
  split_ifs with hfew
  · have hnone : path.segments = [] :=
      List.length_eq_zero_iff.1 (by rw [Path.length_segments]; omega)
    simp [hnone]
  · have hi : min i (path.points.length - 2) < path.segments.length := by
      rw [Path.length_segments]
      omega
    have hindex : min i (path.segments.length - 1) = min i (path.points.length - 2) := by
      rw [Path.length_segments, Nat.sub_sub]
    rw [hindex, List.getElem?_eq_getElem hi, minus_eq (Nat.not_lt.1 hfew), pure_bind,
      edge_eq (List.getElem?_eq_getElem hi)]
    rfl

@[simp] theorem arcLengthTo_eq : arcLengthTo path i = pure (path.arcLengthTo i) := by
  have hlengths : (List.range (min i (path.points.length - 1))).mapM
        (fun k => do return Path.segmentLength (← edge path k))
      = (pure ((path.segments.take i).map Path.segmentLength) : Access (List α)) := by
    have hle : min i (path.points.length - 1) ≤ path.segments.length := by
      rw [Path.length_segments]
      exact Nat.min_le_right _ _
    have hread (k : Nat) (segment : Pose α × Pose α) (hk : path.segments[k]? = some segment) :
        (do return Path.segmentLength (← edge path k))
          = (pure (Path.segmentLength segment) : Access α) := by
      rw [edge_eq hk, pure_bind]
    rw [mapM_range_eq hle hread, ← Path.length_segments, List.take_eq_take_min (i := i)]
  rw [arcLengthTo, hlengths]
  rfl

@[simp] theorem signedLength_eq {src dst : Point α} {j : Nat} :
    signedLength path src i dst j = pure (path.signedLength src i dst j) := by
  simp [signedLength, Path.signedLength]

@[simp] theorem signedLengthTo_eq {src : Point α} {j : Nat} :
    signedLengthTo path src i j = pure (path.signedLengthTo src i j) := by
  simp [signedLengthTo, Path.signedLengthTo]

theorem poseAlong_eq {last : Pose α} {done : α} {n : Nat} (h : i + n = path.segments.length) :
    poseAlong path s last done (List.range' i n)
      = pure (Path.poseAlong s last done (path.segments.drop i)) := by
  induction n generalizing i done with
  | zero =>
    rw [List.drop_eq_nil_of_le (Nat.le_of_eq (Nat.add_zero i ▸ h.symm))]
    rfl
  | succ n ih =>
    have hi : i < path.segments.length := by omega
    rw [List.range'_succ, poseAlong, List.drop_eq_getElem_cons hi,
      edge_eq (List.getElem?_eq_getElem hi), pure_bind, Path.poseAlong]
    simp only [ih (Nat.succ_add_eq_add_succ i n ▸ h), ← apply_ite]

@[simp] theorem poseAt?_eq : poseAt? path s = pure (path.poseAt? s) := by
  rcases path with ⟨points⟩
  match points with
  | [] => rfl
  | [point] => simp [poseAt?, Path.poseAt?, Path.poseAlong, Path.segments, consecutive]
  | first :: second :: rest =>
    have hmany : ¬ (first :: second :: rest).length < 2 := by simp
    simp only [poseAt?, Path.poseAt?, List.head?_cons, List.getLast?_cons, hmany, false_or,
      minus_eq (Nat.le_of_not_lt (mt Nat.lt_succ_of_lt hmany)), List.range_eq_range']
    rw [pure_bind, poseAlong_eq (by simp), pure_bind]
    split_ifs <;> rfl

@[simp] theorem segmentAround_eq : segmentAround path i p = pure (path.segmentAround i p) := by
  have hfirst : path.points.length < 2 ∨ i = 0 ↔ i = 0 ∨ path.points.length - 1 = 0 := by omega
  simp only [segmentAround, Path.segmentAround, offsetOn_eq, pure_bind, hfirst]
  by_cases hstart : i = 0 ∨ path.points.length - 1 = 0
  · rw [if_pos hstart, if_pos hstart]
  · have hlast : 1 ≤ path.points.length - 1 := by omega
    rw [if_neg hstart, if_neg hstart, minus_eq (by omega), pure_bind, minus_eq hlast,
      minus_eq (show 1 ≤ i by omega)]
    split_ifs <;> rfl

@[simp] theorem nearestSegment?_eq : nearestSegment? path p = pure (path.nearestSegment? p) := by
  rw [nearestSegment?, Path.nearestSegment?]
  cases path.nearestPoint? p <;> simp

@[simp] theorem locate?_eq : locate? path near pose = pure (path.locate? near pose) := by
  simp only [locate?, Path.locate?]
  cases firstLeast? (fun q => q.1.pose.position.distanceSq pose.position)
    (path.indexed.filter fun q => near.admits pose q.1) <;> simp

end Indexed

end DriveDecision
