import DriveDecision.Proofs.Plane.Segments
import DriveDecision.Proofs.Road.ArcLength

/-!
# Proofs/Road/Interpolation — interpolation lands on the path

    s ≤ 0        0 < s ≤ L                                   L < s
    p₀ ───────── p₁ ──────×────── p₂ ═ p₃ ─────────────────── pₙ
    own yaw               yaw of the segment from p₁ to p₂    own yaw

A place on a path is a fraction along one of its segments (`Path.Place`).  Without rounding, the
pose at an arc length is at such a place, and the arc length of the place is the one that was asked
for, or the nearer end of the path.  The yaw is that of the segment that leads there, so at a vertex
that of the one before it; past the ends the points keep their own.
-/

namespace DriveDecision

variable {α : Type} [ExactScalar α]

namespace Path

/-! ## Places -/

/-- **A place on a path**: a fraction of the way along one of its segments. -/
structure Place (path : Path α) where
  index : Nat
  start : Pose α
  stop : Pose α
  fraction : α
  isSegment : path.segments[index]? = some (start, stop)
  nonneg : 0 ≤ fraction
  le_one : fraction ≤ 1

namespace Place

variable {path : Path α}

def position (place : path.Place) : Point α :=
  place.start.position.lerp place.stop.position place.fraction

/-- The arc length of a place, from the start of the path. -/
def arcLength (place : path.Place) : α :=
  path.arcLengthTo place.index + place.fraction * segmentLength (place.start, place.stop)

/-- The heading of the segment a place is on. -/
def heading (place : path.Place) : α := place.start.position.azimuth place.stop.position

end Place

variable {path : Path α} {segments : List (Pose α × Pose α)} {s behind : α}

/-- A path of two points starts at a place… -/
theorem exists_place_first (hpoints : 2 ≤ path.points.length) :
    ∃ (place : path.Place) (pose : Pose α), path.points.head?.map PathPoint.pose = some pose
      ∧ place.position = pose.position ∧ place.arcLength = 0 := by
  obtain ⟨p, q, hp, -, hsegment⟩ :=
    getElem?_segments_of_lt (show 0 + 1 < path.points.length by omega)
  refine ⟨⟨0, p.pose, q.pose, 0, hsegment, le_rfl, zero_le_one⟩, p.pose, ?_, ?_, ?_⟩
  · rw [List.head?_eq_getElem?, hp, Option.map_some]
  · exact Point.lerp_zero ..
  · rw [Place.arcLength, arcLengthTo_zero, zero_mul, add_zero]

/-- …and ends at one. -/
theorem exists_place_last (hpoints : 2 ≤ path.points.length) :
    ∃ (place : path.Place) (pose : Pose α), path.points.getLast?.map PathPoint.pose = some pose
      ∧ place.position = pose.position ∧ place.arcLength = path.totalLength := by
  obtain ⟨i, hi⟩ : ∃ i, path.points.length = i + 2 := ⟨_, (Nat.sub_add_cancel hpoints).symm⟩
  obtain ⟨p, q, -, hq, hsegment⟩ :=
    getElem?_segments_of_lt (show i + 1 < path.points.length by omega)
  refine ⟨⟨i, p.pose, q.pose, 1, hsegment, zero_le_one, le_rfl⟩, q.pose, ?_, ?_, ?_⟩
  · rw [List.getLast?_eq_getElem?, hi, Nat.add_succ_sub_one, hq, Option.map_some]
  · exact Point.lerp_one ..
  · rw [Place.arcLength, one_mul, ← arcLengthTo_succ hsegment, arcLengthTo_of_le hi.le]

/-! ## Past the end -/

/-- **A walk past the end of the segments comes to the last pose.** -/
theorem poseAlong_of_sum_lt (hepsilon : (0 : α) ≤ Scalar.epsilon) (last : Pose α)
    (hresolved : ∀ segment ∈ segments,
      segmentLength segment = 0 ∨ Scalar.epsilon < segmentLength segment)
    (hpast : behind + (segments.map segmentLength).sum < s) :
    poseAlong s last behind segments = last := by
  induction segments generalizing behind with
  | nil => rfl
  | cons segment rest ih =>
    obtain ⟨-, hrest⟩ := List.forall_mem_cons.1 hresolved
    rw [List.map_cons, List.sum_cons, ← add_assoc] at hpast
    have hnonneg : 0 ≤ (rest.map segmentLength).sum := by
      refine List.sum_nonneg fun length hlength => ?_
      obtain ⟨other, hother, rfl⟩ := List.mem_map.1 hlength
      exact Scalar.nonneg_of_resolved hepsilon (hrest other hother)
    have hshort : behind + segmentLength segment < s :=
      (le_add_of_nonneg_right hnonneg).trans_lt hpast
    rw [poseAlong, if_neg fun hlands => hshort.not_ge hlands.1]
    exact ih hrest hpast

variable (hepsilon : (0 : α) ≤ Scalar.epsilon) (hresolved : path.IsResolved)

include hepsilon hresolved

theorem totalLength_nonneg : 0 ≤ path.totalLength := arcLengthTo_nonneg hepsilon hresolved

/-- Past the end it is the pose of the last point. -/
theorem poseAt?_of_totalLength_lt (hs : path.totalLength < s) :
    path.poseAt? s = path.points.getLast?.map PathPoint.pose := by
  rw [poseAt?_of_pos ((totalLength_nonneg hepsilon hresolved).trans_lt hs)]
  refine Option.map_congr fun last _ => poseAlong_of_sum_lt hepsilon last.pose hresolved ?_
  rwa [zero_add, ← totalLength_eq]

end Path

/-- **Interpolation lands on the path.**  Without rounding, on a path of two points or more whose
segments count or have no length, there is a pose at every `s`: it is at a place whose arc length is
`s`, moved to the nearer end when `s` is past it.  On the path it heads as the segment that leads
there; up to the start it is the pose of the first point, and past the end that of the last. -/
theorem interpolation_lands_on_path (path : Path α) (hepsilon : (0 : α) ≤ Scalar.epsilon)
    (hresolved : path.IsResolved) (hpoints : 2 ≤ path.points.length) (s : α) :
    ∃ (pose : Pose α) (place : path.Place), path.poseAt? s = some pose
      ∧ pose.position = place.position ∧ place.arcLength = min (max s 0) path.totalLength
      ∧ (0 < s → s ≤ path.totalLength → pose.yaw = place.heading ∧ 0 < place.fraction)
      ∧ (s ≤ 0 → path.points.head?.map PathPoint.pose = some pose)
      ∧ (path.totalLength < s → path.points.getLast?.map PathPoint.pose = some pose) := by
  have hnonneg := Path.totalLength_nonneg hepsilon hresolved
  rcases le_or_gt s 0 with hs | hs
  · obtain ⟨place, pose, hfirst, hposition, harc⟩ := Path.exists_place_first hpoints
    refine ⟨pose, place, (Path.poseAt?_of_nonpos hs).trans hfirst, hposition.symm, ?_,
      fun hpos => absurd hpos hs.not_gt, fun _ => hfirst,
      fun hpast => absurd (hs.trans hnonneg) hpast.not_ge⟩
    rw [harc, max_eq_right hs, min_eq_left hnonneg]
  rcases le_or_gt s path.totalLength with hle | hlt
  · obtain ⟨i, a, b, t, hsegment, hpos, hone, harc, hpose⟩ :=
      Path.poseAt?_of_le_totalLength hepsilon hresolved hs hle
    refine ⟨_, ⟨i, a, b, t, hsegment, hpos.le, hone⟩, hpose, rfl, ?_, fun _ _ => ⟨rfl, hpos⟩,
      fun hstart => absurd hs hstart.not_gt, fun hpast => absurd hle hpast.not_ge⟩
    rw [max_eq_left hs.le, min_eq_left hle, ← harc]
    rfl
  · obtain ⟨place, pose, hlast, hposition, harc⟩ := Path.exists_place_last hpoints
    refine ⟨pose, place, (Path.poseAt?_of_totalLength_lt hepsilon hresolved hlt).trans hlast,
      hposition.symm, ?_, fun _ hle => absurd hle hlt.not_ge,
      fun hstart => absurd hs hstart.not_gt, fun _ => hlast⟩
    rw [harc, max_eq_left hs.le, min_eq_right hlt.le]

/-- A way of five meters to the left, a stop on the spot and four meters straight ahead: at seven
meters two of the last four are behind, and at ten the path has ended. -/
theorem stop_interpolated_over :
    let path : Path ℚ := ⟨[⟨⟨⟨0, 0⟩, 1⟩, []⟩, ⟨⟨⟨3, 4⟩, 2⟩, []⟩, ⟨⟨⟨3, 4⟩, 3⟩, []⟩,
      ⟨⟨⟨7, 4⟩, 4⟩, []⟩]⟩
    (0 : ℚ) ≤ Scalar.epsilon ∧ path.IsResolved ∧ 2 ≤ path.points.length
      ∧ (∃ (pose : Pose ℚ) (place : path.Place), path.poseAt? 7 = some pose
        ∧ pose.position = place.position ∧ place.arcLength = 7 ∧ pose.yaw = place.heading)
      ∧ path.poseAt? 7 = some ⟨⟨5, 4⟩, 0⟩ ∧ path.poseAt? 10 = some ⟨⟨7, 4⟩, 4⟩ := by
  intro path
  have hepsilon : (0 : ℚ) ≤ Scalar.epsilon := by decide +kernel
  have hresolved : path.IsResolved := by decide +kernel
  have hpoints : 2 ≤ path.points.length := by decide
  have htotal : path.totalLength = 9 := by decide +kernel
  obtain ⟨pose, place, hpose, hposition, harc, hheads, -⟩ :=
    interpolation_lands_on_path path hepsilon hresolved hpoints 7
  obtain ⟨last, -, hlast, -, -, -, -, hends⟩ :=
    interpolation_lands_on_path path hepsilon hresolved hpoints 10
  rw [htotal] at harc hheads hends
  have hseven : place.arcLength = 7 := harc.trans (by decide)
  have hyaw := (hheads (by decide) (by decide)).1
  have hten : path.poseAt? 10 = some ⟨⟨7, 4⟩, 4⟩ := hlast.trans (hends (by decide)).symm
  exact ⟨hepsilon, hresolved, hpoints, ⟨pose, place, hpose, hposition, hseven, hyaw⟩,
    by decide +kernel, hten⟩

end DriveDecision
