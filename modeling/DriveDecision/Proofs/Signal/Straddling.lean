import DriveDecision.Proofs.Plane.Parallelogram
import DriveDecision.Proofs.Signal.Swerving

/-!
# Proofs/Signal/Straddling — a shift straddles a bound when the vehicle would cover a point of it

    ─────────────────●──────── bound         the pose's own frame:
            b ──────╱─── a
            │   ▸▸ ╱     │                   −rear ≤ x ≤ front
            c ─────────── d                  −halfWidth ≤ y ≤ halfWidth
              at a pose of the shift

The vehicle's outline is a rectangle in the frame of its pose (`Pose.own`), and placing it in the
map keeps sides (`side_place`), so it is a parallelogram there and what it encloses is what the
vehicle covers (`covers_iff_encloses`).  The rest is `IsParallelogram.touches_iff`, once for each
bound and each pose.
-/

namespace DriveDecision

open DriveDecision.Polygon DriveDecision.Segment

variable {α : Type} [ExactScalar α]

/-! ## The pose's own frame -/

namespace Pose

variable {pose : Pose α}

/-- **The coordinates of a point of the map in the pose's own frame**: along the heading, and to the
left of it. -/
def own (pose : Pose α) (q : Point α) : Point α :=
  ⟨pose.heading.dot (q - pose.position), pose.heading.cross (q - pose.position)⟩

/-- Placing turns by the heading and moves by the position. -/
theorem place_x (pose : Pose α) (p : Point α) :
    (pose.place p).x = pose.position.x + (pose.heading.x * p.x - pose.heading.y * p.y) := rfl

theorem place_y (pose : Pose α) (p : Point α) :
    (pose.place p).y = pose.position.y + (pose.heading.y * p.x + pose.heading.x * p.y) := rfl

/-- **With a unit heading, a point is where its own coordinates place it.** -/
theorem place_own (hunit : pose.heading.dot pose.heading = 1) (q : Point α) :
    pose.place (pose.own q) = q := by
  rw [Point.dot] at hunit
  ext
  · simp only [place_x, own, Point.dot, Point.cross, Point.sub_x, Point.sub_y]
    linear_combination (q.x - pose.position.x) * hunit
  · simp only [place_y, own, Point.dot, Point.cross, Point.sub_x, Point.sub_y]
    linear_combination (q.y - pose.position.y) * hunit

/-- **Placing keeps sides.** -/
theorem side_place (hunit : pose.heading.dot pose.heading = 1) (a b p : Point α) :
    side (pose.place a) (pose.place b) (pose.place p) = side a b p := by
  rw [Point.dot] at hunit
  simp only [side_def, place_x, place_y]
  linear_combination ((b.x - a.x) * (p.y - a.y) - (b.y - a.y) * (p.x - a.x)) * hunit

/-- A placed outline encloses what the outline encloses in the pose's own frame. -/
theorem encloses_map_place (hunit : pose.heading.dot pose.heading = 1) (corners : List (Point α))
    (q : Point α) : Encloses (corners.map pose.place) q ↔ Encloses corners (pose.own q) := by
  have hside (a b : Point α) : side (pose.place a) (pose.place b) q = side a b (pose.own q) := by
    rw [← side_place hunit a b (pose.own q), place_own hunit]
  simp only [Encloses, edges_map, List.forall_mem_map, Prod.map_fst, Prod.map_snd, hside]

/-- A placed parallelogram is one. -/
theorem isParallelogram_place (hunit : pose.heading.dot pose.heading = 1) {a b c d : Point α}
    (h : IsParallelogram a b c d) :
    IsParallelogram (pose.place a) (pose.place b) (pose.place c) (pose.place d) where
  x_eq := by
    simp only [place_x]
    linear_combination pose.heading.x * h.x_eq - pose.heading.y * h.y_eq
  y_eq := by
    simp only [place_y]
    linear_combination pose.heading.y * h.x_eq + pose.heading.x * h.y_eq
  area_pos := (side_place hunit ..).symm ▸ h.area_pos

end Pose

/-! ## What the vehicle covers -/

namespace Vehicle

variable {vehicle : Vehicle α} {pose : Pose α} {q : Point α}

/-- **The vehicle at `pose` covers `q`**: in the pose's own frame, `q` is in the closed rectangle
around the vehicle. -/
def Covers (vehicle : Vehicle α) (pose : Pose α) (q : Point α) : Prop :=
  (-vehicle.rear ≤ (pose.own q).x ∧ (pose.own q).x ≤ vehicle.front)
    ∧ -vehicle.halfWidth ≤ (pose.own q).y ∧ (pose.own q).y ≤ vehicle.halfWidth

section

variable (hlength : 0 < vehicle.front + vehicle.rear) (hwidth : 0 < vehicle.halfWidth)

include hlength hwidth

theorem isParallelogram_corners :
    IsParallelogram (⟨vehicle.front, vehicle.halfWidth⟩ : Point α)
      ⟨-vehicle.rear, vehicle.halfWidth⟩ ⟨-vehicle.rear, -vehicle.halfWidth⟩
      ⟨vehicle.front, -vehicle.halfWidth⟩ where
  x_eq := add_comm _ _
  y_eq := rfl
  area_pos := by
    rw [side_def]
    linear_combination 2 * mul_pos hlength hwidth

/-- **The outline encloses what the vehicle covers.** -/
theorem covers_iff_encloses (hunit : pose.heading.dot pose.heading = 1) :
    vehicle.Covers pose q ↔ Encloses (vehicle.cornersAt pose) q := by
  have hwidth' : 0 < 2 * vehicle.halfWidth := mul_pos two_pos hwidth
  rw [cornersAt, Pose.encloses_map_place hunit, Covers]
  generalize pose.own q = p
  have hleft : side ⟨vehicle.front, vehicle.halfWidth⟩ ⟨-vehicle.rear, vehicle.halfWidth⟩ p
      = (vehicle.front + vehicle.rear) * (vehicle.halfWidth - p.y) := by rw [side_def]; ring
  have hback : side ⟨-vehicle.rear, vehicle.halfWidth⟩ ⟨-vehicle.rear, -vehicle.halfWidth⟩ p
      = 2 * vehicle.halfWidth * (p.x - -vehicle.rear) := by rw [side_def]; ring
  have hright : side ⟨-vehicle.rear, -vehicle.halfWidth⟩ ⟨vehicle.front, -vehicle.halfWidth⟩ p
      = (vehicle.front + vehicle.rear) * (p.y - -vehicle.halfWidth) := by rw [side_def]; ring
  have hfront : side ⟨vehicle.front, -vehicle.halfWidth⟩ ⟨vehicle.front, vehicle.halfWidth⟩ p
      = 2 * vehicle.halfWidth * (vehicle.front - p.x) := by rw [side_def]; ring
  simp only [Encloses, corners, edges_four, List.forall_mem_cons, hleft, hback, hright, hfront,
    mul_nonneg_iff_of_pos_left hlength, mul_nonneg_iff_of_pos_left hwidth', sub_nonneg]
  constructor
  · rintro ⟨⟨hrear, hfront⟩, hright, hleft⟩
    exact ⟨hleft, hrear, hright, hfront, fun e he => absurd he List.not_mem_nil⟩
  · rintro ⟨hleft, hrear, hright, hfront, -⟩
    exact ⟨⟨hrear, hfront⟩, hright, hleft⟩

/-- **A line touches the outline when the vehicle covers a point of it.** -/
theorem touches_cornersAt_iff [LawfulBEq α] {line : List (Point α)}
    (hunit : pose.heading.dot pose.heading = 1) (hline : line.length ≠ 1) :
    touches (vehicle.cornersAt pose) line = true
      ↔ ∃ q, Polyline.Through line q ∧ vehicle.Covers pose q := by
  simp only [covers_iff_encloses hlength hwidth hunit]
  have hcorners := isParallelogram_corners hlength hwidth
  exact (Pose.isParallelogram_place hunit hcorners).touches_iff hline

end

end Vehicle

/-! ## The poses of a shift -/

omit [ExactScalar α] in
/-- The poses of a shift are those of the path's points from its start up to, and without, its
end. -/
theorem Shift.mem_poses_iff {shift : Shift α} {path : Path α} {pose : Pose α} :
    pose ∈ shift.poses path ↔ ∃ i point, shift.startIndex ≤ i
      ∧ i < min shift.endIndex path.points.length ∧ path.points[i]? = some point
      ∧ point.pose = pose := by
  rw [Shift.poses, List.mem_map]
  constructor
  · rintro ⟨point, hmem, rfl⟩
    obtain ⟨k, hk⟩ := List.mem_iff_getElem?.1 hmem
    rw [List.getElem?_drop, List.getElem?_take, Option.ite_none_right_eq_some] at hk
    obtain ⟨hend, hpoint⟩ := hk
    exact ⟨_, point, Nat.le_add_right _ k,
      lt_min hend (List.getElem?_eq_some_iff.1 hpoint).1, hpoint, rfl⟩
  · rintro ⟨i, point, hstart, hend, hpoint, rfl⟩
    refine ⟨point, List.mem_iff_getElem?.2 ⟨i - shift.startIndex, ?_⟩, rfl⟩
    rw [List.getElem?_drop, Nat.add_sub_cancel' hstart,
      List.getElem?_take_of_lt (lt_min_iff.1 hend).1, hpoint]

/-- **Straddling is geometrically exact.**  Over the reals, or any exact scalars that are equal when
they compare equal, a shift straddles a bound exactly when, at one of its poses, the vehicle would
cover a point of the left or right bound of one of the lanes: inside, on an edge or at a corner
alike. -/
theorem straddles_iff_bound_covered [LawfulBEq α] (shift : Shift α) (path : Path α)
    (lanes : List (Lane α)) (vehicle : Vehicle α) (hlength : 0 < vehicle.front + vehicle.rear)
    (hwidth : 0 < vehicle.halfWidth)
    (hunit : ∀ point ∈ path.points, point.pose.heading.dot point.pose.heading = 1)
    (hbounds : ∀ lane ∈ lanes, lane.leftBound.length ≠ 1 ∧ lane.rightBound.length ≠ 1) :
    shift.straddles path lanes vehicle = true ↔
      ∃ i point, shift.startIndex ≤ i ∧ i < min shift.endIndex path.points.length
        ∧ path.points[i]? = some point ∧ ∃ lane ∈ lanes, ∃ q,
          (Polyline.Through lane.leftBound q ∨ Polyline.Through lane.rightBound q)
            ∧ vehicle.Covers point.pose q := by
  simp only [Shift.straddles, List.any_eq_true, Bool.or_eq_true]
  constructor
  · rintro ⟨lane, hlane, pose, hpose, htouches⟩
    obtain ⟨i, point, hstart, hend, hpoint, rfl⟩ := Shift.mem_poses_iff.1 hpose
    have hunit := hunit point (List.mem_of_getElem? hpoint)
    refine ⟨i, point, hstart, hend, hpoint, lane, hlane, ?_⟩
    rcases htouches with h | h
    · rw [Vehicle.touches_cornersAt_iff hlength hwidth hunit (hbounds lane hlane).1] at h
      exact h.imp fun q hq => hq.imp_left .inl
    · rw [Vehicle.touches_cornersAt_iff hlength hwidth hunit (hbounds lane hlane).2] at h
      exact h.imp fun q hq => hq.imp_left .inr
  · rintro ⟨i, point, hstart, hend, hpoint, lane, hlane, q, hq, hcovers⟩
    have hunit := hunit point (List.mem_of_getElem? hpoint)
    refine ⟨lane, hlane, point.pose,
      Shift.mem_poses_iff.2 ⟨i, point, hstart, hend, hpoint, rfl⟩, ?_⟩
    rw [Vehicle.touches_cornersAt_iff hlength hwidth hunit (hbounds lane hlane).1,
      Vehicle.touches_cornersAt_iff hlength hwidth hunit (hbounds lane hlane).2]
    exact hq.imp (fun h => ⟨q, h, hcovers⟩) fun h => ⟨q, h, hcovers⟩

/-- A vehicle as wide as the lane straddles its bounds without going past them, and a passenger car
does not. -/
theorem wide_vehicle_straddles :
    let request : ShiftRequest ℚ := .leftward 2 3
    let lane : Lane ℚ := .between 10 [⟨-10, 2⟩, ⟨60, 2⟩] [⟨-10, -2⟩, ⟨60, -2⟩] .none
    let wide : Vehicle ℚ := { Vehicle.standard with halfWidth := 2 }
    0 < wide.front + wide.rear ∧ 0 < wide.halfWidth
      ∧ (∀ point ∈ request.path.points, point.pose.heading.dot point.pose.heading = 1)
      ∧ lane.leftBound.length ≠ 1 ∧ lane.rightBound.length ≠ 1
      ∧ request.shift.straddles request.path [lane] wide = true
      ∧ request.shift.straddles request.path [lane] .standard = false := by
  intro request lane wide
  have hlength : 0 < wide.front + wide.rear := by decide +kernel
  have hwidth : 0 < wide.halfWidth := by decide +kernel
  have hunit : ∀ point ∈ request.path.points, point.pose.heading.dot point.pose.heading = 1 := by
    decide +kernel
  have hbounds : ∀ bounded ∈ [lane],
      bounded.leftBound.length ≠ 1 ∧ bounded.rightBound.length ≠ 1 := by decide +kernel
  have hon : Polyline.Through lane.leftBound ⟨20, 2⟩ :=
    ⟨_, List.mem_cons_self, 3 / 7, by decide +kernel, by decide +kernel, by decide +kernel⟩
  have hcovers : wide.Covers ⟨⟨20.0, 0⟩, 0⟩ ⟨20, 2⟩ := by
    rw [Vehicle.Covers]
    decide +kernel
  refine ⟨hlength, hwidth, hunit, (hbounds lane List.mem_cons_self).1,
    (hbounds lane List.mem_cons_self).2, ?_, by decide +kernel⟩
  rw [straddles_iff_bound_covered _ _ _ _ hlength hwidth hunit hbounds]
  exact ⟨2, _, by decide, by decide, rfl, lane, List.mem_cons_self, ⟨20, 2⟩, .inl hon, hcovers⟩

end DriveDecision
