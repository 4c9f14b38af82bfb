import Mathlib.Algebra.Order.BigOperators.Group.List
import DriveDecision.Proofs.Number.Exact
import DriveDecision.Road.Path

/-!
# Proofs/Road/ArcLength — what lies at an arc length

    points     p₀ ────── p₁ ── p₂ ═ p₃ ──────── p₄
    arc         0        a₁    a₂ = a₃          a₄

Without rounding, arc lengths grow from point to point, and the pose at an arc length is a point of
the path that far from its start (`Path.Reaches`).  A segment too short to have a direction is never
landed on: it must have no length at all (`Path.IsResolved`), and then it ends where it begins.
-/

namespace DriveDecision

variable {α : Type} [ExactScalar α]

namespace Path

/-- **The segments are told apart from nothing**: each has a length above the least that counts, or
none at all. -/
def IsResolved (path : Path α) : Prop :=
  ∀ segment ∈ path.segments, segmentLength segment = 0 ∨ Scalar.epsilon < segmentLength segment

instance (path : Path α) : Decidable path.IsResolved :=
  inferInstanceAs (Decidable (∀ segment ∈ path.segments,
    segmentLength segment = 0 ∨ Scalar.epsilon < segmentLength segment))

/-- **The points of a path**, each with an arc length it is reached at: a vertex, or a point some
fraction along a segment. -/
inductive Reaches (path : Path α) : α → Point α → Prop
  | vertex {i : Nat} {point : PathPoint α} (h : path.points[i]? = some point) :
    Reaches path (path.arcLengthTo i) point.pose.position
  | along {i : Nat} {a b : Pose α} {t : α} (h : path.segments[i]? = some (a, b)) (hpos : 0 ≤ t)
    (hle : t ≤ 1) :
    Reaches path (path.arcLengthTo i + t * segmentLength (a, b)) (a.position.lerp b.position t)

variable {path : Path α} {segments : List (Pose α × Pose α)} {i j : Nat}

@[simp] theorem arcLengthTo_zero (path : Path α) : path.arcLengthTo 0 = 0 := rfl

theorem arcLengthTo_eq (path : Path α) (i : Nat) :
    path.arcLengthTo i = ((path.segments.take i).map segmentLength).sum := Scalar.sum_eq _

/-- The whole path is as long as all its segments. -/
theorem totalLength_eq (path : Path α) :
    path.totalLength = (path.segments.map segmentLength).sum := by
  rw [totalLength, arcLengthTo_eq, List.take_of_length_le (length_segments path).le]

section

variable (hepsilon : (0 : α) ≤ Scalar.epsilon) (hresolved : path.IsResolved)

include hepsilon hresolved

/-! ## Arc lengths grow -/

theorem segmentLength_nonneg {segment : Pose α × Pose α} (h : segment ∈ path.segments) :
    0 ≤ segmentLength segment := Scalar.nonneg_of_resolved hepsilon (hresolved segment h)

/-- **Arc lengths grow from point to point.** -/
theorem arcLengthTo_mono (hij : i ≤ j) : path.arcLengthTo i ≤ path.arcLengthTo j := by
  rw [arcLengthTo_eq, arcLengthTo_eq]
  refine ((List.take_sublist_take_left hij).map segmentLength).sum_le_sum fun length hlength => ?_
  obtain ⟨segment, hsegment, rfl⟩ := List.mem_map.1 hlength
  exact segmentLength_nonneg hepsilon hresolved (List.mem_of_mem_take hsegment)

theorem arcLengthTo_nonneg : 0 ≤ path.arcLengthTo i :=
  arcLengthTo_mono hepsilon hresolved (Nat.zero_le i)

theorem arcLengthTo_le_totalLength : path.arcLengthTo i ≤ path.totalLength := by
  rcases le_total i (path.points.length - 1) with hi | hi
  · exact arcLengthTo_mono hepsilon hresolved hi
  · exact (arcLengthTo_of_le (Nat.le_add_of_sub_le hi)).le

end

/-! ## The pose at an arc length -/

/-- **The walk stops on the segment where the length behind first reaches `s`**, at that fraction of
it: it is not past `s` before, since a segment that is passed over without regard to its end has no
length. -/
theorem poseAlong_of_le_sum (hepsilon : (0 : α) ≤ Scalar.epsilon) {s behind : α} (last : Pose α)
    (hresolved : ∀ segment ∈ segments,
      segmentLength segment = 0 ∨ Scalar.epsilon < segmentLength segment)
    (hbehind : behind < s) (hle : s ≤ behind + (segments.map segmentLength).sum) :
    ∃ i a b t, segments[i]? = some (a, b) ∧ 0 < t ∧ t ≤ 1
      ∧ behind + ((segments.take i).map segmentLength).sum + t * segmentLength (a, b) = s
      ∧ poseAlong s last behind segments
        = ⟨a.position.lerp b.position t, a.position.azimuth b.position⟩ := by
  induction segments generalizing behind with
  | nil =>
    rw [List.map_nil, List.sum_nil, add_zero] at hle
    exact absurd hbehind hle.not_gt
  | cons segment rest ih =>
    obtain ⟨a, b⟩ := segment
    obtain ⟨hfirst, hrest⟩ := List.forall_mem_cons.1 hresolved
    rw [List.map_cons, List.sum_cons, ← add_assoc] at hle
    by_cases hlands : s ≤ behind + segmentLength (a, b) ∧ Scalar.epsilon < segmentLength (a, b)
    · have hlength : 0 < segmentLength (a, b) := hepsilon.trans_lt hlands.2
      obtain ⟨h0, h1⟩ := Scalar.fraction_of_landed hlength hbehind hlands.1
      refine ⟨0, a, b, (s - behind) / segmentLength (a, b), rfl, h0, h1, ?_, if_pos hlands⟩
      rw [List.take_zero, List.map_nil, List.sum_nil, add_zero, div_mul_cancel₀ _ hlength.ne',
        add_sub_cancel]
    · have hpast := Scalar.add_lt_of_passed hfirst hbehind hlands
      obtain ⟨i, c, d, t, hget, hpos, hone, hsum, hpose⟩ := ih hrest hpast hle
      refine ⟨i + 1, c, d, t, hget, hpos, hone, ?_, (if_neg hlands).trans hpose⟩
      rw [List.take_succ_cons, List.map_cons, List.sum_cons, ← add_assoc, hsum]

variable {s : α} {pose : Pose α}

/-- Up to the start of the path it is the pose of its first point. -/
theorem poseAt?_of_nonpos (hs : s ≤ 0) : path.poseAt? s = path.points.head?.map (·.pose) := by
  rcases path with ⟨points⟩
  cases points with
  | nil => rfl
  | cons first rest => simp [poseAt?, List.getLast?_cons, hs]

/-- Past the start it is found by walking along the segments. -/
theorem poseAt?_of_pos (hs : 0 < s) : path.poseAt? s
    = path.points.getLast?.map fun last => poseAlong s last.pose 0 path.segments := by
  rcases path with ⟨points⟩
  cases points with
  | nil => rfl
  | cons first rest => simp [poseAt?, List.getLast?_cons, hs.not_ge]

section

variable (hepsilon : (0 : α) ≤ Scalar.epsilon) (hresolved : path.IsResolved)

include hepsilon hresolved

/-- **Along the path it lies on a segment, and heads as that does.** -/
theorem poseAt?_of_le_totalLength (hs : 0 < s) (hle : s ≤ path.totalLength) :
    ∃ i a b t, path.segments[i]? = some (a, b) ∧ 0 < t ∧ t ≤ 1
      ∧ path.arcLengthTo i + t * segmentLength (a, b) = s
      ∧ path.poseAt? s = some ⟨a.position.lerp b.position t, a.position.azimuth b.position⟩ := by
  rw [totalLength_eq] at hle
  cases hlast : path.points.getLast? with
  | none =>
    have hnone : path.segments = [] := by
      rw [segments, List.getLast?_eq_none_iff.1 hlast]
      rfl
    rw [hnone, List.map_nil, List.sum_nil] at hle
    exact absurd hs hle.not_gt
  | some last =>
    obtain ⟨i, a, b, t, hget, hpos, hone, hsum, hpose⟩ :=
      poseAlong_of_le_sum hepsilon last.pose hresolved hs (hle.trans_eq (zero_add _).symm)
    refine ⟨i, a, b, t, hget, hpos, hone, ?_, ?_⟩
    · rw [arcLengthTo_eq, ← hsum, zero_add]
    · rw [poseAt?_of_pos hs, hlast, Option.map_some, hpose]

/-- **The pose at an arc length is a point of the path at that arc length**, or its first point. -/
theorem reaches_poseAt? (h : path.poseAt? s = some pose) (hle : s ≤ path.totalLength) :
    path.Reaches (max 0 s) pose.position := by
  rcases le_or_gt s 0 with hs | hs
  · rw [poseAt?_of_nonpos hs, List.head?_eq_getElem?, Option.map_eq_some_iff] at h
    obtain ⟨first, hfirst, rfl⟩ := h
    rw [max_eq_left hs, ← path.arcLengthTo_zero]
    exact .vertex hfirst
  · obtain ⟨i, a, b, t, hget, hpos, hone, hsum, hpose⟩ :=
      poseAt?_of_le_totalLength hepsilon hresolved hs hle
    obtain rfl := Option.some.inj (h.symm.trans hpose)
    rw [max_eq_right hs.le, ← hsum]
    exact .along hget hpos.le hone

end

end Path

end DriveDecision
