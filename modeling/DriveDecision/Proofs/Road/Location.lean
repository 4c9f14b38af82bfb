import DriveDecision.Proofs.Number.Least
import Mathlib.Data.List.Range

/-!
# Proofs/Road/Location — the segment a pose is on

    point         0    1    2    3    4    5
    near               ✓    ✓         ✓             the points to choose from, or all if none is
    distance²     1    9    4    1    4    7        ──▸ point 2, the first of the nearest of these

    ── 1 ───────── 2 ───────── 3 ──
       └ segment 1 ┘ segment 2 ┘                   level with point 2 is still on segment 1

The points near a pose are looked through for the nearest, and all points if none is near
(`Path.candidates`); distances are compared by their squares.  As the points stand in path order,
the first one found is the one with the least index (`isFirstLeast_iff_of_pairwise`).  The pose is
on the segment that leads to this point or on the one that leads away from it, by where it projects
(`Path.IsAround`).
-/

namespace DriveDecision

/-- **The first of the least of some elements in the order of an index** is the least one whose
index is least. -/
theorem isFirstLeast_iff_of_pairwise {α β : Type} [Scalar α] [OrderedScalar α] {key : β → α}
    {index : β → Nat} {bs : List β} {b : β} (hkeys : ∀ c ∈ bs, Scalar.IsNumber (key c))
    (hsorted : bs.Pairwise fun c d => index c < index d) :
    IsFirstLeast key bs b
      ↔ b ∈ bs ∧ (∀ c ∈ bs, key b ≤ key c) ∧ ∀ c ∈ bs, index c < index b → key b < key c := by
  constructor
  · intro h
    refine ⟨h.mem, fun c hc => h.le (hkeys b h.mem) hc, ?_⟩
    obtain ⟨before, after, rfl, hbefore, -⟩ := h
    intro c hc hlt
    rcases List.mem_append.1 hc with hc | hc
    · exact hbefore c hc
    · rcases List.mem_cons.1 hc with rfl | hc
      · exact absurd hlt (Nat.lt_irrefl _)
      · have hafter := List.rel_of_pairwise_cons (List.pairwise_append.1 hsorted).2.1 hc
        exact absurd hlt (Nat.lt_asymm hafter)
  · rintro ⟨hmem, hle, hlt⟩
    obtain ⟨before, after, rfl⟩ := List.append_of_mem hmem
    refine ⟨before, after, rfl, fun c hc => ?_, fun c hc => hle c (by simp [hc])⟩
    have hbefore := (List.pairwise_append.1 hsorted).2.2 c hc b List.mem_cons_self
    exact hlt c (List.mem_append_left _ hc) hbefore

namespace Path

variable {α : Type} [Scalar α] {path : Path α} {near : Nearness α} {pose : Pose α}
  {point : PathPoint α} {p : Point α} {i k : Nat}

/-! ## The points to choose from -/

/-- **A point to choose from**: it is near the pose, unless none is. -/
def IsCandidate (path : Path α) (near : Nearness α) (pose : Pose α) (point : PathPoint α) : Prop :=
  (∃ other ∈ path.points, near.admits pose other = true) → near.admits pose point = true

/-- The points to choose from, with their indices. -/
def candidates (path : Path α) (near : Nearness α) (pose : Pose α) : List (PathPoint α × Nat) :=
  let admitted := path.indexed.filter fun q => near.admits pose q.1
  if admitted.isEmpty then path.indexed else admitted

omit [Scalar α] in
theorem mem_indexed_iff {q : PathPoint α × Nat} :
    q ∈ path.indexed ↔ path.points[q.2]? = some q.1 := List.mem_zipIdx_iff_getElem?

omit [Scalar α] in
theorem exists_mem_indexed_iff {P : PathPoint α → Prop} :
    (∃ q ∈ path.indexed, P q.1) ↔ ∃ point ∈ path.points, P point := by
  constructor
  · rintro ⟨q, hq, hP⟩
    exact ⟨q.1, List.mem_of_getElem? (mem_indexed_iff.1 hq), hP⟩
  · rintro ⟨point, hpoint, hP⟩
    obtain ⟨i, hi⟩ := List.mem_iff_getElem?.1 hpoint
    exact ⟨(point, i), mem_indexed_iff.2 hi, hP⟩

omit [Scalar α] in
theorem pairwise_indexed (path : Path α) : path.indexed.Pairwise fun q r => q.2 < r.2 := by
  refine List.pairwise_map.1 (?_ : (path.indexed.map Prod.snd).Pairwise (· < ·))
  rw [indexed, List.zipIdx_map_snd]
  exact List.pairwise_lt_range'

theorem mem_candidates_iff {q : PathPoint α × Nat} : q ∈ path.candidates near pose
    ↔ path.points[q.2]? = some q.1 ∧ path.IsCandidate near pose q.1 := by
  simp only [candidates, IsCandidate, ← exists_mem_indexed_iff, ← mem_indexed_iff]
  split_ifs with hnone
  · have hnot : ¬ ∃ r ∈ path.indexed, near.admits pose r.1 = true := by
      simpa [List.filter_eq_nil_iff] using hnone
    exact ⟨fun hq => ⟨hq, fun hsome => absurd hsome hnot⟩, And.left⟩
  · have hsome : ∃ r ∈ path.indexed, near.admits pose r.1 = true := by
      simpa [List.filter_eq_nil_iff] using hnone
    rw [List.mem_filter]
    exact and_congr_right fun _ => ⟨fun h _ => h, fun h => h hsome⟩

theorem pairwise_candidates (path : Path α) (near : Nearness α) (pose : Pose α) :
    (path.candidates near pose).Pairwise fun q r => q.2 < r.2 := by
  simp only [candidates]
  split_ifs
  · exact path.pairwise_indexed
  · exact path.pairwise_indexed.filter _

/-- Where all points are near, or none is, all are there to choose from. -/
theorem candidates_eq_indexed (h : (∀ point ∈ path.points, near.admits pose point = true)
    ∨ ∀ point ∈ path.points, near.admits pose point = false) :
    path.candidates near pose = path.indexed := by
  simp only [candidates]
  split_ifs with hnone
  · rfl
  · have hmem (q) (hq : q ∈ path.indexed) : q.1 ∈ path.points :=
      List.mem_of_getElem? (mem_indexed_iff.1 hq)
    rcases h with hall | hno
    · exact List.filter_eq_self.2 fun q hq => hall q.1 (hmem q hq)
    · refine absurd (List.isEmpty_iff.2 (List.filter_eq_nil_iff.2 fun q hq => ?_)) hnone
      exact Bool.not_eq_true _ ▸ hno q.1 (hmem q hq)

/-! ## The segment around a point -/

theorem nearestSegment?_eq : path.nearestSegment? p
    = (firstLeast? (fun q => q.1.pose.position.distanceSq p) path.indexed).map
      fun q => path.segmentAround q.2 p := by
  rw [nearestSegment?, nearestPoint?, Option.map_map]
  rfl

/-- **A pose is on the segment around the nearest of the points to choose from.** -/
theorem locate?_eq : path.locate? near pose
    = (firstLeast? (fun q => q.1.pose.position.distanceSq pose.position)
        (path.candidates near pose)).map fun q => path.segmentAround q.2 pose.position := by
  rw [locate?, candidates]
  cases hadmitted : path.indexed.filter fun q => near.admits pose q.1 with
  | nil => exact nearestSegment?_eq
  | cons q rest => rfl

/-- **Segment `i` is the one at point `k` on which `p` projects**: at the ends of the path there is
one only, and elsewhere `p` is on the one before the point unless it is strictly past it. -/
structure IsAround (path : Path α) (k i : Nat) (p : Point α) : Prop where
  eq_or_eq : k = i ∨ k = i + 1
  lt : i + 1 < path.points.length
  eq_zero : k = 0 → i = 0
  eq_last : k + 1 = path.points.length → i + 2 = path.points.length
  before : 0 < k → k + 1 < path.points.length → path.offsetOn k p ≤ 0 → i + 1 = k
  past : 0 < k → k + 1 < path.points.length → ¬ path.offsetOn k p ≤ 0 → i = k

theorem isAround_segmentAround (hpoints : 2 ≤ path.points.length) (hk : k < path.points.length) :
    path.IsAround k (path.segmentAround k p) p := by
  simp only [segmentAround]
  split_ifs with hstart hlast hbefore
  · constructor <;> intros <;> omega
  · constructor <;> intros <;> omega
  · exact ⟨by omega, by omega, by omega, by omega, fun _ _ _ => by omega,
      fun _ _ hpast => absurd hbefore hpast⟩
  · exact ⟨by omega, by omega, by omega, by omega, fun _ _ hle => absurd hle hbefore,
      fun _ _ _ => rfl⟩

/-! ## The nearest point -/

/-- **Point `k` is the first of the nearest** of the points to choose from. -/
structure IsNearest (path : Path α) (near : Nearness α) (pose : Pose α) (k : Nat)
    (point : PathPoint α) : Prop where
  getElem? : path.points[k]? = some point
  isCandidate : path.IsCandidate near pose point
  le : ∀ other ∈ path.points, path.IsCandidate near pose other →
    point.pose.position.distanceSq pose.position ≤ other.pose.position.distanceSq pose.position
  lt : ∀ j other, j < k → path.points[j]? = some other → path.IsCandidate near pose other →
    point.pose.position.distanceSq pose.position < other.pose.position.distanceSq pose.position

variable [OrderedScalar α]

section

variable (hdistances : ∀ point ∈ path.points,
  Scalar.IsNumber (point.pose.position.distanceSq pose.position))

include hdistances

/-- It is what a search for the first of the least finds among them. -/
theorem isNearest_iff : path.IsNearest near pose k point
    ↔ firstLeast? (fun q => q.1.pose.position.distanceSq pose.position)
        (path.candidates near pose) = some (point, k) := by
  have hnumbers : ∀ q ∈ path.candidates near pose,
      Scalar.IsNumber (q.1.pose.position.distanceSq pose.position) := fun q hq =>
    hdistances q.1 (List.mem_of_getElem? (mem_candidates_iff.1 hq).1)
  rw [firstLeast?_eq_some_iff hnumbers,
    isFirstLeast_iff_of_pairwise hnumbers (path.pairwise_candidates near pose)]
  constructor
  · rintro ⟨hget, hcandidate, hle, hlt⟩
    refine ⟨mem_candidates_iff.2 ⟨hget, hcandidate⟩, fun q hq => ?_, fun q hq hless => ?_⟩
    · obtain ⟨hq, hcandidate⟩ := mem_candidates_iff.1 hq
      exact hle q.1 (List.mem_of_getElem? hq) hcandidate
    · obtain ⟨hq, hcandidate⟩ := mem_candidates_iff.1 hq
      exact hlt q.2 q.1 hless hq hcandidate
  · rintro ⟨hmem, hle, hlt⟩
    obtain ⟨hget, hcandidate⟩ := mem_candidates_iff.1 hmem
    refine ⟨hget, hcandidate, fun other hother hcandidate => ?_,
      fun j other hj hget hcandidate => ?_⟩
    · obtain ⟨j, hj⟩ := List.mem_iff_getElem?.1 hother
      exact hle (other, j) (mem_candidates_iff.2 ⟨hj, hcandidate⟩)
    · exact hlt (other, j) (mem_candidates_iff.2 ⟨hget, hcandidate⟩) hj

/-- **Some point is the first of the nearest**, if there are points. -/
theorem exists_isNearest (near : Nearness α) (hpoints : path.points ≠ []) :
    ∃ k point, path.IsNearest near pose k point
      ∧ path.locate? near pose = some (path.segmentAround k pose.position) := by
  cases hleast : firstLeast? (fun q => q.1.pose.position.distanceSq pose.position)
      (path.candidates near pose) with
  | none =>
    refine absurd (locate?_eq_none_iff.1 (?_ : path.locate? near pose = none)) hpoints
    rw [locate?_eq, hleast, Option.map_none]
  | some q =>
    refine ⟨q.2, q.1, (isNearest_iff hdistances).2 hleast, ?_⟩
    rw [locate?_eq, hleast, Option.map_some]

/-- **…and only one is.** -/
theorem IsNearest.unique {other : PathPoint α} (h : path.IsNearest near pose k point)
    (h' : path.IsNearest near pose i other) : i = k := by
  rw [isNearest_iff hdistances] at h h'
  exact congrArg Prod.snd (Option.some.inj (h'.symm.trans h))

end

end Path

/-- **A pose is on the segment around the nearest point.**  On a path of two points or more, as long
as the squared distances are numbers: one point is the first of the nearest among those near the
pose, or among all if none is.  If any is near, it is one of those.  The pose is on a segment that
this point is an end of: the only one at either end of the path, and otherwise the one before the
point unless the pose projects strictly past it.  Where all points are near, or none is, this is the
segment the pose is on without regard to what is near. -/
theorem located_around_nearest_point {α : Type} [Scalar α] [OrderedScalar α] (path : Path α)
    (near : Path.Nearness α) (pose : Pose α) (hpoints : 2 ≤ path.points.length)
    (hdistances : ∀ point ∈ path.points,
      Scalar.IsNumber (point.pose.position.distanceSq pose.position)) :
    (∃ k point i, path.IsNearest near pose k point
        ∧ (∀ j other, path.IsNearest near pose j other → j = k)
        ∧ ((∃ other ∈ path.points, near.admits pose other = true) →
          near.admits pose point = true)
        ∧ path.locate? near pose = some i ∧ path.IsAround k i pose.position)
      ∧ ((∀ point ∈ path.points, near.admits pose point = true)
          ∨ (∀ point ∈ path.points, near.admits pose point = false) →
        path.locate? near pose = path.nearestSegment? pose.position) := by
  constructor
  · have hne : path.points ≠ [] := List.length_pos_iff.1 (by omega)
    obtain ⟨k, point, hnearest, hlocate⟩ := Path.exists_isNearest hdistances near hne
    have hk := (List.getElem?_eq_some_iff.1 hnearest.getElem?).1
    exact ⟨k, point, _, hnearest, fun j other h => hnearest.unique hdistances h,
      hnearest.isCandidate, hlocate, Path.isAround_segmentAround hpoints hk⟩
  · intro h
    rw [Path.locate?_eq, Path.nearestSegment?_eq, Path.candidates_eq_indexed h]

/-- Where a path doubles back, the point of the way out is found, though one of the way back is
nearer. -/
theorem way_out_located :
    let path : Path Float := ⟨[⟨⟨⟨0, 0⟩, 0⟩, []⟩, ⟨⟨⟨1, 0⟩, 0⟩, []⟩, ⟨⟨⟨2, 0⟩, 0⟩, []⟩,
      ⟨⟨⟨2, 0.5⟩, Scalar.pi⟩, []⟩, ⟨⟨⟨1, 0.5⟩, Scalar.pi⟩, []⟩, ⟨⟨⟨0, 0.5⟩, Scalar.pi⟩, []⟩]⟩
    let pose : Pose Float := ⟨⟨1.2, 0.4⟩, 0⟩
    2 ≤ path.points.length
      ∧ (∀ point ∈ path.points,
        Scalar.IsNumber (point.pose.position.distanceSq pose.position))
      ∧ path.locate? ⟨3, 1⟩ pose = some 1 ∧ path.nearestSegment? pose.position = some 3
      ∧ ∃ k point, path.IsNearest ⟨3, 1⟩ pose k point ∧ point.pose.yaw = 0
        ∧ path.IsAround k 1 pose.position := by
  intro path pose
  have hpoints : 2 ≤ path.points.length := by decide
  have hdistances : ∀ point ∈ path.points,
      Scalar.IsNumber (point.pose.position.distanceSq pose.position) := by decide +kernel
  have hlocate : path.locate? ⟨3, 1⟩ pose = some 1 := by decide +kernel
  have hnear : ∃ other ∈ path.points, Path.Nearness.admits ⟨3, 1⟩ pose other = true := by
    decide +kernel
  have hyaws : ∀ point ∈ path.points,
      Path.Nearness.admits ⟨3, 1⟩ pose point = true → point.pose.yaw = 0 := by decide +kernel
  obtain ⟨⟨k, point, i, hnearest, -, hadmits, hlocate', haround⟩, -⟩ :=
    located_around_nearest_point path ⟨3, 1⟩ pose hpoints hdistances
  obtain rfl : 1 = i := Option.some.inj (hlocate.symm.trans hlocate')
  exact ⟨hpoints, hdistances, hlocate, by decide +kernel, k, point, hnearest,
    hyaws point (List.mem_of_getElem? hnearest.getElem?) (hadmits hnear), haround⟩

end DriveDecision
