import DriveDecision.Proofs.Access.Centerlines
import DriveDecision.Proofs.Access.Distances

/-!
# Proofs/Road/Positions — a path measures as the line of its positions

    path         (p₀, ψ₀) ── (p₁, ψ₁) ── (p₂, ψ₂)        poses, by index
    positions     p₀ ──────── p₁ ──────── p₂             points, two in a row

A path and the polyline of its positions add up the same lengths in the same order, and what lies at
an arc length is found by the same comparisons.  So nothing has to be known about the scalars: the
two agree to the last bit, where lengths overflow and where nothing compares.
-/

namespace DriveDecision

namespace Path

variable {α : Type} [Scalar α] {s done : α}

/-! ## Lengths -/

omit [Scalar α] in
/-- The segments join the positions that follow each other. -/
theorem consecutive_positions (path : Path α) :
    consecutive path.positions = path.segments.map (Prod.map Pose.position Pose.position) := by
  rw [segments, ← consecutive_map, List.map_map]
  rfl

/-- **A path is as long as the line of its positions.** -/
theorem totalLength_eq_length (path : Path α) :
    path.totalLength = Polyline.length path.positions := by
  rw [totalLength, arcLengthTo, List.take_of_length_le (length_segments path).le, Polyline.length,
    consecutive_positions, List.map_map]
  rfl

/-! ## What lies at an arc length -/

/-- Walking along the poses, one walks along their positions. -/
theorem position_poseAlong {here last : Pose α} {rest : List (Pose α)}
    (hlast : (here :: rest).getLast? = some last) :
    (poseAlong s last done (consecutive (here :: rest))).position
      = Polyline.walk s done here.position (rest.map Pose.position) := by
  induction rest generalizing here done with
  | nil =>
    obtain rfl := Option.some.inj hlast
    rfl
  | cons next rest ih =>
    have hsegments :
        consecutive (here :: next :: rest) = (here, next) :: consecutive (next :: rest) := rfl
    rw [hsegments, poseAlong, List.map_cons, Polyline.walk, segmentLength]
    split_ifs with hlands
    · rfl
    · exact ih hlast

/-- **The pose at an arc length is at the point of the positions there.** -/
theorem map_position_poseAt? (path : Path α) (s : α) :
    (path.poseAt? s).map Pose.position = Polyline.at? path.positions s := by
  rcases path with ⟨_ | ⟨first, rest⟩⟩
  · rfl
  · obtain ⟨last, hlast⟩ : ∃ last, (first :: rest).getLast? = some last := ⟨_, List.getLast?_cons⟩
    have hposes : (first.pose :: rest.map PathPoint.pose).getLast? = some last.pose := by
      rw [← List.map_cons, List.getLast?_map, hlast, Option.map_some]
    have hwalk : (poseAlong s last.pose 0 _).position = _ := position_poseAlong hposes
    simp only [poseAt?, List.head?_cons, hlast, Option.map_some, positions, List.map_cons,
      Polyline.at?, segments]
    split_ifs
    · rfl
    · rw [hwalk, List.map_map]
      rfl

end Path

/-- **A path measures as the line of its positions.**  At every arc length, be it a number or not,
there is a pose exactly if the positions have a point there, and that is its position; this is so
too when the path is read by index and its positions two in a row.  Both are equally long.  An arc
length grows by one segment from each point to the next, and from the last one on it stays. -/
theorem path_measures_as_polyline {α : Type} [Scalar α] (path : Path α) :
    (∀ s, (path.poseAt? s = none ↔ Polyline.at? path.positions s = none)
        ∧ (path.poseAt? s).map Pose.position = Polyline.at? path.positions s
        ∧ Option.map Pose.position <$> Indexed.poseAt? path s
          = Indexed.pointAt? path.positions s)
      ∧ path.totalLength = Polyline.length path.positions
      ∧ (∀ i, i + 1 < path.points.length → ∃ a b, path.position? i = some a
          ∧ path.position? (i + 1) = some b
          ∧ path.arcLengthTo (i + 1) = path.arcLengthTo i + a.distance b)
      ∧ ∀ i, path.points.length ≤ i + 1 → path.arcLengthTo i = path.totalLength := by
  refine ⟨fun s => ⟨?_, path.map_position_poseAt? s, ?_⟩, path.totalLength_eq_length, ?_,
    fun i => Path.arcLengthTo_of_le⟩
  · rw [← path.map_position_poseAt? s, Option.map_eq_none_iff]
  · rw [Indexed.poseAt?_eq, Indexed.pointAt?_eq, map_pure, path.map_position_poseAt? s]
  · intro i hi
    obtain ⟨p, q, hp, hq, hsegment⟩ := Path.getElem?_segments_of_lt hi
    refine ⟨p.pose.position, q.pose.position, ?_, ?_, Path.arcLengthTo_succ hsegment⟩
    · rw [Path.position?, hp, Option.map_some]
    · rw [Path.position?, hq, Option.map_some]

end DriveDecision
