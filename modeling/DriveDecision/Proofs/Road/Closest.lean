import DriveDecision.Proofs.Number.Least
import DriveDecision.Proofs.Road.Neighbors

/-!
# Proofs/Road/Closest — the lane of the route that a point is on

    route      4      9      2      7      5
    known      a      –      b      c      d
    contains                 ✓             ✓      ──▸ 2, however near the others are
    distance   8.0           3.5    1.2    1.2    ──▸ 7, if none contains the point

The lanes of the route that the map knows are looked at in route order.  The first one around the
point is taken, and without any the first of the nearest (`IsFirstLeast`).  Distances compare
whatever the coordinates are: what cannot be measured is left out of them, and what is left is a
number (`Lane.isLeastNumber_distanceTo`).
-/

namespace DriveDecision

/-! ## Distances to a lane -/

/-- The distances from a point to the edges of a lane's centerline. -/
def Lane.clearances {α : Type} [Scalar α] (lane : Lane α) (p : Point α) : List α :=
  (consecutive lane.centerline).map fun (a, b) => p.distance (footOn p a b)

/-- **The distance to a lane is the least of those that are numbers**, and never more than the
greatest double. -/
theorem Lane.isLeastNumber_distanceTo (lane : Lane Float) (p : Point Float) :
    IsLeastNumber (Scalar.greatest :: lane.clearances p) (lane.distanceTo p) :=
  Double.isLeastNumber_foldl_min (Double.isNumber_iff.2 (by decide +kernel)) _

/-- A centerline without an edge is as far as can be. -/
theorem Lane.distanceTo_of_length_lt {α : Type} [Scalar α] {lane : Lane α} (p : Point α)
    (h : lane.centerline.length < 2) : lane.distanceTo p = Scalar.greatest := by
  have hnone : consecutive lane.centerline = [] :=
    List.length_eq_zero_iff.1 (by rw [length_consecutive]; omega)
  rw [Lane.distanceTo, hnone]
  rfl

/-! ## The lanes of the route -/

namespace Network

variable {α : Type} [Scalar α] {edits : List (Edit α)} {id : LaneId} {lane : Lane α}

/-- **A map finds a lane under its own number.** -/
theorem id_of_lane?_built (h : (built edits).lane? id = some lane) : lane.id = id := by
  induction edits using List.reverseRecOn with
  | nil => cases h
  | append_singleton edits edit ih =>
    rw [built_concat] at h
    cases edit with
    | insert added =>
      rw [lane?, edited, insert, lookup_cons_eq_ite] at h
      split_ifs at h with hid
      · rw [hid, Option.some.inj h]
      · exact ih h
    | leftNeighbor id other => exact ih h
    | leftOpposite id other => exact ih h
    | rightOpposite id other => exact ih h
    | route route start => exact ih h

/-- The known lanes of the route are those that the map finds under its numbers. -/
theorem mem_routeLanes_built :
    lane ∈ (built edits).routeLanes
      ↔ lane.id ∈ (built edits).route ∧ (built edits).lane? lane.id = some lane := by
  rw [routeLanes, List.mem_filterMap]
  constructor
  · rintro ⟨id, hid, hlane⟩
    rw [id_of_lane?_built hlane]
    exact ⟨hid, hlane⟩
  · rintro ⟨hid, hlane⟩
    exact ⟨lane.id, hid, hlane⟩

omit [Scalar α] in
theorem routeLanes_ne_nil_iff {net : Network α} :
    net.routeLanes ≠ [] ↔ ∃ id ∈ net.route, (net.lane? id).isSome = true := by
  simp [routeLanes, List.filterMap_eq_nil_iff, Option.isSome_iff_ne_none]

variable {net : Network α} {p : Point α}

/-- A lane around the point goes before the nearest. -/
theorem closestOnRoute?_eq : net.closestOnRoute? p
    = ((net.routeLanes.find? (·.contains p)).or
        (firstLeast? (·.distanceTo p) net.routeLanes)).map (·.id) := by
  rw [closestOnRoute?]
  cases net.routeLanes.find? (·.contains p) <;> rfl

/-- **Some lane is found unless none is known.** -/
theorem isSome_closestOnRoute?_iff :
    (net.closestOnRoute? p).isSome = true ↔ ∃ id ∈ net.route, (net.lane? id).isSome = true := by
  rw [← routeLanes_ne_nil_iff, Option.isSome_iff_ne_none, Ne, closestOnRoute?_eq,
    Option.map_eq_none_iff, Option.or_eq_none_iff, firstLeast?_eq_none_iff, not_iff_not]
  exact ⟨And.right, fun hnil => ⟨by rw [hnil, List.find?_nil], hnil⟩⟩

/-- **Which lane is found**: the first around the point, or else the first of the nearest. -/
theorem closestOnRoute?_eq_some_iff [OrderedScalar α]
    (hdistances : ∀ lane ∈ net.routeLanes, Scalar.IsNumber (lane.distanceTo p)) :
    net.closestOnRoute? p = some id ↔ ∃ lane, (IsFirstWith (·.contains p) net.routeLanes lane
        ∨ (∀ other ∈ net.routeLanes, other.contains p = false)
          ∧ IsFirstLeast (·.distanceTo p) net.routeLanes lane) ∧ lane.id = id := by
  simp only [closestOnRoute?_eq, Option.map_eq_some_iff, Option.or_eq_some_iff,
    find?_eq_some_iff_isFirstWith, List.find?_eq_none, Bool.not_eq_true,
    firstLeast?_eq_some_iff hdistances]

end Network

/-- **The lane of the route that a point is on.**  Whatever the map, and whatever the coordinates
are, some lane is found unless the map knows none of the route.  It is a known lane of the route:
the first in route order that contains the point, however near others are, or else the nearest to
its centerline, the first of them in route order.  The distances that are compared are numbers; a
centerline with fewer than two points is the greatest double away. -/
theorem closest_lane_found (edits : List (Network.Edit Float)) (p : Point Float) :
    let net := Network.built edits
    let lanes := net.routeLanes
    ((net.closestOnRoute? p).isSome = true ↔ ∃ id ∈ net.route, (net.lane? id).isSome = true)
      ∧ (∀ lane, lane ∈ lanes ↔ lane.id ∈ net.route ∧ net.lane? lane.id = some lane)
      ∧ (∀ id, net.closestOnRoute? p = some id ↔
          ∃ lane, (IsFirstWith (·.contains p) lanes lane
              ∨ (∀ other ∈ lanes, other.contains p = false)
                ∧ IsFirstLeast (·.distanceTo p) lanes lane) ∧ lane.id = id)
      ∧ ∀ lane : Lane Float,
        IsLeastNumber (Scalar.greatest :: lane.clearances p) (lane.distanceTo p)
          ∧ (lane.centerline.length < 2 → lane.distanceTo p = Scalar.greatest) :=
  ⟨Network.isSome_closestOnRoute?_iff, fun _ => Network.mem_routeLanes_built,
    fun _ => Network.closestOnRoute?_eq_some_iff fun lane _ =>
      (lane.isLeastNumber_distanceTo p).isNumber,
    fun lane => ⟨lane.isLeastNumber_distanceTo p, Lane.distanceTo_of_length_lt p⟩⟩

/-- Right of both lanes the first is nearer; within the second it is the second. -/
example :
    let lane (id : LaneId) (y : Float) : Lane Float :=
      .between id [⟨0, y + 3.5⟩, ⟨50, y + 3.5⟩] [⟨0, y⟩, ⟨50, y⟩] .none
    let net := Network.built [.insert (lane 1 0), .insert (lane 2 3.5), .route [3, 1, 2] .origin]
    net.closestOnRoute? ⟨10, 5⟩ = some 2 ∧ net.closestOnRoute? ⟨10, -9⟩ = some 1
      ∧ net.closestOnRoute? ⟨0 / 0, 0⟩ = some 1 := by
  decide +kernel

end DriveDecision
