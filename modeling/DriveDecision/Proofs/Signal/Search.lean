import DriveDecision.Proofs.Signal.Anchoring

/-!
# Proofs/Signal/Search — the turn the search finds

    lanes ahead ──up to the first usable one out of reach──▸ scanned
    scanned ──────usable, and tagged left or right─────────▸ turns
    turns ────────the first not over for ego, or the last──▸ the candidate

The three arrows are relations here (`Ego.Scans`, `Ego.Lists`, `Ego.IsNext`), said without the
search; the search follows them (`scans_takeWhile`, `Scans.lists`, `isNext_of_nextTurn?`).  All that
it asks of a path is its poses and which lanes are ahead (`Ego.bare`), so two cycles that agree on
the scanned lanes find the same candidate, whatever comes after the cut.
-/

namespace DriveDecision

variable {α : Type} [Scalar α]

/-! ## What is measured does not depend on lanes -/

theorem firstLeast?_map {β γ : Type} (key : γ → α) (f : β → γ) (bs : List β) :
    firstLeast? key (bs.map f) = (firstLeast? (key ∘ f) bs).map f := by
  cases bs with
  | nil => rfl
  | cons b bs =>
    simp only [List.map_cons, firstLeast?, Option.map_some, Option.some.injEq]
    induction bs generalizing b with
    | nil => rfl
    | cons c bs ih =>
      rw [List.map_cons, List.foldl_cons, List.foldl_cons, ← apply_ite f]
      exact ih _

namespace Path

variable (path : Path α) {near : Nearness α} {pose : Pose α}

/-- A path of the same poses that belongs to no lane. -/
def bare {α : Type} (path : Path α) : Path α := ⟨(path.points.map (·.pose)).map (⟨·, []⟩)⟩

omit [Scalar α] in
theorem bare_eq_map : path.bare = ⟨path.points.map fun point => ⟨point.pose, []⟩⟩ := by
  rw [bare, List.map_map]
  rfl

omit [Scalar α] in
@[simp] theorem length_bare : path.bare.points.length = path.points.length := by
  simp [bare]

omit [Scalar α] in
@[simp] theorem segments_bare : path.bare.segments = path.segments := by
  simp [bare_eq_map, segments, Function.comp_def]

@[simp] theorem arcLengthTo_bare (i : Nat) : path.bare.arcLengthTo i = path.arcLengthTo i := by
  simp [arcLengthTo]

@[simp] theorem offsetOn_bare (i : Nat) (p : Point α) :
    path.bare.offsetOn i p = path.offsetOn i p := by
  simp [offsetOn, segment?]

@[simp] theorem signedLength_bare (src : Point α) (i : Nat) (dst : Point α) (j : Nat) :
    path.bare.signedLength src i dst j = path.signedLength src i dst j := by
  simp [signedLength]

@[simp] theorem segmentAround_bare (i : Nat) (p : Point α) :
    path.bare.segmentAround i p = path.segmentAround i p := by
  simp [segmentAround]

omit [Scalar α] in
theorem indexed_bare :
    path.bare.indexed = path.indexed.map (Prod.map (fun point => ⟨point.pose, []⟩) id) := by
  rw [indexed, bare_eq_map, List.zipIdx_map]
  rfl

theorem nearestSegment?_bare (p : Point α) :
    path.bare.nearestSegment? p = path.nearestSegment? p := by
  simp only [nearestSegment?, nearestPoint?, indexed_bare, firstLeast?_map, Option.map_map,
    segmentAround_bare]
  rfl

/-- **The segment a pose is on is a matter of the path's poses.** -/
theorem locate?_bare : path.bare.locate? near pose = path.locate? near pose := by
  have hleast : firstLeast? (fun q => q.1.pose.position.distanceSq pose.position)
        (path.bare.indexed.filter fun q => near.admits pose q.1)
      = (firstLeast? (fun q => q.1.pose.position.distanceSq pose.position)
        (path.indexed.filter fun q => near.admits pose q.1)).map
          (Prod.map (fun point => ⟨point.pose, []⟩) id) := by
    rw [indexed_bare, List.filter_map, firstLeast?_map]
    rfl
  simp only [locate?, hleast, nearestSegment?_bare, segmentAround_bare]
  cases firstLeast? (fun q => q.1.pose.position.distanceSq pose.position)
    (path.indexed.filter fun q => near.admits pose q.1) <;> rfl

end Path

namespace Lane

variable {lane : Lane α}

/-- A centerline has an entry if it has an edge. -/
theorem front?_isSome_iff : lane.front?.isSome = true ↔ 2 ≤ lane.centerline.length := by
  rw [front?, Option.isSome_map, List.isSome_head?, ← List.length_pos_iff_ne_nil,
    length_consecutive]
  omega

end Lane

/-- Where a turn is over: the end of the required span. -/
def Turn.stop (t : Turn α) (settings : SignalSettings α) : Pose α :=
  (TurnEnd.pose? t.lane.centerline (Scalar.radians settings.intersectionAngleDegrees)).getD t.back

namespace Ego

variable {ego other : Ego α} {settings : SignalSettings α} {net map : Network α}
  {anchors kept : Anchors α} {reach speed : α} {id : LaneId} {t : Turn α} {turns : List (Turn α)}
  {scanned : List LaneId}

/-- Ego on the same poses, without lanes. -/
def bare {α : Type} (ego : Ego α) : Ego α := { ego with path := ego.path.bare }

theorem distanceTo_bare (target : Pose α) : ego.bare.distanceTo target = ego.distanceTo target := by
  simp only [distanceTo, bare, Path.locate?_bare, Path.signedLength_bare]

theorem distanceTo_congr (h : other.bare = ego.bare) (target : Pose α) :
    other.distanceTo target = ego.distanceTo target := by
  rw [← distanceTo_bare, h, distanceTo_bare]

/-! ## The relations -/

/-- **A usable lane**: the map knows it, its centerline has two ends, and the exit is not behind
ego. -/
structure Uses (ego : Ego α) (net : Network α) (t : Turn α) : Prop where
  known : net.lane? t.id = some t.lane
  long : 2 ≤ t.lane.centerline.length
  front : t.lane.front? = some t.front
  back : t.lane.back? = some t.back
  notBehind : ¬ ego.distanceTo t.back < 0

/-- **The lanes that are looked at**: those ahead, in order, up to the first usable one whose entry
is at least the reach ahead of the front of the vehicle. -/
structure Scans (ego : Ego α) (net : Network α) (reach : α) (scanned : List LaneId) : Prop where
  ahead : scanned <+: ego.lanesAhead
  inReach : ∀ t, t.id ∈ scanned → ego.Uses net t → ¬ reach ≤ ego.distanceTo t.front - ego.front
  stops : ∀ id rest, ego.lanesAhead = scanned ++ id :: rest →
    ∃ t, t.id = id ∧ ego.Uses net t ∧ reach ≤ ego.distanceTo t.front - ego.front

/-- **The turns among them**, in their order: the usable lanes tagged left or right. -/
structure Lists (ego : Ego α) (net : Network α) (scanned : List LaneId) (turns : List (Turn α)) :
    Prop where
  order : (turns.map (·.id)).Sublist scanned
  mem_iff : ∀ t, t ∈ turns ↔
    t.id ∈ scanned ∧ ego.Uses net t ∧ (t.lane.turn = .left ∨ t.lane.turn = .right)

/-- **The turn to be signalled**: the first one that is not over for ego, or else the last. -/
def IsNext (ego : Ego α) (settings : SignalSettings α) (turns : List (Turn α)) (t : Turn α) :
    Prop :=
  ∃ passed rest, turns = passed ++ t :: rest
    ∧ (∀ p ∈ passed, ¬ 0 ≤ ego.distanceTo (p.stop settings))
    ∧ (0 ≤ ego.distanceTo (t.stop settings) ∨ rest = [])

/-! ## The search follows them -/

theorem uses_of_ends (hknown : net.lane? t.id = some t.lane) (hfront : t.lane.front? = some t.front)
    (hback : t.lane.back? = some t.back) (hbehind : ¬ ego.distanceTo t.back < 0) :
    ego.Uses net t :=
  ⟨hknown, Lane.front?_isSome_iff.1 (Option.isSome_of_eq_some hfront), hfront, hback, hbehind⟩

/-- The search ends at a usable lane out of reach. -/
theorem sight_eq_beyond_iff : ego.sight net reach id = .beyond
    ↔ ∃ t, t.id = id ∧ ego.Uses net t ∧ reach ≤ ego.distanceTo t.front - ego.front := by
  constructor
  · intro h
    unfold sight at h
    split at h
    · cases h
    · rename_i lane hlane
      split at h
      · rename_i front back hfront hback
        split_ifs at h with hbehind hbeyond
        exact ⟨⟨id, lane, front, back⟩, rfl, uses_of_ends hlane hfront hback hbehind, hbeyond⟩
      · cases h
  · rintro ⟨t, rfl, huses, hbeyond⟩
    simp only [sight, huses.known, huses.front, huses.back, if_neg huses.notBehind, if_pos hbeyond]

theorem signals_iff : ego.Signals net reach t ↔ ego.Uses net t
    ∧ (t.lane.turn = .left ∨ t.lane.turn = .right)
    ∧ ¬ reach ≤ ego.distanceTo t.front - ego.front :=
  ⟨fun h => ⟨uses_of_ends h.known h.front h.back h.notBehind, h.turn, h.inReach⟩,
    fun ⟨huses, hturn, hreach⟩ =>
      ⟨huses.known, hturn, huses.front, huses.back, huses.notBehind, hreach⟩⟩

/-- **There is a cut**: where the search ends, or behind the last lane. -/
theorem scans_takeWhile : ego.Scans net reach
    (ego.lanesAhead.takeWhile fun id => (ego.sight net reach id).isInReach) := by
  have hinReach : ∀ id, (ego.sight net reach id).isInReach = true ↔ ¬ ∃ t, t.id = id
      ∧ ego.Uses net t ∧ reach ≤ ego.distanceTo t.front - ego.front := fun id => by
    rw [Sighting.isInReach_iff, Ne, sight_eq_beyond_iff]
  refine ⟨List.takeWhile_prefix _, fun t hmem huses hbeyond => ?_, fun id rest hahead => ?_⟩
  · have hreach := List.mem_takeWhile_imp hmem
    exact (hinReach t.id).1 hreach ⟨t, rfl, huses, hbeyond⟩
  · have hrest : ego.lanesAhead.dropWhile (fun id => (ego.sight net reach id).isInReach)
        = id :: rest := by
      rw [← List.append_right_inj, List.takeWhile_append_dropWhile]
      exact hahead
    have hstop := List.head?_dropWhile_not
      (fun id => (ego.sight net reach id).isInReach) ego.lanesAhead
    rw [hrest, List.head?_cons] at hstop
    rw [← not_not (a := ∃ t, _), ← hinReach, hstop]
    exact Bool.false_ne_true

/-- …and it is the only one. -/
theorem Scans.eq_takeWhile (h : ego.Scans net reach scanned) :
    (ego.lanesAhead.takeWhile fun id => (ego.sight net reach id).isInReach) = scanned := by
  obtain ⟨rest, hahead⟩ := h.ahead
  have hpassed : ∀ id ∈ scanned, (ego.sight net reach id).isInReach = true := by
    intro id hid
    rw [Sighting.isInReach_iff, Ne, sight_eq_beyond_iff]
    rintro ⟨t, rfl, huses, hbeyond⟩
    exact h.inReach t hid huses hbeyond
  rw [← hahead, List.takeWhile_append_of_pos hpassed]
  cases rest with
  | nil => simp
  | cons id rest =>
    have hstop := sight_eq_beyond_iff.2 (h.stops id rest hahead.symm)
    rw [List.takeWhile_cons_of_neg (by simp [hstop, Sighting.isInReach]), List.append_nil]

theorem Scans.turnsAhead_eq (h : ego.Scans net reach scanned) :
    ego.turnsAhead net reach = scanned.filterMap fun id => (ego.sight net reach id).turn? := by
  rw [turnsAhead, List.takeWhile_map, List.filterMap_map, ← h.eq_takeWhile]
  rfl

/-- **The search lists the turns.** -/
theorem Scans.lists (h : ego.Scans net reach scanned) :
    ego.Lists net scanned (ego.turnsAhead net reach) := by
  rw [h.turnsAhead_eq]
  constructor
  case order =>
    clear h
    induction scanned with
    | nil => exact .slnil
    | cons id scanned ih =>
      cases hturn : (ego.sight net reach id).turn? with
      | none =>
        simp only [List.filterMap_cons, hturn]
        exact ih.cons id
      | some t =>
        obtain ⟨rfl, -⟩ := sight_eq_turning_iff.1 (Sighting.turn?_eq_some_iff.1 hturn)
        simp only [List.filterMap_cons, hturn]
        exact ih.cons_cons t.id
  case mem_iff =>
    intro t
    simp only [List.mem_filterMap, Sighting.turn?_eq_some_iff, sight_eq_turning_iff, signals_iff]
    constructor
    · rintro ⟨id, hid, rfl, huses, hturn, -⟩
      exact ⟨hid, huses, hturn⟩
    · rintro ⟨hid, huses, hturn⟩
      exact ⟨t.id, hid, rfl, huses, hturn, h.inReach t hid huses⟩

theorem isNext_of_nextTurn? (h : ego.nextTurn? settings turns = some t) :
    ego.IsNext settings turns t := by
  rcases Option.or_eq_some_iff.1 h with hfind | ⟨hnone, hlast⟩
  · obtain ⟨hahead, passed, rest, hturns, hpassed⟩ := List.find?_eq_some_iff_append.1 hfind
    refine ⟨passed, rest, hturns, fun p hp => ?_, Or.inl (of_decide_eq_true hahead)⟩
    have hover := hpassed p hp
    rw [Bool.not_eq_true'] at hover
    exact of_decide_eq_false hover
  · obtain ⟨passed, hturns⟩ := List.getLast?_eq_some_iff.1 hlast
    refine ⟨passed, [], hturns, fun p hp => ?_, Or.inr rfl⟩
    have hmem : p ∈ turns := hturns ▸ List.mem_append_left _ hp
    exact fun hahead => List.find?_eq_none.1 hnone p hmem (decide_eq_true hahead)

/-! ## Two views that agree -/

theorem sight_congr (hbare : other.bare = ego.bare) (hlane : map.lane? id = net.lane? id) :
    other.sight map reach id = ego.sight net reach id := by
  have hfront : other.front = ego.front := congrArg (·.front) hbare
  simp only [sight, hlane, hfront, distanceTo_congr hbare]

/-- **Only the scanned lanes count**, where ego is, and what is kept under their numbers. -/
theorem crossing_congr (hbare : other.bare = ego.bare)
    (hscans : ego.Scans net (settings.reach speed) scanned)
    (hother : other.Scans map (settings.reach speed) scanned)
    (hlanes : ∀ id ∈ scanned, map.lane? id = net.lane? id)
    (hanchors : ∀ id ∈ scanned, kept.get? id = anchors.get? id) :
    (other.crossing settings map kept speed).1 = (ego.crossing settings net anchors speed).1 := by
  have hturns : other.turnsAhead map (settings.reach speed)
      = ego.turnsAhead net (settings.reach speed) := by
    rw [hscans.turnsAhead_eq, hother.turnsAhead_eq]
    exact List.filterMap_congr fun id hid => by rw [sight_congr hbare (hlanes id hid)]
  have hpose : other.pose = ego.pose := congrArg (·.pose) hbare
  have hcandidates : ∀ t ∈ ego.turnsAhead net (settings.reach speed),
      ((other.anchorTurns (ego.turnsAhead net (settings.reach speed)) kept).get? t.id).getD
          other.pose
        = ((ego.anchorTurns (ego.turnsAhead net (settings.reach speed)) anchors).get? t.id).getD
          ego.pose := by
    intro t ht
    rw [get?_anchorTurns, get?_anchorTurns, hanchors t.id ((hscans.lists.mem_iff t).1 ht).1, hpose]
  simp only [crossing, hturns, distanceTo_congr hbare]
  exact congrArg (firstOrLast? _) (List.map_congr_left fun t ht => by rw [hcandidates t ht])

end Ego

/-- **Two cycles that agree up to the cut**: ego is at the same place on the same poses, equally
fast, and the same is known of the scanned lanes. -/
structure Round.AgreesOn (scanned : List LaneId) (r other : Round α) : Prop where
  pose : other.input.pose = r.input.pose
  speed : other.input.speed = r.input.speed
  poses : other.input.path.points.map (·.pose) = r.input.path.points.map (·.pose)
  lanes : ∀ id ∈ scanned, other.input.net.lane? id = r.input.net.lane? id
  anchors : ∀ id ∈ scanned, other.before.anchors.get? id = r.before.anchors.get? id

namespace SignalArbiter

variable {arbiter : SignalArbiter α} {r other : Round α} {scanned : List LaneId}

theorem bare_egoOn_congr (h : r.AgreesOn scanned other) :
    (arbiter.egoOn other.input).bare = (arbiter.egoOn r.input).bare := by
  have hbare : other.input.path.bare = r.input.path.bare := by
    rw [Path.bare, Path.bare, h.poses]
  have hsegment : other.input.path.locate? arbiter.settings.nearest r.input.pose
      = r.input.path.locate? arbiter.settings.nearest r.input.pose := by
    rw [← Path.locate?_bare, hbare, Path.locate?_bare]
  simp only [egoOn, ego, Ego.bare, hbare, h.pose, hsegment]

theorem intersection_eq_crossing (h : r.input.path.points ≠ []) :
    (arbiter.outcome r).decision.intersection
      = ((arbiter.egoOn r.input).crossing arbiter.settings r.input.net r.before.anchors
          r.input.speed).1 :=
  congrArg Prod.fst (arbiter.crossing_of_path r.before h)

/-- **Nothing behind the cut counts.** -/
theorem intersection_congr (hpath : r.input.path.points ≠ []) (h : r.AgreesOn scanned other)
    (hscans : (arbiter.egoOn r.input).Scans r.input.net (arbiter.settings.reach r.input.speed)
      scanned)
    (hother : (arbiter.egoOn other.input).Scans other.input.net
      (arbiter.settings.reach r.input.speed) scanned) :
    (arbiter.outcome other).decision.intersection = (arbiter.outcome r).decision.intersection := by
  have hpath' : other.input.path.points ≠ [] := by
    rw [Ne, ← List.map_eq_nil_iff (f := (·.pose)), h.poses, List.map_eq_nil_iff]
    exact hpath
  rw [intersection_eq_crossing hpath, intersection_eq_crossing hpath', h.speed]
  exact Ego.crossing_congr (bare_egoOn_congr h) hscans hother h.lanes h.anchors

end SignalArbiter

/-- **The search finds the next turn.**  In a cycle on a path there are the lanes it scans, up to
the cut, and the turns among them.  There is no candidate exactly if there is no turn; otherwise the
candidate is made for the first turn that is not over for ego, or else for the last, with the
command of its lane, its entry, its exit and its anchor.  Another cycle that scans the same lanes,
and agrees on them, has the same candidate. -/
theorem search_finds_next_turn {α : Type} [Scalar α] (arbiter : SignalArbiter α) (r : Round α)
    (hpath : r.input.path.points ≠ []) :
    let ego := arbiter.egoOn r.input
    let reach := Scalar.min (r.input.speed * arbiter.settings.intersectionSearchTime)
      arbiter.settings.intersectionSearchDistance
    let found := (arbiter.outcome r).decision.intersection
    ∃ scanned turns, ego.Scans r.input.net reach scanned ∧ ego.Lists r.input.net scanned turns
      ∧ (found = none ↔ turns = [])
      ∧ (∀ c, found = some c → ∃ t, ego.IsNext arbiter.settings turns t
        ∧ c.turn = t.lane.turn.command ∧ c.requiredStart = t.front
        ∧ c.requiredEnd = t.stop arbiter.settings ∧ c.desiredEnd = t.back
        ∧ (arbiter.outcome r).state.anchors.get? t.id = some c.desiredStart)
      ∧ ∀ other : Round α, r.AgreesOn scanned other →
        (arbiter.egoOn other.input).Scans other.input.net reach scanned →
          (arbiter.outcome other).decision.intersection = found := by
  intro ego reach found
  have hscans : ego.Scans r.input.net reach _ := Ego.scans_takeWhile
  refine ⟨_, arbiter.turnsOn r.input, hscans, hscans.lists,
    SignalArbiter.intersection_eq_none_iff hpath, fun c hc => ?_, fun other hother hsame => ?_⟩
  · obtain ⟨t, hnext, hcandidate, hanchor⟩ := (SignalArbiter.keepsAnchors hpath).reported c hc
    refine ⟨t, Ego.isNext_of_nextTurn? hnext, ?_, ?_, ?_, ?_, hanchor⟩
    all_goals
      rw [hcandidate]
      rfl
  · exact SignalArbiter.intersection_congr hpath hother hscans hsame

/-! ## A lane out of reach -/

/-- Ego at five meters, with lane 2 ahead, and a lane 3 from forty-five meters on. -/
def CycleInput.beforeLane3 (turn : TurnDirection) : CycleInput Float :=
  { CycleInput.onLeftTurn 5 with
    net := (CycleInput.onLeftTurn 5).net.insert
      (.between 3 [⟨45, 2⟩, ⟨49, -5⟩] [⟨45, -2⟩, ⟨45, -5⟩] turn) }

/-- Lanes 1 and 2 are scanned: lane 3 is out of reach, be it a turn to the left or the right. -/
theorem CycleInput.beforeLane3_scans : ∀ turn ∈ [TurnDirection.left, .right],
    let input := CycleInput.beforeLane3 turn
    (SignalArbiter.standard.egoOn input).Scans input.net
      (SignalArbiter.standard.settings.reach input.speed) [1, 2] := by
  have hcut : ∀ turn ∈ [TurnDirection.left, .right],
      let input := CycleInput.beforeLane3 turn
      ((SignalArbiter.standard.egoOn input).lanesAhead.takeWhile fun id =>
        ((SignalArbiter.standard.egoOn input).sight input.net
          (SignalArbiter.standard.settings.reach input.speed) id).isInReach) = [1, 2] := by
    decide +kernel
  exact fun turn hturn => hcut turn hturn ▸ Ego.scans_takeWhile

/-- Among the scanned lanes the only turn is lane 2. -/
theorem CycleInput.beforeLane3_turnsOn :
    (SignalArbiter.standard.turnsOn (.beforeLane3 .right)).map (·.id) = [2] := by
  decide +kernel

/-- Lane 2 is found.  Lane 3 is out of reach, so neither its tag nor its anchor matters. -/
theorem leftTurn_found :
    let r : Round Float := ⟨.initial, .beforeLane3 .right⟩
    let other : Round Float := ⟨⟨Anchors.empty.anchor 3 (.onAxis 0), none⟩, .beforeLane3 .left⟩
    let arbiter := SignalArbiter.standard
    r.input.path.points ≠ [] ∧ r.AgreesOn [1, 2] other
      ∧ ∃ c, (arbiter.outcome r).decision.intersection = some c
        ∧ (arbiter.outcome other).decision.intersection = some c
        ∧ c.turn = .left ∧ c.requiredStart.position = ⟨25, 0⟩
        ∧ c.desiredEnd.position = ⟨35, 0⟩ := by
  intro r other arbiter
  have hpath : r.input.path.points ≠ [] := List.cons_ne_nil _ _
  have hagrees : r.AgreesOn [1, 2] other := by
    refine ⟨rfl, rfl, rfl, fun id hid => ?_, fun id hid => ?_⟩
    all_goals
      rcases List.mem_pair.1 hid with rfl | rfl <;> rfl
  obtain ⟨scanned, turns, hscanned, hlists, hnone, hsome, hsame⟩ :=
    search_finds_next_turn arbiter r hpath
  obtain rfl : [1, 2] = scanned :=
    (CycleInput.beforeLane3_scans .right (by simp)).eq_takeWhile.symm.trans hscanned.eq_takeWhile
  have hturns : turns ≠ [] := by
    intro hnil
    have hnothing := (SignalArbiter.intersection_eq_none_iff hpath).1 (hnone.2 hnil)
    exact absurd (CycleInput.beforeLane3_turnsOn.symm.trans (congrArg _ hnothing))
      (List.cons_ne_nil _ _)
  obtain ⟨c, hc⟩ := Option.ne_none_iff_exists'.1 (mt hnone.1 hturns)
  have hc' := (hsame other hagrees (CycleInput.beforeLane3_scans .left (by simp))).trans hc
  obtain ⟨t, ⟨passed, rest, rfl, -⟩, hturn, hstart, -, hend, -⟩ := hsome c hc
  obtain ⟨hid, huses, -⟩ := (hlists.mem_iff t).1 (by simp)
  let lane : Lane Float := .between 2 [⟨25, 2⟩, ⟨35, 2⟩] [⟨25, -2⟩, ⟨35, -2⟩] .left
  have hlane : t.lane = lane := by
    have hknown := huses.known
    rcases List.mem_pair.1 hid with hid | hid <;> rw [hid] at hknown
    · cases hknown
    · exact (Option.some.inj hknown).symm
  have hends : lane.front?.map (·.position) = some ⟨25, 0⟩
      ∧ lane.back?.map (·.position) = some ⟨35, 0⟩ := by decide +kernel
  rw [← hlane, huses.front, huses.back] at hends
  refine ⟨hpath, hagrees, c, hc, hc', ?_, ?_, ?_⟩
  · rw [hturn, hlane]
    rfl
  · rw [hstart]
    exact Option.some.inj hends.1
  · rw [hend]
    exact Option.some.inj hends.2

end DriveDecision
