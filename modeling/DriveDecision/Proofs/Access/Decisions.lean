import DriveDecision.Proofs.Access.Centerlines
import DriveDecision.Proofs.Access.Distances
import DriveDecision.Signal.Cycle
import DriveDecision.Signal.Swerve

/-!
# Proofs/Access/Decisions — no decision reads out of range

    cycle ───▸ crossing ──▸ sight, turnEnd? ──▸ distance ──▸ locate?, signedLength ──▸ fetch
          ───▸ weigh, hold ───────────────────▸ distance
    verdict ─▸ aheadOfStart, shiftCandidate ──▸ signedLengthTo, poseAt? ─────────────▸ fetch
            ─▸ vetoed ──▸ closest?, straddles ───────────────────────────────────────▸ slice

Here every decision about the turn signal is taken on distances, points and samples that are read by
index.  Each comes out as the decision that is taken without: so whatever the path, the poses, the
indices of the shift and the segment ego is said to be on, no index was out of range on the way.
-/

namespace DriveDecision

namespace Indexed

variable {α : Type} [Scalar α]

/-! ## Where ego stands -/

def distance (ego : Ego α) (target : Pose α) : Access α := do
  let segment := (← locate? ego.path ego.near target).getD 0
  signedLength ego.path ego.pose.position ego.segment target.position segment

def spanOf (ego : Ego α) (c : Candidate α) : Access (SpanDistances α) := do
  return {
    desiredStart := (← distance ego c.desiredStart) - ego.front
    desiredEnd := ← distance ego c.desiredEnd
    requiredStart := (← distance ego c.requiredStart) - ego.front
    requiredEnd := ← distance ego c.requiredEnd }

def resolve (ego : Ego α) (inter beh : Candidate α) : Access (TurnCommand × SignalSource) := do
  return match arbitrate (← spanOf ego inter) (← spanOf ego beh) with
    | .first => (inter.turn, .intersection)
    | .second => (beh.turn, .behavior)
    | .neither => (.noCommand, .neither)

def mergeCandidates (ego : Ego α) (old new : Candidate α) : Access (Candidate α) := do
  return match merge (← spanOf ego old) (← spanOf ego new) with
    | .first => old
    | .second => new
    | .neither => .none

variable {ego : Ego α}

@[simp] theorem distance_eq {target : Pose α} :
    distance ego target = pure (ego.distanceTo target) := by
  simp [distance, Ego.distanceTo]

@[simp] theorem spanOf_eq {c : Candidate α} : spanOf ego c = pure (ego.spanOf c) := by
  simp [spanOf, Ego.spanOf]

@[simp] theorem resolve_eq {inter beh : Candidate α} :
    resolve ego inter beh = pure (ego.resolve inter beh) := by
  simp only [resolve, spanOf_eq, pure_bind]
  rfl

@[simp] theorem mergeCandidates_eq {old new : Candidate α} :
    mergeCandidates ego old new = pure (ego.mergeCandidates old new) := by
  simp only [mergeCandidates, spanOf_eq, pure_bind]
  rfl

/-! ## The next turn -/

def turnCandidate (t : Turn α) (settings : SignalSettings α) (seen : Pose α) :
    Access (Candidate α) := do
  let found ← turnEnd? t.lane.centerline (Scalar.radians settings.intersectionAngleDegrees)
  return {
    turn := t.lane.turn.command
    hazard := .noCommand
    desiredStart := seen
    desiredEnd := t.back
    requiredStart := t.front
    requiredEnd := found.getD t.back }

def sight (ego : Ego α) (net : Network α) (reach : α) (id : LaneId) : Access (Sighting α) := do
  match net.lane? id with
  | none => return .skipped
  | some lane =>
    match lane.front?, lane.back? with
    | some front, some back =>
      let toFront := (← distance ego front) - ego.front
      let toBack ← distance ego back
      return if toBack < 0 then .skipped
        else if reach ≤ toFront then .beyond
        else if lane.turn.requiresSignal then .turning ⟨id, lane, front, back⟩
        else .skipped
    | _, _ => return .skipped

/-- The turns within reach among some lanes, up to the first out of reach. -/
def turnsAmong (ego : Ego α) (net : Network α) (reach : α) :
    List LaneId → Access (List (Turn α))
  | [] => return []
  | id :: rest => do
    match ← sight ego net reach id with
    | .beyond => return []
    | .skipped => turnsAmong ego net reach rest
    | .turning t => return t :: (← turnsAmong ego net reach rest)

/-- The first candidate whose required span is not behind ego, or else the last one. -/
def nextCandidate? (ego : Ego α) : List (Candidate α) → Access (Option (Candidate α))
  | [] => return none
  | [c] => return some c
  | c :: d :: rest => do
    if 0 ≤ (← distance ego c.requiredEnd) then return some c else nextCandidate? ego (d :: rest)

def crossing (ego : Ego α) (settings : SignalSettings α) (net : Network α) (anchors : Anchors α)
    (speed : α) : Access (Option (Candidate α) × Anchors α) := do
  let turns ← turnsAmong ego net (settings.reach speed) ego.lanesAhead
  let anchored := ego.anchorTurns turns anchors
  let candidates ← turns.mapM fun t =>
    turnCandidate t settings ((anchored.get? t.id).getD ego.pose)
  return (← nextCandidate? ego candidates, anchored.restrict ego.lanesAhead)

variable {settings : SignalSettings α} {net : Network α} {reach speed : α}

@[simp] theorem turnCandidate_eq {t : Turn α} {seen : Pose α} :
    turnCandidate t settings seen = pure (t.candidate settings seen) := by
  simp [turnCandidate, Turn.candidate]

@[simp] theorem sight_eq {id : LaneId} :
    sight ego net reach id = pure (ego.sight net reach id) := by
  simp only [sight, Ego.sight, distance_eq, pure_bind]
  cases net.lane? id with
  | none => rfl
  | some lane =>
    dsimp only
    cases lane.front? <;> cases lane.back? <;> rfl

theorem turnsAmong_eq {ids : List LaneId} :
    turnsAmong ego net reach ids
      = pure (((ids.map (ego.sight net reach)).takeWhile (·.isInReach)).filterMap (·.turn?)) := by
  induction ids with
  | nil => rfl
  | cons id rest ih =>
    rw [turnsAmong, sight_eq, pure_bind, List.map_cons]
    cases ego.sight net reach id <;> simp [ih, Sighting.isInReach, Sighting.turn?]

theorem nextCandidate?_eq {candidates : List (Candidate α)} :
    nextCandidate? ego candidates
      = pure (firstOrLast? (fun c => 0 ≤ ego.distanceTo c.requiredEnd) candidates) := by
  match candidates with
  | [] => rfl
  | [c] => by_cases h : 0 ≤ ego.distanceTo c.requiredEnd <;> simp [nextCandidate?, firstOrLast?, h]
  | c :: d :: rest =>
    rw [nextCandidate?, distance_eq, pure_bind, nextCandidate?_eq]
    by_cases h : 0 ≤ ego.distanceTo c.requiredEnd <;> simp [firstOrLast?, h]

@[simp] theorem crossing_eq {anchors : Anchors α} :
    crossing ego settings net anchors speed = pure (ego.crossing settings net anchors speed) := by
  simp [crossing, Ego.crossing, Ego.turnsAhead, turnsAmong_eq, nextCandidate?_eq]

/-! ## The cycle -/

def approach (ego : Ego α) (c : Candidate α) : Access (Approach α) := do
  let d ← spanOf ego c
  return if d.desiredStart < 0 ∧ 0 < d.desiredEnd then
      ⟨d.requiredStart ≤ 0, 0 < d.requiredStart, d.requiredStart, c.requiredStart⟩
    else .none

def forIntersection (ego : Ego α) (c : Candidate α) : Access (Verdict α) := do
  return ⟨c.turn, .intersection, some c, ← approach ego c⟩

def weigh (ego : Ego α) (inter : Option (Candidate α)) (beh : Candidate α) :
    Access (Verdict α) := do
  match inter with
  | none =>
    return ⟨beh.turn, if beh.turn = .noCommand then .neither else .behavior, some beh, .none⟩
  | some c =>
    if beh.turn.isInactive then forIntersection ego c
    else
      match (← resolve ego c beh).2 with
      | .intersection => forIntersection ego c
      | .behavior => return ⟨beh.turn, .behavior, some beh, .none⟩
      | .neither | .held => return ⟨.noCommand, .neither, none, .none⟩

def hold (ego : Ego α) (held : Option (HeldSignal α)) (isRequested : Bool) :
    Access (Ego.Hold α) := do
  match held with
  | none => return .over
  | some h =>
    if !isRequested then return .released h
    else if 0 ≤ (← distance ego h.requiredEnd) then return .running h
    else return .over

def newHold (ego : Ego α) (v : Verdict α) : Access (Option (HeldSignal α)) := do
  match v.winner with
  | none => return none
  | some w =>
    if v.turn.isEnabled && w.turn == v.turn then
      return if (← spanOf ego w).withinRequired then some ⟨v.turn, w.requiredEnd⟩ else none
    else return none

/-- The command and its source under a hold, and what is held on. -/
def emitted (ego : Ego α) (verdict : Verdict α) :
    Ego.Hold α → Access (TurnCommand × SignalSource × Option (HeldSignal α))
  | .running h =>
    return (h.command, if h.command = verdict.turn then verdict.source else .held, some h)
  | .over | .released _ => do return (verdict.turn, verdict.source, ← newHold ego verdict)

def cycleAt (arbiter : SignalArbiter α) (state : SignalState α) (input : CycleInput α)
    (ego : Ego α) : Access (SignalArbiter.Outcome α) := do
  let beh := input.behavior
  let (inter, anchors) ← crossing ego arbiter.settings input.net state.anchors input.speed
  let verdict ← weigh ego inter beh
  let isRequested := beh.turn.isEnabled || inter.any (·.turn.isEnabled)
  let hold ← hold ego state.held isRequested
  let (turn, source, held) ← emitted ego verdict hold
  return {
    decision := ⟨turn, beh.hazard, source, verdict.approach, inter, beh⟩
    state := ⟨anchors, held⟩
    entries := (hold.entry? verdict).toList }

def cycle (arbiter : SignalArbiter α) (state : SignalState α) (input : CycleInput α) :
    Access (SignalArbiter.Outcome α) := do
  match ← locate? input.path arbiter.settings.nearest input.pose with
  | none => return SignalArbiter.cycleNowhere state input
  | some segment => cycleAt arbiter state input (arbiter.ego input.path input.pose segment)

@[simp] theorem approach_eq {c : Candidate α} : approach ego c = pure (ego.approach c) := by
  simp [approach, Ego.approach]

@[simp] theorem forIntersection_eq {c : Candidate α} :
    forIntersection ego c = pure (ego.forIntersection c) := by
  simp [forIntersection, Ego.forIntersection]

@[simp] theorem weigh_eq {inter : Option (Candidate α)} {beh : Candidate α} :
    weigh ego inter beh = pure (ego.weigh inter beh) := by
  cases inter with
  | none => rfl
  | some c =>
    simp only [weigh, Ego.weigh, resolve_eq, forIntersection_eq, pure_bind]
    split_ifs
    · rfl
    · cases (ego.resolve c beh).2 <;> rfl

@[simp] theorem hold_eq {held : Option (HeldSignal α)} {isRequested : Bool} :
    hold ego held isRequested = pure (ego.hold held isRequested) := by
  cases held with
  | none => rfl
  | some h =>
    simp only [hold, Ego.hold, distance_eq, pure_bind]
    split_ifs <;> rfl

@[simp] theorem newHold_eq {v : Verdict α} : newHold ego v = pure (ego.newHold v) := by
  cases hwinner : v.winner with
  | none => simp [newHold, Ego.newHold, hwinner]
  | some w =>
    simp only [newHold, Ego.newHold, hwinner, spanOf_eq, pure_bind, Option.bind_some]
    cases v.turn.isEnabled && w.turn == v.turn <;> simp

@[simp] theorem cycleAt_eq {arbiter : SignalArbiter α} {state : SignalState α}
    {input : CycleInput α} :
    cycleAt arbiter state input ego = pure (arbiter.cycleAt state input ego) := by
  simp only [cycleAt, SignalArbiter.cycleAt, crossing_eq, weigh_eq, hold_eq, pure_bind]
  cases ego.hold state.held _ <;> simp [emitted]

theorem cycle_eq {arbiter : SignalArbiter α} {state : SignalState α} {input : CycleInput α} :
    cycle arbiter state input = pure (arbiter.cycle state input) := by
  simp only [cycle, SignalArbiter.cycle, SignalArbiter.locate?, locate?_eq, pure_bind]
  cases input.path.locate? arbiter.settings.nearest input.pose <;> simp

/-! ## Shifts -/

def straddles (shift : Shift α) (path : Path α) (lanes : List (Lane α)) (vehicle : Vehicle α) :
    Access Bool := do
  let stop := min shift.endIndex path.points.length
  if stop ≤ shift.startIndex then return false
  else
    lanes.anyM fun lane => do
      return (← slice path.points shift.startIndex stop).any fun point =>
        let outline := vehicle.cornersAt point.pose
        Polygon.touches outline lane.leftBound || Polygon.touches outline lane.rightBound

def aheadOfStart (request : ShiftRequest α) (vehicle : Vehicle α) : Access α := do
  let position := request.pose.position
  let segment := (← nearestSegment? request.path position).getD 0
  return (← signedLengthTo request.path position segment request.shift.startIndex) - vehicle.front

def shiftCandidate (request : ShiftRequest α) (settings : SignalSettings α) (relative ahead : α)
    (first last : Pose α) : Access (Candidate α) := do
  let desiredStart ←
    if 0 < ahead then do
      let start ← arcLengthTo request.path request.shift.startIndex
      pure ((← poseAt? request.path (start - settings.desiredLeadMargin)).getD first)
    else pure first
  return {
    turn := if 0 < relative then .left else .right
    hazard := .noCommand
    desiredStart := desiredStart
    desiredEnd := last
    requiredStart := first
    requiredEnd := last }

def vetoed (request : ShiftRequest α) (vehicle : Vehicle α) (net : Network α) (kind : ShiftKind)
    (relative : α) (candidate : Candidate α) : Access (SwerveVerdict α) := do
  let queried := if request.ownLaneShifted then candidate.requiredEnd else candidate.requiredStart
  match ← closest? queried.position none net.routeLanes with
  | none => return .noRouteLane
  | some id =>
    let hasLeft := net.hasLeft id
    let hasRight := net.hasRight id
    if kind.hasSideLane relative hasLeft hasRight then
      let lanes := request.lanes.filterMap net.lane?
      let isStanding : Bool := request.speed < 0.1 && !request.overrideStopped
      if isStanding && kind.nearlyReturned request.pose.position lanes then
        return .signalled candidate
      else if ← straddles request.shift request.path lanes vehicle then return .straddles kind
      else return .signalled candidate
    else return .noSideLane kind relative hasLeft hasRight

def verdict (request : ShiftRequest α) (settings : SignalSettings α) (vehicle : Vehicle α)
    (net : Network α) : Access (SwerveVerdict α) := do
  let points := request.path.points
  let shift := request.shift
  if !request.isForward then return .reversing (request.backward net.start)
  else if points.length ≤ shift.startIndex ∨ points.length ≤ shift.endIndex then
    return .outOfPath shift.startIndex shift.endIndex points.length
  else
    let (startLength, endLength) := request.lengths
    let relative := endLength - startLength
    let kind := ShiftKind.of startLength endLength settings.shiftThreshold
    if Scalar.abs relative < settings.shiftThreshold then return .negligible
    else if kind = .none then return .unsignalled startLength endLength
    else if Scalar.abs (endLength - request.currentLength) < 0.1 then return .finished
    else
      let covered := request.speed * settings.searchTime
      let ahead ← aheadOfStart request vehicle
      if Scalar.max covered settings.minimumSearchDistance < ahead then return .early
      else
        let first ← fetch points shift.startIndex
        let last ← fetch points shift.endIndex
        let candidate ← shiftCandidate request settings relative ahead first.pose last.pose
        if settings.onSwerving then vetoed request vehicle net kind relative candidate
        else return .signalled candidate

variable {path : Path α} {vehicle : Vehicle α} {request : ShiftRequest α}

@[simp] theorem straddles_eq {shift : Shift α} {lanes : List (Lane α)} :
    straddles shift path lanes vehicle = pure (shift.straddles path lanes vehicle) := by
  have htake : path.points.take (min shift.endIndex path.points.length)
      = path.points.take shift.endIndex := List.take_eq_take_min.symm
  simp only [straddles, Shift.straddles, Shift.poses]
  split_ifs with hstop
  · have hnone : (path.points.take shift.endIndex).drop shift.startIndex = [] :=
      List.drop_eq_nil_of_le (by rw [List.length_take]; exact hstop)
    rw [hnone]
    exact congrArg pure (List.any_eq_false.2 fun _ _ => Bool.false_ne_true).symm
  · simp only [slice_eq (Nat.le_of_not_le hstop) (Nat.min_le_right _ _), pure_bind, htake,
      List.anyM_pure, List.any_map, Function.comp_def]

@[simp] theorem aheadOfStart_eq :
    aheadOfStart request vehicle = pure (request.aheadOfStart vehicle) := by
  simp [aheadOfStart, ShiftRequest.aheadOfStart]

@[simp] theorem shiftCandidate_eq {relative ahead : α} {first last : Pose α} :
    shiftCandidate request settings relative ahead first last
      = pure (request.candidate settings relative ahead first last) := by
  by_cases hahead : 0 < ahead <;> simp [shiftCandidate, ShiftRequest.candidate, hahead]

@[simp] theorem vetoed_eq {kind : ShiftKind} {relative : α} {candidate : Candidate α} :
    vetoed request vehicle net kind relative candidate
      = pure (request.vetoed vehicle net kind relative candidate) := by
  simp only [vetoed, ShiftRequest.vetoed, closest?_eq, straddles_eq, pure_bind]
  cases net.closestOnRoute? _ with
  | none => rfl
  | some id =>
    dsimp only
    split_ifs <;> simp_all

theorem verdict_eq :
    verdict request settings vehicle net = pure (request.verdict settings vehicle net) := by
  simp only [verdict, ShiftRequest.verdict]
  by_cases hforward : request.isForward = true
  · simp only [hforward, Bool.not_true, Bool.false_eq_true, if_false]
    by_cases hout : request.path.points.length ≤ request.shift.startIndex
        ∨ request.path.points.length ≤ request.shift.endIndex
    · rw [if_pos hout]
      rcases hout with hout | hout
      · rw [List.getElem?_eq_none hout]
      · rw [List.getElem?_eq_none hout]
        cases request.path.points[request.shift.startIndex]? <;> rfl
    · obtain ⟨hstart, hstop⟩ := not_or.1 hout
      have hfirst := List.getElem?_eq_getElem (Nat.lt_of_not_le hstart)
      have hlast := List.getElem?_eq_getElem (Nat.lt_of_not_le hstop)
      simp only [if_neg hout, hfirst, hlast, fetch_eq hfirst, fetch_eq hlast, aheadOfStart_eq,
        shiftCandidate_eq, vetoed_eq, pure_bind]
      split_ifs <;> rfl
  · simp [hforward]

end Indexed

/-- **No decision reads out of range.**  Whatever the path and its coordinates, both searches for
the segment of a pose fail only on an empty path, and what they find is a segment of the path.
Whatever the poses, the thresholds, the segment ego is said to be on and the indices of a shift,
reading points, centerlines and samples by index leads to the same cycle, the same arbitration, the
same merge, the same verdict and the same answer about straddling, without a fault. -/
theorem decisions_in_range {α : Type} [Scalar α] :
    (∀ (path : Path α) (near : Path.Nearness α) (pose : Pose α),
        (path.locate? near pose = none ↔ path.points = [])
          ∧ (path.nearestSegment? pose.position = none ↔ path.points = [])
          ∧ (∀ s, path.locate? near pose = some s → path.IsSegment s)
          ∧ (∀ s, path.nearestSegment? pose.position = some s → path.IsSegment s)
          ∧ Indexed.locate? path near pose = pure (path.locate? near pose)
          ∧ Indexed.nearestSegment? path pose.position
            = pure (path.nearestSegment? pose.position))
      ∧ (∀ (arbiter : SignalArbiter α) (state : SignalState α) (input : CycleInput α),
        Indexed.cycle arbiter state input = pure (arbiter.cycle state input))
      ∧ (∀ (ego : Ego α) (one other : Candidate α),
        Indexed.resolve ego one other = pure (ego.resolve one other)
          ∧ Indexed.mergeCandidates ego one other = pure (ego.mergeCandidates one other))
      ∧ (∀ (request : ShiftRequest α) (settings : SignalSettings α) (vehicle : Vehicle α)
          (net : Network α),
        Indexed.verdict request settings vehicle net
          = pure (request.verdict settings vehicle net))
      ∧ ∀ (shift : Shift α) (path : Path α) (lanes : List (Lane α)) (vehicle : Vehicle α),
        Indexed.straddles shift path lanes vehicle
          = pure (shift.straddles path lanes vehicle) :=
  ⟨fun _ _ _ => ⟨Path.locate?_eq_none_iff, Path.nearestSegment?_eq_none_iff,
      fun _ => Path.isSegment_locate?, fun _ => Path.isSegment_nearestSegment?,
      Indexed.locate?_eq, Indexed.nearestSegment?_eq⟩,
    fun _ _ _ => Indexed.cycle_eq,
    fun _ _ _ => ⟨Indexed.resolve_eq, Indexed.mergeCandidates_eq⟩,
    fun _ _ _ _ => Indexed.verdict_eq,
    fun _ _ _ _ => Indexed.straddles_eq⟩

end DriveDecision
