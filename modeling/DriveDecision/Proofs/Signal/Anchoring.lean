import DriveDecision.Proofs.Signal.Cycles
import Mathlib.Data.List.Chain

/-!
# Proofs/Signal/Anchoring — an anchor stays until its lane is behind

    lanes ahead ──search──▸ turns ──anchored here, unless they are──▸ pruned to the lanes ahead
                              └──────▸ candidates, from the anchors on

The search stops at the first lane out of reach, while the pruning keeps every lane ahead: an anchor
outlasts a turn that is out of reach again.  `Ego.get?_crossing` says once what is kept under a
number.  The lanes ahead only become fewer along a path (`Path.lanesFrom_subset`), so an anchor that
was pruned does not come back.
-/

namespace DriveDecision

/-- An element is taken exactly if it and all before it have the property. -/
theorem mem_takeWhile_iff {β : Type} {p : β → Bool} {b : β} {bs : List β} :
    b ∈ bs.takeWhile p
      ↔ ∃ passed rest, bs = passed ++ b :: rest ∧ (∀ c ∈ passed, p c = true) ∧ p b = true := by
  constructor
  · intro hmem
    obtain ⟨passed, rest, htake⟩ := List.append_of_mem hmem
    have hall : ∀ c ∈ passed ++ b :: rest, p c = true := fun c hc =>
      List.mem_takeWhile_imp (htake ▸ hc)
    refine ⟨passed, rest ++ bs.dropWhile p, ?_, fun c hc => hall c (List.mem_append_left _ hc),
      hall b (List.mem_append_right _ (List.mem_cons_self ..))⟩
    rw [← List.cons_append, ← List.append_assoc, ← htake, List.takeWhile_append_dropWhile]
  · rintro ⟨passed, rest, rfl, hpassed, hb⟩
    rw [List.takeWhile_append_of_pos hpassed, List.takeWhile_cons_of_pos hb]
    exact List.mem_append_right _ (List.mem_cons_self ..)

variable {α : Type} [Scalar α]

namespace Ego

variable {ego : Ego α} {settings : SignalSettings α} {net : Network α} {anchors : Anchors α}
  {speed reach : α} {id : LaneId} {t : Turn α} {turns : List (Turn α)} {c : Candidate α}

/-! ## The turns the search comes to -/

/-- **A turn to be signalled**: a lane the map knows, tagged left or right, not behind ego, and with
its entry within reach. -/
structure Signals (ego : Ego α) (net : Network α) (reach : α) (t : Turn α) : Prop where
  known : net.lane? t.id = some t.lane
  turn : t.lane.turn = .left ∨ t.lane.turn = .right
  front : t.lane.front? = some t.front
  back : t.lane.back? = some t.back
  notBehind : ¬ ego.distanceTo t.back < 0
  inReach : ¬ reach ≤ ego.distanceTo t.front - ego.front

/-- **A turn the search comes to**: none of the lanes ahead of it has ended the search. -/
structure ComesTo (ego : Ego α) (net : Network α) (reach : α) (t : Turn α) : Prop
    extends ego.Signals net reach t where
  scanned : ∃ passed rest, ego.lanesAhead = passed ++ t.id :: rest
    ∧ ∀ id ∈ passed, ego.sight net reach id ≠ .beyond

theorem ComesTo.mem_lanesAhead (h : ego.ComesTo net reach t) : t.id ∈ ego.lanesAhead := by
  obtain ⟨passed, rest, hahead, -⟩ := h.scanned
  rw [hahead]
  exact List.mem_append_right _ (List.mem_cons_self ..)

theorem sight_eq_turning_iff :
    ego.sight net reach id = .turning t ↔ t.id = id ∧ ego.Signals net reach t := by
  constructor
  · intro h
    unfold sight at h
    split at h
    · cases h
    · rename_i lane hlane
      split at h
      · rename_i front back hfront hback
        split_ifs at h with hbehind hbeyond hsignal
        cases h
        exact ⟨rfl, hlane, TurnDirection.requiresSignal_iff.1 hsignal, hfront, hback, hbehind,
          hbeyond⟩
      · cases h
  · rintro ⟨rfl, h⟩
    have hsignal := TurnDirection.requiresSignal_iff.2 h.turn
    simp only [sight, h.known, h.front, h.back, if_neg h.notBehind, if_neg h.inReach,
      if_pos hsignal]

theorem mem_turnsAhead_iff : t ∈ ego.turnsAhead net reach ↔ ego.ComesTo net reach t := by
  simp only [turnsAhead, List.mem_filterMap, List.takeWhile_map, List.mem_map,
    Sighting.turn?_eq_some_iff, mem_takeWhile_iff, Function.comp_apply, Sighting.isInReach_iff]
  constructor
  · rintro ⟨-, ⟨id, ⟨passed, rest, hahead, hpassed, -⟩, rfl⟩, hturning⟩
    obtain ⟨rfl, hsignals⟩ := sight_eq_turning_iff.1 hturning
    exact ⟨hsignals, passed, rest, hahead, hpassed⟩
  · rintro ⟨hsignals, passed, rest, hahead, hpassed⟩
    have hturning := sight_eq_turning_iff.2 ⟨rfl, hsignals⟩
    exact ⟨_, ⟨t.id, ⟨passed, rest, hahead, hpassed, by simp [hturning]⟩, rfl⟩, hturning⟩

/-! ## What is kept -/

omit [Scalar α] in
theorem get?_anchorTurns :
    (ego.anchorTurns turns anchors).get? id
      = (anchors.get? id).or (if id ∈ turns.map (·.id) then some ego.pose else none) := by
  induction turns generalizing anchors with
  | nil => simp [anchorTurns]
  | cons t turns ih =>
    have hstep : ego.anchorTurns (t :: turns) anchors
        = ego.anchorTurns turns (anchors.anchor t.id ego.pose) := rfl
    rw [hstep, ih, Anchors.get?_anchor, Option.or_assoc]
    by_cases hid : id = t.id <;> simp [hid]

variable (ego anchors) in
omit [Scalar α] in
/-- Every turn has an anchor. -/
theorem exists_anchor (h : t ∈ turns) :
    ∃ seen, (ego.anchorTurns turns anchors).get? t.id = some seen := by
  rw [get?_anchorTurns, if_pos (List.mem_map_of_mem h)]
  cases anchors.get? t.id with
  | none => exact ⟨ego.pose, rfl⟩
  | some seen => exact ⟨seen, rfl⟩

/-- **What is kept under a number**: nothing unless the lane is ahead, and then what was kept
before, or else where ego is, if the search comes to the lane. -/
theorem get?_crossing :
    (ego.crossing settings net anchors speed).2.get? id
      = if id ∈ ego.lanesAhead then
          (anchors.get? id).or
            (if id ∈ (ego.turnsAhead net (settings.reach speed)).map (·.id) then some ego.pose
              else none)
        else none := by
  rw [crossing, Anchors.get?_restrict, get?_anchorTurns]

/-- The turn a candidate is made for: the first whose required span is not behind ego, or else the
last. -/
def nextTurn? (ego : Ego α) (settings : SignalSettings α) (turns : List (Turn α)) :
    Option (Turn α) :=
  firstOrLast? (fun t => 0 ≤ ego.distanceTo (t.candidate settings ego.pose).requiredEnd) turns

theorem crossing_eq_none_iff :
    (ego.crossing settings net anchors speed).1 = none
      ↔ ego.turnsAhead net (settings.reach speed) = [] := by
  simp only [crossing, firstOrLast?_eq_none_iff, List.map_eq_nil_iff]

/-- **The candidate's desired start is the anchor of its lane.** -/
theorem candidate_of_crossing (h : (ego.crossing settings net anchors speed).1 = some c) :
    ∃ t, ego.nextTurn? settings (ego.turnsAhead net (settings.reach speed)) = some t
      ∧ c = t.candidate settings c.desiredStart
      ∧ (ego.crossing settings net anchors speed).2.get? t.id = some c.desiredStart := by
  -- where a turn was seen first has no say in which one is next
  obtain ⟨t, hnext, rfl⟩ := Option.map_eq_some_iff.1 ((firstOrLast?_map _ _ _).symm.trans h)
  have hmem := mem_of_firstOrLast? hnext
  obtain ⟨seen, hseen⟩ := ego.exists_anchor anchors hmem
  refine ⟨t, hnext, rfl, ?_⟩
  rw [crossing, Anchors.get?_restrict, if_pos (mem_turnsAhead_iff.1 hmem).mem_lanesAhead, hseen]
  simp only [Turn.candidate, Option.getD_some]

end Ego

namespace SignalArbiter

variable {arbiter : SignalArbiter α} {state : SignalState α} {input : CycleInput α} {r : Round α}

/-- The turns the search of a cycle comes to. -/
def turnsOn (arbiter : SignalArbiter α) (input : CycleInput α) : List (Turn α) :=
  (arbiter.egoOn input).turnsAhead input.net (arbiter.settings.reach input.speed)

variable (arbiter state) in
theorem crossing_of_path (h : input.path.points ≠ []) :
    ((arbiter.cycle state input).decision.intersection,
        (arbiter.cycle state input).state.anchors)
      = (arbiter.egoOn input).crossing arbiter.settings input.net state.anchors input.speed := by
  rw [cycle_of_path h]
  rfl

/-- There is a candidate exactly if the search comes to a turn. -/
theorem intersection_eq_none_iff (h : input.path.points ≠ []) :
    (arbiter.cycle state input).decision.intersection = none ↔ arbiter.turnsOn input = [] := by
  rw [turnsOn, ← Ego.crossing_eq_none_iff, ← arbiter.crossing_of_path state h]

/-- Nowhere, nothing is anchored and nothing pruned. -/
theorem anchors_of_no_path (h : input.path.points = []) :
    (arbiter.cycle state input).state.anchors = state.anchors := by
  rw [cycle, locate?, Path.locate?_eq_none_iff.2 h]
  rfl

/-- **What a cycle on a path does to the anchors.** -/
structure KeepsAnchors (arbiter : SignalArbiter α) (r : Round α) : Prop where
  /-- What is kept is ahead. -/
  ahead : ∀ id pose, (arbiter.outcome r).state.anchors.get? id = some pose →
    id ∈ (arbiter.egoOn r.input).lanesAhead
  /-- What was kept and is ahead stays where it is. -/
  stays : ∀ id pose, r.before.anchors.get? id = some pose →
    id ∈ (arbiter.egoOn r.input).lanesAhead →
      (arbiter.outcome r).state.anchors.get? id = some pose
  /-- What is new is a turn the search comes to, anchored where ego is. -/
  fresh : ∀ id pose, r.before.anchors.get? id = none →
    (arbiter.outcome r).state.anchors.get? id = some pose →
      pose = r.input.pose ∧ ∃ t, t.id = id
        ∧ (arbiter.egoOn r.input).ComesTo r.input.net (arbiter.settings.reach r.input.speed) t
  /-- The candidate's desired start is the anchor of its lane. -/
  reported : ∀ c, (arbiter.outcome r).decision.intersection = some c →
    ∃ t, (arbiter.egoOn r.input).nextTurn? arbiter.settings (arbiter.turnsOn r.input) = some t
      ∧ c = t.candidate arbiter.settings c.desiredStart
      ∧ (arbiter.outcome r).state.anchors.get? t.id = some c.desiredStart

theorem keepsAnchors (h : r.input.path.points ≠ []) : arbiter.KeepsAnchors r := by
  obtain ⟨hreported, hkept⟩ := Prod.ext_iff.1 (arbiter.crossing_of_path r.before h)
  have hget : ∀ id, (arbiter.outcome r).state.anchors.get? id = _ := fun id =>
    (congrArg (·.get? id) hkept).trans Ego.get?_crossing
  constructor
  case ahead =>
    intro id pose hafter
    rw [hget] at hafter
    exact (Option.ite_none_right_eq_some.1 hafter).1
  case stays =>
    intro id pose hbefore hahead
    rw [hget, if_pos hahead, hbefore, Option.some_or]
  case fresh =>
    intro id pose hnone hafter
    rw [hget, hnone, Option.none_or] at hafter
    obtain ⟨-, hnew⟩ := Option.ite_none_right_eq_some.1 hafter
    obtain ⟨hturn, hpose⟩ := Option.ite_none_right_eq_some.1 hnew
    obtain ⟨t, hmem, rfl⟩ := List.mem_map.1 hturn
    exact ⟨(Option.some.inj hpose).symm, t, rfl, Ego.mem_turnsAhead_iff.1 hmem⟩
  case reported =>
    intro c hc
    obtain ⟨t, hnext, hcandidate, hanchor⟩ := Ego.candidate_of_crossing (hreported.symm.trans hc)
    exact ⟨t, hnext, hcandidate, (congrArg (·.get? t.id) hkept).trans hanchor⟩

/-! ## Runs -/

variable {inputs : List (CycleInput α)} {path : Path α} {id : LaneId} {pose : Pose α}

variable (arbiter state inputs) in
theorem map_input_rounds : (arbiter.rounds state inputs).map (·.input) = inputs := by
  induction inputs generalizing state with
  | nil => rfl
  | cons input inputs ih => rw [rounds, List.map_cons, ih]

/-- **An anchor stays through a run** as long as its lane is ahead whenever there is a path. -/
theorem anchor_stays (hkept : state.anchors.get? id = some pose)
    (hahead : ∀ input ∈ inputs, input.path.points ≠ [] → id ∈ (arbiter.egoOn input).lanesAhead) :
    ∀ r ∈ arbiter.rounds state inputs, (arbiter.outcome r).state.anchors.get? id = some pose := by
  induction inputs generalizing state with
  | nil => exact fun r hmem => absurd hmem List.not_mem_nil
  | cons input inputs ih =>
    have hnext : (arbiter.cycle state input).state.anchors.get? id = some pose := by
      by_cases hpath : input.path.points = []
      · rw [anchors_of_no_path hpath, hkept]
      · exact (keepsAnchors (r := ⟨state, input⟩) hpath).stays id pose hkept
          (hahead input (List.mem_cons_self ..) hpath)
    intro r hmem
    rcases List.mem_cons.1 hmem with rfl | hmem
    · exact hnext
    · exact ih hnext (fun i hi => hahead i (List.mem_cons_of_mem _ hi)) r hmem

/-- **What is pruned is behind**: there is a path, and the lane is not ahead on it. -/
theorem behind_of_pruned (hbefore : r.before.anchors.get? id = some pose)
    (hafter : (arbiter.outcome r).state.anchors.get? id = none) :
    r.input.path.points ≠ [] ∧ id ∉ (arbiter.egoOn r.input).lanesAhead := by
  have hpath : r.input.path.points ≠ [] := by
    intro hpath
    rw [outcome, anchors_of_no_path hpath, hbefore] at hafter
    cases hafter
  refine ⟨hpath, fun hahead => ?_⟩
  rw [(keepsAnchors hpath).stays id pose hbefore hahead] at hafter
  cases hafter

/-- From an earlier segment of a path, more lanes are ahead. -/
theorem lanesAhead_subset {later : CycleInput α} (hpath : later.path = input.path)
    (hsegment : (arbiter.egoOn input).segment ≤ (arbiter.egoOn later).segment) :
    (arbiter.egoOn later).lanesAhead ⊆ (arbiter.egoOn input).lanesAhead := by
  change later.path.lanesFrom (arbiter.egoOn later).segment ⊆ input.path.lanesFrom _
  rw [hpath]
  exact input.path.lanesFrom_subset hsegment

/-- **What is pruned does not come back** in a cycle further along the path. -/
theorem not_anchored_of_pruned {later : Round α} (hpath : later.input.path = r.input.path)
    (hsegment : (arbiter.egoOn r.input).segment ≤ (arbiter.egoOn later.input).segment)
    (hbefore : r.before.anchors.get? id = some pose)
    (hafter : (arbiter.outcome r).state.anchors.get? id = none) :
    (arbiter.outcome later).state.anchors.get? id = none := by
  obtain ⟨hpoints, hbehind⟩ := behind_of_pruned hbefore hafter
  rw [← hpath] at hpoints
  by_contra hanchored
  obtain ⟨pose', hanchor⟩ := Option.ne_none_iff_exists'.1 hanchored
  exact hbehind (lanesAhead_subset hpath hsegment ((keepsAnchors hpoints).ahead id pose' hanchor))

end SignalArbiter

/-- **Anchors never move.**  Whatever is remembered and whatever the cycles of a run look at: a
cycle on a path keeps anchors of lanes ahead only, those it finds where they are and new ones where
ego is, for turns the search comes to; and the candidate it reports starts at the anchor of its
lane.  A cycle without a path leaves them all alone.  So an anchor stays where it is through a run
over which its lane is ahead on every path.  And if the cycles are on one path, with ego on no
earlier segment than in the cycle before, then an anchor that is pruned does not come back. -/
theorem anchors_never_move {α : Type} [Scalar α] (arbiter : SignalArbiter α)
    (state : SignalState α) (inputs : List (CycleInput α)) :
    (∀ r ∈ arbiter.rounds state inputs,
        (r.input.path.points ≠ [] → arbiter.KeepsAnchors r)
          ∧ (r.input.path.points = [] → (arbiter.outcome r).state.anchors = r.before.anchors))
      ∧ (∀ id pose, state.anchors.get? id = some pose →
        (∀ input ∈ inputs, input.path.points ≠ [] → id ∈ (arbiter.egoOn input).lanesAhead) →
          ∀ r ∈ arbiter.rounds state inputs,
            (arbiter.outcome r).state.anchors.get? id = some pose)
      ∧ ∀ path, (∀ input ∈ inputs, input.path = path) →
        (inputs.map fun input => (arbiter.egoOn input).segment).IsChain (· ≤ ·) →
          (arbiter.rounds state inputs).Pairwise fun pruning later =>
            ∀ id pose, pruning.before.anchors.get? id = some pose →
              (arbiter.outcome pruning).state.anchors.get? id = none →
                (arbiter.outcome later).state.anchors.get? id = none := by
  refine ⟨fun r _ => ⟨SignalArbiter.keepsAnchors, SignalArbiter.anchors_of_no_path⟩,
    fun _ _ => SignalArbiter.anchor_stays, fun path hpath hsegments => ?_⟩
  rw [← arbiter.map_input_rounds state inputs] at hpath hsegments
  rw [List.map_map, List.isChain_iff_pairwise, List.pairwise_map] at hsegments
  refine hsegments.imp_of_mem fun {pruning later} hpruning hlater hsegment => ?_
  intro id pose hbefore hafter
  have hsame : later.input.path = pruning.input.path :=
    (hpath _ (List.mem_map_of_mem hlater)).trans (hpath _ (List.mem_map_of_mem hpruning)).symm
  exact SignalArbiter.not_anchored_of_pruned hsame hsegment hbefore hafter

/-! ## A left turn -/

/-- Fifty meters of straight road, with lane 2 in the middle. -/
def Path.throughLeftTurn : Path Float :=
  ⟨[⟨.onAxis 0, [1]⟩, ⟨.onAxis 10, [1]⟩, ⟨.onAxis 20, [1]⟩, ⟨.onAxis 30, [2]⟩, ⟨.onAxis 40, [3]⟩,
    ⟨.onAxis 50, [3]⟩]⟩

/-- Ego at `x` on a road whose lane 2, from twenty-five to thirty-five meters, is tagged left. -/
def CycleInput.onLeftTurn (x : Float) : CycleInput Float where
  net := Network.empty.insert (.between 2 [⟨25, 2⟩, ⟨35, 2⟩] [⟨25, -2⟩, ⟨35, -2⟩] .left)
  path := .throughLeftTurn
  behavior := .none
  pose := .onAxis x
  speed := 10

/-- A turn to the left is anchored at five meters, still so at eight or without a path, and
forgotten for good at forty-five. -/
theorem leftTurn_anchored :
    let arbiter := SignalArbiter.standard
    let inputs := [5, 8, 45, 48].map CycleInput.onLeftTurn
    let rounds := arbiter.rounds .initial inputs
    let first := arbiter.cycle .initial (.onLeftTurn 5)
    let lost := { CycleInput.onLeftTurn 8 with path := ⟨[]⟩ }
    rounds.map (fun r => (arbiter.outcome r).state.anchors.get? 2)
        = [some (.onAxis 5), some (.onAxis 5), none, none]
      ∧ (∀ r ∈ rounds, arbiter.KeepsAnchors r)
      ∧ (∃ c, first.decision.intersection = some c ∧ c.desiredStart = .onAxis 5)
      ∧ (arbiter.cycle first.state lost).state.anchors = first.state.anchors
      ∧ (∀ r ∈ arbiter.rounds first.state [lost, .onLeftTurn 8],
        (arbiter.outcome r).state.anchors.get? 2 = some (.onAxis 5))
      ∧ rounds.Pairwise fun pruning later => ∀ id pose,
        pruning.before.anchors.get? id = some pose →
          (arbiter.outcome pruning).state.anchors.get? id = none →
            (arbiter.outcome later).state.anchors.get? id = none := by
  intro arbiter inputs rounds first lost
  have hpath : ∀ input ∈ inputs, input.path = .throughLeftTurn := by
    intro input hinput
    obtain ⟨x, -, rfl⟩ := List.mem_map.1 hinput
    rfl
  have hsegments : (inputs.map fun input => (arbiter.egoOn input).segment).IsChain (· ≤ ·) := by
    decide +kernel
  obtain ⟨hcycles, -, hback⟩ := anchors_never_move arbiter .initial inputs
  have hkeeps : ∀ r ∈ rounds, arbiter.KeepsAnchors r := by
    intro r hr
    have hinput : r.input ∈ inputs :=
      arbiter.map_input_rounds .initial inputs ▸ List.mem_map_of_mem hr
    refine (hcycles r hr).1 ?_
    rw [hpath _ hinput]
    exact List.cons_ne_nil _ _
  have hlost : ∀ state, (arbiter.cycle state lost).state.anchors = state.anchors := fun state =>
    ((anchors_never_move arbiter state [lost]).1 ⟨state, lost⟩ (List.mem_cons_self ..)).2 rfl
  have hfirst : first.state.anchors.get? 2 = some (.onAxis 5) := by decide +kernel
  have hahead : ∀ input ∈ [lost, .onLeftTurn 8], input.path.points ≠ [] →
      2 ∈ (arbiter.egoOn input).lanesAhead := by
    intro input hinput hpoints
    rcases List.mem_pair.1 hinput with rfl | rfl
    · exact absurd rfl hpoints
    · decide +kernel
  obtain ⟨-, hstays, -⟩ := anchors_never_move arbiter first.state [lost, .onLeftTurn 8]
  refine ⟨by decide +kernel, hkeeps, ?_, hlost first.state, hstays 2 _ hfirst hahead,
    hback _ hpath hsegments⟩
  -- the heading at the end of the turn cannot be evaluated, so the candidate is not computed
  have hturns : (arbiter.turnsOn (.onLeftTurn 5)).map (·.id) = [2] := by decide +kernel
  have hsome : first.decision.intersection ≠ none := by
    rw [Ne, SignalArbiter.intersection_eq_none_iff (List.cons_ne_nil _ _)]
    intro hnil
    exact absurd (hturns.symm.trans (congrArg _ hnil)) (List.cons_ne_nil _ _)
  obtain ⟨c, hc⟩ := Option.ne_none_iff_exists'.1 hsome
  obtain ⟨t, hnext, -, hanchor⟩ :=
    (hkeeps ⟨.initial, .onLeftTurn 5⟩ (List.mem_cons_self ..)).reported c hc
  have ht : t.id ∈ [2] := hturns ▸ List.mem_map_of_mem (mem_of_firstOrLast? hnext)
  rw [List.mem_singleton.1 ht] at hanchor
  exact ⟨c, hc, Option.some.inj (hanchor.symm.trans hfirst)⟩

end DriveDecision
