import DriveDecision.Proofs.Signal.Origin

/-!
# Proofs/Signal/Approach — an active turn, and the blinker that is on

    verdict ──approach──────────────────────▸ what is reported of the turn
       └─────turn──────▸ unless one is held ──▸ what is emitted

A turn is reported active once ego has entered its required span, given that arbitration picks it.
But the report is made before the hold: a blinker held for the other side goes on, and the turn is
reported active all the same (`active_turn_blinks_iff`).
-/

namespace DriveDecision

variable {α : Type} [Scalar α]

namespace Ego

variable {ego : Ego α} {inter : Option (Candidate α)} {beh c : Candidate α}

/-- **Ego has entered a turn**: it is within the desired span and past the required start. -/
structure HasEntered (ego : Ego α) (c : Candidate α) : Prop where
  started : (ego.spanOf c).desiredStart < 0
  ahead : 0 < (ego.spanOf c).desiredEnd
  entered : (ego.spanOf c).requiredStart ≤ 0

theorem isActive_approach_iff : (ego.approach c).isActive = true ↔ ego.HasEntered c := by
  simp only [approach]
  split_ifs with hdesired
  · simp only [decide_eq_true_eq]
    exact ⟨fun hentered => ⟨hdesired.1, hdesired.2, hentered⟩, fun h => h.entered⟩
  · have hnone : ¬ ego.HasEntered c := fun h => hdesired ⟨h.started, h.ahead⟩
    simp [Approach.none, hnone]

/-- A turn is active only if it is picked. -/
theorem weigh_of_isActive (h : (ego.weigh inter beh).approach.isActive = true) :
    ∃ c, inter = some c ∧ ego.weigh inter beh = ego.forIntersection c := by
  rcases inter with _ | c
  · cases h
  · refine ⟨c, rfl, ?_⟩
    revert h
    simp only [weigh]
    split_ifs
    · exact fun _ => rfl
    · split
      · exact fun _ => rfl
      all_goals exact fun h => absurd h Bool.false_ne_true

end Ego

namespace SignalArbiter

variable {arbiter : SignalArbiter α} {state : SignalState α} {input : CycleInput α}
  {c : Candidate α}

/-- What is reported of the turn is the verdict's; without a path, nothing is. -/
theorem approach_cycle : (arbiter.cycle state input).decision.approach
    = if input.path.points = [] then .none else (arbiter.verdict state input).approach := by
  split_ifs with hpath
  · rw [cycle, locate?, Path.locate?_eq_none_iff.2 hpath]
    rfl
  · rw [verdict, cycle_of_path hpath]
    rfl

/-- **A turn is active only if arbitration picks it and ego has entered it.** -/
theorem verdict_of_isActive (h : (arbiter.cycle state input).decision.approach.isActive = true) :
    input.path.points ≠ [] ∧ ∃ c, (arbiter.cycle state input).decision.intersection = some c
      ∧ arbiter.verdict state input = (arbiter.egoOn input).forIntersection c
      ∧ (arbiter.egoOn input).HasEntered c := by
  have hpath : input.path.points ≠ [] := by
    intro hnone
    rw [approach_cycle, if_pos hnone] at h
    cases h
  rw [approach_cycle, if_neg hpath] at h
  obtain ⟨c, hinter, hweigh⟩ := Ego.weigh_of_isActive h
  refine ⟨hpath, c, hinter, hweigh, ?_⟩
  rw [verdict, hweigh] at h
  exact Ego.isActive_approach_iff.1 h

/-- **…and the other way round.** -/
theorem isActive_of_verdict (hpath : input.path.points ≠ [])
    (hverdict : arbiter.verdict state input = (arbiter.egoOn input).forIntersection c)
    (h : (arbiter.egoOn input).HasEntered c) :
    (arbiter.cycle state input).decision.approach.isActive = true := by
  rw [approach_cycle, if_neg hpath, hverdict]
  exact Ego.isActive_approach_iff.2 h

/-- **A turn that ego has entered when it comes in sight is active**, if there is no other and the
behavior asks for nothing. -/
theorem isActive_of_turnsOn {id : LaneId} (hpath : input.path.points ≠ [])
    (hbehavior : input.behavior.turn.isInactive = true) (hnew : state.anchors.get? id = none)
    (hsome : arbiter.turnsOn input ≠ []) (hturns : ∀ t ∈ arbiter.turnsOn input, t.id = id
      ∧ (arbiter.egoOn input).HasEntered (t.candidate arbiter.settings input.pose)) :
    (arbiter.cycle state input).decision.approach.isActive = true
      ∧ ∃ t ∈ arbiter.turnsOn input, (arbiter.cycle state input).decision.intersection
        = some (t.candidate arbiter.settings input.pose) := by
  have hkeeps : arbiter.KeepsAnchors ⟨state, input⟩ := keepsAnchors hpath
  have hinter : (arbiter.cycle state input).decision.intersection ≠ none :=
    fun hnone => hsome ((intersection_eq_none_iff hpath).1 hnone)
  obtain ⟨c, hc⟩ := Option.ne_none_iff_exists'.1 hinter
  obtain ⟨t, hnext, hcandidate, hanchor⟩ := hkeeps.reported c hc
  have hmem : t ∈ arbiter.turnsOn input := mem_of_firstOrLast? hnext
  obtain ⟨rfl, hentered⟩ := hturns t hmem
  have hseen : c.desiredStart = input.pose := (hkeeps.fresh _ _ hnew hanchor).1
  rw [hseen] at hcandidate
  rw [hcandidate] at hc
  refine ⟨isActive_of_verdict hpath ?_ hentered, t, hmem, hc⟩
  rw [verdict, hc]
  exact if_pos hbehavior

/-- **A hold goes on in sight of a turn**, up to its end. -/
theorem turn_of_held_before {hold : HeldSignal α} (hheld : state.held = some hold)
    (hpath : input.path.points ≠ [])
    (hinter : (arbiter.cycle state input).decision.intersection = some c)
    (hahead : 0 ≤ (arbiter.egoOn input).distanceTo hold.requiredEnd) :
    (arbiter.cycle state input).decision.turn = hold.command := by
  have hrequested : (arbiter.cycle state input).decision.isRequested = true := by
    rw [Decision.isRequested, Bool.or_eq_true, hinter]
    exact Or.inr (TurnCommand.isEnabled_iff.2 (blinks_of_intersection hinter))
  exact (cycle_of_sustains hheld ⟨hpath, hrequested, hahead⟩).1

end SignalArbiter

/-! ## A left turn, in a shift to the right -/

/-- Ego stands at twelve meters, in a shift to the right up to forty, with the turn out of reach. -/
def CycleInput.beforeLeftTurn : CycleInput Float :=
  { CycleInput.onLeftTurn 12 with behavior := .onAxis .right 10 40, speed := 0 }

/-- What is remembered of the shift. -/
def SignalState.inRightShift : SignalState Float :=
  (SignalArbiter.standard.cycle .initial .beforeLeftTurn).state

theorem leftTurn_path : (CycleInput.onLeftTurn 22).path.points ≠ [] := List.cons_ne_nil _ _

theorem rightShift_held : SignalState.inRightShift.held = some ⟨.right, .onAxis 40⟩ := by
  decide +kernel

/-- At twenty-two meters ego has entered the turn, and sees it for the first time. -/
theorem leftTurn_active :
    (SignalArbiter.standard.cycle .inRightShift (.onLeftTurn 22)).decision.approach.isActive = true
      ∧ ∃ c, (SignalArbiter.standard.cycle .inRightShift (.onLeftTurn 22)).decision.intersection
        = some c ∧ c.turn = .left := by
  -- the heading at the end of the turn cannot be evaluated, so the turn is, and not the candidate
  have hturns : ∀ t ∈ SignalArbiter.standard.turnsOn (.onLeftTurn 22), t.id = 2
      ∧ t.lane.turn.command = .left
      ∧ 0 < (SignalArbiter.standard.egoOn (.onLeftTurn 22)).distanceTo t.back
      ∧ (SignalArbiter.standard.egoOn (.onLeftTurn 22)).distanceTo t.front
        - SignalArbiter.standard.vehicle.front ≤ 0 := by decide +kernel
  have hstarted : (SignalArbiter.standard.egoOn (.onLeftTurn 22)).distanceTo (.onAxis 22)
      - SignalArbiter.standard.vehicle.front < 0 := by decide +kernel
  have hnew : SignalState.inRightShift.anchors.get? 2 = none := by decide +kernel
  have hsome : SignalArbiter.standard.turnsOn (.onLeftTurn 22) ≠ [] := by decide +kernel
  obtain ⟨hactive, t, hmem, hc⟩ := SignalArbiter.isActive_of_turnsOn leftTurn_path rfl hnew hsome
    fun t ht => ⟨(hturns t ht).1, hstarted, (hturns t ht).2.2.1, (hturns t ht).2.2.2⟩
  exact ⟨hactive, _, hc, (hturns t hmem).2.1⟩

/-- The shift goes on. -/
theorem leftTurn_blinks_right {c : Candidate Float}
    (hc : (SignalArbiter.standard.cycle .inRightShift (.onLeftTurn 22)).decision.intersection
      = some c) :
    (SignalArbiter.standard.cycle .inRightShift (.onLeftTurn 22)).decision.turn = .right :=
  SignalArbiter.turn_of_held_before rightShift_held leftTurn_path hc (by decide +kernel)

/-! ## What is reported, and what is emitted -/

/-- **An active turn blinks, unless another command is held.**  Whatever an arbiter has been
through: if the next cycle reports the turn active, there is a candidate of a turn that ego has
entered.  Its command is emitted, as from the intersection, exactly if no hold of another command
goes on.  Else what is emitted is that hold, and has been since the cycle that started it. -/
theorem active_turn_blinks_iff {α : Type} [Scalar α] (arbiter : SignalArbiter α)
    (passed : List (Round α)) (state : SignalState α) (h : arbiter.Reached passed state)
    (input : CycleInput α)
    (hactive : (arbiter.cycle state input).decision.approach.isActive = true) :
    let decision := (arbiter.cycle state input).decision
    ∃ c, decision.intersection = some c ∧ (c.turn = .left ∨ c.turn = .right)
      ∧ (arbiter.egoOn input).HasEntered c
      ∧ (decision.turn = c.turn ↔ ∀ hold, state.held = some hold →
          arbiter.Sustains state input hold.requiredEnd → hold.command = c.turn)
      ∧ (decision.turn = c.turn → decision.source = .intersection)
      ∧ (decision.turn ≠ c.turn → decision.source = .held
          ∧ ∃ stop, arbiter.EmittedSince ⟨decision.turn, stop⟩ passed) := by
  intro decision
  obtain ⟨hpath, c, hinter, hverdict, hentered⟩ := SignalArbiter.verdict_of_isActive hactive
  have hvturn : (arbiter.verdict state input).turn = c.turn := by rw [hverdict]; rfl
  have hvsource : (arbiter.verdict state input).source = .intersection := by rw [hverdict]; rfl
  refine ⟨c, hinter, SignalArbiter.blinks_of_intersection hinter, hentered, ?_⟩
  rcases arbiter.cycled state input with
    ⟨hnone, -, -, -⟩ | ⟨hold, hbefore, hsustains, hturn, hsource, -⟩ |
    ⟨-, hnothing, hturn, hsource, -⟩
  · exact absurd hnone hpath
  · have hdecision : decision.turn = hold.command := hturn
    have honly : ∀ other, state.held = some other → other = hold := fun other hother =>
      Option.some.inj (hother.symm.trans hbefore)
    rw [hvturn, hvsource] at hsource
    refine ⟨⟨fun hsame other hother _ => ?_, fun hall => ?_⟩, fun hsame => ?_, fun hother => ?_⟩
    · rw [honly other hother, ← hdecision, hsame]
    · rw [hdecision, hall hold hbefore hsustains]
    · exact hsource.trans (if_pos (hdecision.symm.trans hsame))
    · refine ⟨hsource.trans (if_neg (hdecision ▸ hother)), hold.requiredEnd, ?_⟩
      rw [hdecision]
      exact h.emittedSince hbefore
  · have hdecision : decision.turn = c.turn := hturn.trans hvturn
    refine ⟨⟨fun _ hold hheld hsustains => ?_, fun _ => hdecision⟩,
      fun _ => hsource.trans hvsource, fun hother => ?_⟩
    · exact absurd hsustains (hnothing hold hheld)
    · exact absurd hdecision hother

/-- In the shift, the turn is active and the hold goes on. -/
theorem leftTurn_active_in_shift :
    SignalArbiter.standard.Reached [⟨.initial, .beforeLeftTurn⟩] .inRightShift
      ∧ (SignalArbiter.standard.cycle .inRightShift (.onLeftTurn 22)).decision.approach.isActive
        = true
      ∧ (SignalArbiter.standard.cycle .inRightShift (.onLeftTurn 22)).decision.source = .held
      ∧ ∃ stop, SignalArbiter.standard.EmittedSince ⟨.right, stop⟩
        [⟨.initial, .beforeLeftTurn⟩] := by
  have hreached : SignalArbiter.standard.Reached [⟨.initial, .beforeLeftTurn⟩] .inRightShift :=
    .cycle .start .beforeLeftTurn
  obtain ⟨hactive, left, hleft, hturn⟩ := leftTurn_active
  obtain ⟨c, hc, -, -, -, -, hheld⟩ :=
    active_turn_blinks_iff .standard _ .inRightShift hreached (.onLeftTurn 22) hactive
  have hright := leftTurn_blinks_right hc
  obtain rfl : left = c := Option.some.inj (hleft.symm.trans hc)
  obtain ⟨hsource, hsince⟩ := hheld (by rw [hright, hturn]; decide)
  rw [hright] at hsince
  exact ⟨hreached, hactive, hsource, hsince⟩

/-- **The left turn is reported active, and the blinker to the right is on.** -/
theorem active_leftTurn_blinks_right :
    SignalArbiter.standard.Reached [⟨.initial, .beforeLeftTurn⟩] .inRightShift
      ∧ (SignalArbiter.standard.cycle .inRightShift (.onLeftTurn 22)).decision.approach.isActive
        = true
      ∧ (SignalArbiter.standard.cycle .inRightShift (.onLeftTurn 22)).decision.turn = .right
      ∧ ∃ c, (SignalArbiter.standard.cycle .inRightShift (.onLeftTurn 22)).decision.intersection
        = some c ∧ c.turn = .left := by
  obtain ⟨hactive, c, hc, hturn⟩ := leftTurn_active
  exact ⟨.cycle .start .beforeLeftTurn, hactive, leftTurn_blinks_right hc, c, hc, hturn⟩

end DriveDecision
