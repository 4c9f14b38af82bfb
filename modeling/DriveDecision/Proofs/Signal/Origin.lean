import DriveDecision.Proofs.Signal.Anchoring
import DriveDecision.Proofs.Signal.Hold

/-!
# Proofs/Signal/Origin — every command comes from a request

    intersection ─┐
                  ├──arbitration──▸ emitted ──required span──▸ held ──▸ emitted ──▸ …
    behavior ─────┘

What a cycle emits is the command of one of its own candidates (`Origin`), or it is held over from
an earlier cycle.  A hold remembers neither that cycle nor the ones since; the history does
(`Reached`): it was started inside the required span of a winner, and has been emitted ever since
(`EmittedSince`).
-/

namespace DriveDecision

variable {α : Type}

/-! ## Arbitration -/

/-- **Where a command comes from** among the candidates of its cycle. -/
inductive Origin (inter : Option (Candidate α)) (beh : Candidate α) (turn : TurnCommand)
    (source : SignalSource) : Prop where
  | neither (turn : turn = .noCommand) (source : source = .neither)
  | intersection (c : Candidate α) (inter : inter = some c)
      (blinks : c.turn = .left ∨ c.turn = .right) (turn : turn = c.turn)
      (source : source = .intersection)
  | behavior (asks : beh.turn ≠ .noCommand) (turn : turn = beh.turn) (source : source = .behavior)

namespace Origin

variable {inter : Option (Candidate α)} {beh : Candidate α} {turn : TurnCommand}
  {source : SignalSource}

theorem neither_iff (h : Origin inter beh turn source) :
    source = .neither ↔ turn = .noCommand := by
  cases h with
  | neither hturn hsource => simp [hturn, hsource]
  | intersection c _ hblinks hturn hsource =>
    rcases hblinks with hc | hc <;> simp [hsource, hturn, hc]
  | behavior hasks hturn hsource => simp [hsource, hturn, hasks]

theorem of_intersection (h : Origin inter beh turn source) (hsource : source = .intersection) :
    ∃ c, inter = some c ∧ turn = c.turn ∧ (c.turn = .left ∨ c.turn = .right) := by
  cases h with
  | neither _ hother => cases hother.symm.trans hsource
  | intersection c hc hblinks hturn _ => exact ⟨c, hc, hturn, hblinks⟩
  | behavior _ _ hother => cases hother.symm.trans hsource

theorem of_behavior (h : Origin inter beh turn source) (hsource : source = .behavior) :
    turn = beh.turn ∧ turn ≠ .noCommand := by
  cases h with
  | neither _ hother => cases hother.symm.trans hsource
  | intersection _ _ _ _ hother => cases hother.symm.trans hsource
  | behavior hasks hturn _ => exact ⟨hturn, hturn ▸ hasks⟩

theorem not_held (h : Origin inter beh turn source) : source ≠ .held := by
  cases h with
  | neither _ hsource | intersection _ _ _ _ hsource | behavior _ _ hsource => simp [hsource]

/-- A side that blinks is asked for. -/
theorem isRequested {decision : Decision α}
    (h : Origin decision.intersection decision.behavior turn source)
    (hblinks : turn = .left ∨ turn = .right) : decision.isRequested = true := by
  rw [Decision.isRequested, Bool.or_eq_true]
  cases h with
  | neither hturn => simp [hturn] at hblinks
  | intersection c hc henabled =>
    rw [hc]
    exact Or.inr (TurnCommand.isEnabled_iff.2 henabled)
  | behavior _ hturn => exact Or.inl (TurnCommand.isEnabled_iff.2 (hturn ▸ hblinks))

end Origin

variable [Scalar α]

/-- **Arbitration makes no commands up**, given that a turn blinks. -/
theorem Ego.origin_weigh {ego : Ego α} {inter : Option (Candidate α)} {beh : Candidate α}
    (hinter : ∀ c, inter = some c → c.turn = .left ∨ c.turn = .right) :
    Origin inter beh (ego.weigh inter beh).turn (ego.weigh inter beh).source := by
  rcases inter with _ | c
  · by_cases hasks : beh.turn = .noCommand
    · exact .neither hasks (if_pos hasks)
    · exact .behavior hasks rfl (if_neg hasks)
  · have hturn : Origin (some c) beh (ego.forIntersection c).turn (ego.forIntersection c).source :=
      .intersection c rfl (hinter c rfl) rfl rfl
    simp only [weigh]
    split
    · exact hturn
    · rename_i hactive
      split
      · exact hturn
      · refine .behavior (fun hnone => hactive ?_) rfl rfl
        rw [hnone]
        rfl
      · exact .neither rfl rfl
      · exact .neither rfl rfl

namespace SignalArbiter

variable {arbiter : SignalArbiter α} {state : SignalState α} {input : CycleInput α}
  {hold : HeldSignal α} {passed : List (Round α)} {r : Round α}

/-- A turn is only reported to be signalled. -/
theorem blinks_of_intersection {c : Candidate α}
    (hc : (arbiter.cycle state input).decision.intersection = some c) :
    c.turn = .left ∨ c.turn = .right := by
  by_cases hpath : input.path.points = []
  · rw [cycle, locate?, Path.locate?_eq_none_iff.2 hpath] at hc
    cases hc
  · obtain ⟨t, hnext, hcandidate, -⟩ :=
      (show arbiter.KeepsAnchors ⟨state, input⟩ from keepsAnchors hpath).reported c hc
    have hturn : t.lane.turn = .left ∨ t.lane.turn = .right :=
      (Ego.mem_turnsAhead_iff.1 (mem_of_firstOrLast? hnext)).turn
    rw [hcandidate, Turn.candidate]
    exact hturn.imp (congrArg TurnDirection.command) (congrArg TurnDirection.command)

variable (arbiter state input) in
theorem origin_verdict :
    Origin (arbiter.cycle state input).decision.intersection
      (arbiter.cycle state input).decision.behavior (arbiter.verdict state input).turn
      (arbiter.verdict state input).source := by
  rw [behavior_cycle]
  exact Ego.origin_weigh fun _ => blinks_of_intersection

variable (arbiter state input) in
/-- **What a cycle emits is the command of one of its candidates, or the one it holds.** -/
theorem origin_cycle :
    let decision := (arbiter.cycle state input).decision
    Origin decision.intersection decision.behavior decision.turn decision.source
      ∨ ∃ hold, decision.source = .held ∧ decision.turn = hold.command ∧ state.held = some hold
        ∧ decision.isRequested = true := by
  intro decision
  rcases arbiter.cycled state input with
    ⟨-, hturn, hsource, -⟩ | ⟨hold, hbefore, hsustains, hturn, hsource, -⟩ |
    ⟨-, -, hturn, hsource, -⟩
  · exact Or.inl (.neither hturn hsource)
  · by_cases hsame : hold.command = (arbiter.verdict state input).turn
    · rw [if_pos hsame] at hsource
      left
      rw [show decision.turn = _ from hturn.trans hsame, show decision.source = _ from hsource]
      exact arbiter.origin_verdict state input
    · rw [if_neg hsame] at hsource
      exact Or.inr ⟨hold, hsource, hturn, hbefore, hsustains.requested⟩
  · left
    rw [show decision.turn = _ from hturn, show decision.source = _ from hsource]
    exact arbiter.origin_verdict state input

/-! ## Histories -/

/-- **What an arbiter has been through**: the cycles since it was made, and what it remembers after
them.  A reset leaves nothing to remember. -/
inductive Reached (arbiter : SignalArbiter α) : List (Round α) → SignalState α → Prop where
  | start : Reached arbiter [] .initial
  | cycle {passed : List (Round α)} {state : SignalState α} (reached : Reached arbiter passed state)
      (input : CycleInput α) :
      Reached arbiter (passed ++ [⟨state, input⟩]) (arbiter.cycle state input).state
  | reset {passed : List (Round α)} {state : SignalState α}
      (reached : Reached arbiter passed state) : Reached arbiter passed .initial

variable (arbiter hold passed) in
/-- **The command of a hold has been emitted since the cycle that started it.** -/
def EmittedSince : Prop :=
  ∃ before first since, passed = before ++ first :: since
    ∧ arbiter.Started first.before first.input hold
    ∧ ∀ r ∈ first :: since, (arbiter.outcome r).decision.turn = hold.command

theorem emittedSince_of_started (hstarted : arbiter.Started r.before r.input hold)
    (hturn : (arbiter.outcome r).decision.turn = hold.command) :
    arbiter.EmittedSince hold (passed ++ [r]) := by
  refine ⟨passed, r, [], rfl, hstarted, fun later hlater => ?_⟩
  rw [List.mem_singleton.1 hlater]
  exact hturn

theorem EmittedSince.concat (h : arbiter.EmittedSince hold passed)
    (hturn : (arbiter.outcome r).decision.turn = hold.command) :
    arbiter.EmittedSince hold (passed ++ [r]) := by
  obtain ⟨before, first, since, rfl, hstarted, hsince⟩ := h
  refine ⟨before, first, since ++ [r], by simp, hstarted, fun later hlater => ?_⟩
  rw [← List.cons_append] at hlater
  rcases List.mem_append.1 hlater with hlater | hlater
  · exact hsince later hlater
  · rw [List.mem_singleton.1 hlater]
    exact hturn

/-- **A hold is never without its history.** -/
theorem Reached.emittedSince (h : arbiter.Reached passed state) (hheld : state.held = some hold) :
    arbiter.EmittedSince hold passed := by
  induction h with
  | start => cases hheld
  | reset => cases hheld
  | cycle _ input ih =>
    have hturn := turn_of_held hheld
    rcases held_cycle_iff.1 hheld with ⟨hbefore, -⟩ | ⟨-, hstarted⟩
    · exact (ih hbefore).concat hturn
    · exact emittedSince_of_started hstarted hturn

theorem EmittedSince.blinks (h : arbiter.EmittedSince hold passed) :
    hold.command = .left ∨ hold.command = .right := by
  obtain ⟨-, -, -, -, ⟨-, hcommand, -⟩, -⟩ := h
  exact hcommand

/-! ## What a decision says about itself -/

/-- **The source a decision names is the origin of its command**, in a cycle that comes after
`passed`. -/
structure IsSourced (arbiter : SignalArbiter α) (passed : List (Round α)) (input : CycleInput α)
    (decision : Decision α) : Prop where
  neither : decision.source = .neither ↔ decision.turn = .noCommand
  intersection : decision.source = .intersection →
    ∃ c, decision.intersection = some c ∧ decision.turn = c.turn
      ∧ (c.turn = .left ∨ c.turn = .right)
  behavior : decision.source = .behavior →
    decision.turn = input.behavior.turn ∧ decision.turn ≠ .noCommand
  /-- What is held blinks, was started inside the winner's required span, has been emitted since,
  and is still asked for. -/
  held : decision.source = .held →
    (decision.turn = .left ∨ decision.turn = .right) ∧ decision.isRequested = true
      ∧ ∃ stop, arbiter.EmittedSince ⟨decision.turn, stop⟩ passed
  /-- No side blinks unless a candidate asks for a blinker. -/
  requested : decision.turn = .left ∨ decision.turn = .right → decision.isRequested = true
  hazard : decision.hazard = input.behavior.hazard
  handedOn : decision.behavior = input.behavior

namespace IsSourced

variable {decision : Decision α}

/-- A command of one of the candidates is sourced… -/
theorem of_origin (hhazard : decision.hazard = input.behavior.hazard)
    (hbehavior : decision.behavior = input.behavior)
    (h : Origin decision.intersection decision.behavior decision.turn decision.source) :
    arbiter.IsSourced passed input decision where
  neither := h.neither_iff
  intersection := h.of_intersection
  behavior := fun hsource => hbehavior ▸ h.of_behavior hsource
  held := fun hsource => absurd hsource h.not_held
  requested := h.isRequested
  hazard := hhazard
  handedOn := hbehavior

/-- …and so is one that is held. -/
theorem of_held (hhazard : decision.hazard = input.behavior.hazard)
    (hbehavior : decision.behavior = input.behavior) (hsource : decision.source = .held)
    (hturn : decision.turn = hold.command) (hrequested : decision.isRequested = true)
    (h : arbiter.EmittedSince hold passed) : arbiter.IsSourced passed input decision := by
  have hblinks : decision.turn = .left ∨ decision.turn = .right := hturn ▸ h.blinks
  exact
    { neither := by rcases hblinks with hside | hside <;> simp [hsource, hside]
      intersection := fun hother => by cases hsource.symm.trans hother
      behavior := fun hother => by cases hsource.symm.trans hother
      held := fun _ => ⟨hblinks, hrequested, hold.requiredEnd, hturn ▸ h⟩
      requested := fun _ => hrequested
      hazard := hhazard
      handedOn := hbehavior }

end IsSourced

theorem hazard_cycle :
    (arbiter.cycle state input).decision.hazard = input.behavior.hazard := by
  unfold cycle
  rcases arbiter.locate? input.path input.pose with _ | ego
  · rfl
  · rfl

end SignalArbiter

/-- **Every command has a live origin.**  Whatever an arbiter has been through, the next cycle names
the source of what it emits: no source exactly if it commands nothing; the intersection only if
there is a candidate of a turn, whose blinker it is; the behavior only if that asks for the command;
and a hold only if the command is a blinker that an earlier cycle started inside the required span
of its winner, that every cycle since has emitted, and that some candidate still asks for. -/
theorem command_has_live_origin (arbiter : SignalArbiter α) (passed : List (Round α))
    (state : SignalState α) (h : arbiter.Reached passed state) (input : CycleInput α) :
    arbiter.IsSourced passed input (arbiter.cycle state input).decision := by
  rcases arbiter.origin_cycle state input with horigin | ⟨hold, hsource, hturn, hheld, hrequested⟩
  · exact .of_origin SignalArbiter.hazard_cycle SignalArbiter.behavior_cycle horigin
  · exact .of_held SignalArbiter.hazard_cycle SignalArbiter.behavior_cycle hsource hturn hrequested
      (h.emittedSince hheld)

/-- A shift to the left blinks on its own account, and then against a request to the right. -/
theorem leftShift_sourced :
    let arbiter := SignalArbiter.standard
    let shift := CycleInput.onAxis 5 (.onAxis .left 0 10)
    let first := arbiter.cycle .initial shift
    let second := arbiter.cycle first.state (.onAxis 8 (.onAxis .right 10 40))
    first.decision.source = .behavior
      ∧ first.decision.turn = shift.behavior.turn
      ∧ arbiter.Reached [⟨.initial, shift⟩] first.state
      ∧ second.decision.source = .held
      ∧ second.decision.isRequested = true
      ∧ ∃ stop, arbiter.EmittedSince ⟨second.decision.turn, stop⟩ [⟨.initial, shift⟩] := by
  intro arbiter shift first second
  have hreached : arbiter.Reached [⟨.initial, shift⟩] first.state := .cycle .start shift
  have hbehavior : first.decision.source = .behavior := by decide +kernel
  have hheld : second.decision.source = .held := by decide +kernel
  have hfirst := command_has_live_origin arbiter [] .initial .start shift
  have hsecond := command_has_live_origin arbiter _ first.state hreached
    (.onAxis 8 (.onAxis .right 10 40))
  obtain ⟨-, hrequested, hsince⟩ := hsecond.held hheld
  exact ⟨hbehavior, (hfirst.behavior hbehavior).1, hreached, hheld, hrequested, hsince⟩

end DriveDecision
