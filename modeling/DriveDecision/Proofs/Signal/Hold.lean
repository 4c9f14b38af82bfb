import DriveDecision.Proofs.Signal.Cycles

/-!
# Proofs/Signal/Hold — how long a blinker is held

A hold starts with a verdict, from within the winner's required span (`Started`), and goes on for as
long as the cycles sustain it.  A cycle that does not, ends it: what is held afterwards is another
hold, or none (`not_held_of_not_sustains`).
-/

namespace DriveDecision

namespace SignalArbiter

variable {α : Type} [Scalar α] {arbiter : SignalArbiter α} {state : SignalState α}
  {input : CycleInput α} {hold : HeldSignal α} {stop : Pose α} {inputs : List (CycleInput α)}

variable (arbiter state input) in
/-- **A cycle starts a hold**: on a path, of the winner's command and up to the end of its required
span, with ego in that span. -/
def Started (hold : HeldSignal α) : Prop :=
  input.path.points ≠ [] ∧ (hold.command = .left ∨ hold.command = .right)
    ∧ ∃ w, (arbiter.verdict state input).winner = some w ∧ w.turn = hold.command
      ∧ w.requiredEnd = hold.requiredEnd
      ∧ ((arbiter.egoOn input).spanOf w).requiredStart ≤ 0
      ∧ 0 ≤ ((arbiter.egoOn input).spanOf w).requiredEnd

/-! ## One cycle -/

/-- **What is held after a cycle** was held before and is sustained, or is started when nothing held
before is. -/
theorem held_cycle_iff : (arbiter.cycle state input).state.held = some hold
    ↔ (state.held = some hold ∧ arbiter.Sustains state input hold.requiredEnd)
      ∨ (arbiter.NothingCarried state input ∧ arbiter.Started state input hold) := by
  constructor
  · intro h
    rcases arbiter.cycled state input with
      ⟨-, -, -, hheld⟩ | ⟨old, hbefore, hsustains, -, -, hheld⟩ | ⟨hpath, hnothing, -, -, hheld⟩
    · rw [hheld] at h
      cases h
    · obtain rfl : old = hold := Option.some.inj (hheld.symm.trans h)
      exact Or.inl ⟨hbefore, hsustains⟩
    · obtain ⟨w, hwinner, -, hturn, henabled, hend, hspan⟩ :=
        Ego.newHold_eq_some_iff.1 (hheld.symm.trans h)
      have hcommand := TurnCommand.isEnabled_iff.1 henabled
      exact Or.inr ⟨hnothing, hpath, hcommand, w, hwinner, hturn, hend, hspan⟩
  · rintro (⟨hheld, hsustains⟩ | ⟨hnothing, hpath, hcommand, w, hwinner, hturn, hend, hspan⟩)
    · exact (cycle_of_sustains hheld hsustains).2
    · rcases arbiter.cycled state input with
        ⟨hnone, -, -, -⟩ | ⟨old, hbefore, hsustains, -, -, -⟩ | ⟨-, -, -, -, hheld⟩
      · exact absurd hnone hpath
      · exact absurd hsustains (hnothing old hbefore)
      · have hverdict := (Ego.winner_weigh hwinner).2.trans hturn
        exact hheld.trans (Ego.newHold_eq_some_iff.2 ⟨w, hwinner, hverdict, hturn,
          TurnCommand.isEnabled_iff.2 hcommand, hend, hspan⟩)

/-- A hold that has just started could have gone on. -/
theorem sustains_of_started (h : arbiter.Started state input hold) :
    arbiter.Sustains state input hold.requiredEnd := by
  obtain ⟨hpath, hcommand, w, hwinner, hturn, hend, -, hahead⟩ := h
  refine ⟨hpath, isRequested_of_winner hwinner ?_, ?_⟩
  · rw [hturn]
    exact TurnCommand.isEnabled_iff.2 hcommand
  · rw [← hend]
    exact hahead

/-- **A hold that is not sustained is gone**, and does not start over. -/
theorem not_held_of_not_sustains (hsustains : ¬ arbiter.Sustains state input hold.requiredEnd) :
    (arbiter.cycle state input).state.held ≠ some hold := by
  intro h
  rcases held_cycle_iff.1 h with ⟨-, hkept⟩ | ⟨-, hstarted⟩
  · exact hsustains hkept
  · exact hsustains (sustains_of_started hstarted)

/-! ## Whole runs -/

/-- **A hold prevails in all the cycles that sustain it.** -/
theorem turn_of_sustained (hheld : state.held = some hold) :
    ∀ r ∈ arbiter.sustained hold.requiredEnd state inputs,
      (arbiter.outcome r).decision.turn = hold.command :=
  induction_of_sustained (motive := fun state => state.held = some hold) hheld
    fun _ hmem hbefore => cycle_of_sustains hbefore (sustains_of_mem_sustained hmem)

end SignalArbiter

/-- **The life of a hold.**  Whatever is remembered and whatever a cycle looks at: a hold that is
sustained is emitted and stays as it is, and one that is not sustained is gone.  A hold that was not
there before is started by the cycle, which emits it; and so do all cycles after it, until the first
that has no path, or no request for a blinker, or ego past the end. -/
theorem hold_lifecycle {α : Type} [Scalar α] (arbiter : SignalArbiter α) (state : SignalState α)
    (input : CycleInput α) :
    let after := arbiter.cycle state input
    (∀ hold, state.held = some hold →
        (arbiter.Sustains state input hold.requiredEnd →
          after.decision.turn = hold.command ∧ after.state.held = some hold)
        ∧ (¬ arbiter.Sustains state input hold.requiredEnd → after.state.held ≠ some hold))
      ∧ ∀ hold, after.state.held = some hold → state.held ≠ some hold →
        arbiter.Started state input hold
          ∧ after.decision.turn = hold.command
          ∧ ∀ inputs, ∀ r ∈ arbiter.sustained hold.requiredEnd after.state inputs,
              (arbiter.outcome r).decision.turn = hold.command := by
  intro after
  refine ⟨fun hold hheld => ⟨SignalArbiter.cycle_of_sustains hheld,
    SignalArbiter.not_held_of_not_sustains⟩, fun hold hheld hnew => ?_⟩
  refine ⟨?_, SignalArbiter.turn_of_held hheld, fun inputs => SignalArbiter.turn_of_sustained hheld⟩
  rcases SignalArbiter.held_cycle_iff.1 hheld with ⟨hbefore, -⟩ | ⟨-, hstarted⟩
  · exact absurd hbefore hnew
  · exact hstarted

/-- A shift to the left, held against a request to the right. -/
theorem leftShift_held :
    let arbiter := SignalArbiter.standard
    let first := arbiter.cycle .initial (.onAxis 5 (.onAxis .left 0 10))
    let input := CycleInput.onAxis 8 (.onAxis .right 10 40)
    first.state.held = some ⟨.left, .onAxis 10⟩
      ∧ arbiter.Sustains first.state input (.onAxis 10)
      ∧ arbiter.Started .initial (.onAxis 5 (.onAxis .left 0 10)) ⟨.left, .onAxis 10⟩
      ∧ (arbiter.cycle first.state input).decision.turn = .left
      ∧ ∀ r ∈ arbiter.sustained (.onAxis 10) first.state [input],
          (arbiter.outcome r).decision.turn = .left := by
  intro arbiter first input
  have hheld : first.state.held = some ⟨.left, .onAxis 10⟩ := by decide +kernel
  have hsustains : arbiter.Sustains first.state input (.onAxis 10) := by decide +kernel
  have hnone : (SignalState.initial : SignalState Float).held = none := rfl
  obtain ⟨-, hnew⟩ := hold_lifecycle arbiter .initial (.onAxis 5 (.onAxis .left 0 10))
  obtain ⟨hstarted, -, hrun⟩ := hnew ⟨.left, .onAxis 10⟩ hheld (by rw [hnone]; exact nofun)
  obtain ⟨hkept, -⟩ := hold_lifecycle arbiter first.state input
  exact ⟨hheld, hsustains, hstarted, ((hkept _ hheld).1 hsustains).1, hrun [input]⟩

end DriveDecision
