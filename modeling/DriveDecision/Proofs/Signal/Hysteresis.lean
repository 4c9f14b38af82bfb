import DriveDecision.Proofs.Signal.Hold

/-!
# Proofs/Signal/Hysteresis — overlapping requests for one side

    older request   ├────── held up to here ──────┤
    winner                    ├──────────────────────────────┤
    the other side                                  ├─────────────────┤

A command emitted from within a winner's required span (`Commits`) should stay up to the end of that
span.  It does if the cycle starts a hold for it.  But a hold for the same side that is still going
on keeps its own end: past it, the command stays only as long as arbitration happens to pick it
again (`committed_command_stays_iff`).
-/

namespace DriveDecision

namespace SignalArbiter

variable {α : Type} [Scalar α] {arbiter : SignalArbiter α} {state : SignalState α}
  {input : CycleInput α} {w : Candidate α} {command : TurnCommand} {stop : Pose α}
  {inputs : List (CycleInput α)}

variable (arbiter state input) in
/-- **A cycle commits to its winner**: it blinks on account of a candidate whose required span ego
is in. -/
structure Commits (w : Candidate α) : Prop where
  source : (arbiter.cycle state input).decision.source = .intersection
    ∨ (arbiter.cycle state input).decision.source = .behavior
  turn : (arbiter.cycle state input).decision.turn = .left
    ∨ (arbiter.cycle state input).decision.turn = .right
  winner : (arbiter.verdict state input).winner = some w
  reached : ((arbiter.egoOn input).spanOf w).requiredStart ≤ 0
  ahead : 0 ≤ ((arbiter.egoOn input).spanOf w).requiredEnd

instance [DecidableEq α] : Decidable (arbiter.Commits state input w) :=
  decidable_of_iff (((arbiter.cycle state input).decision.source = .intersection
        ∨ (arbiter.cycle state input).decision.source = .behavior)
      ∧ ((arbiter.cycle state input).decision.turn = .left
        ∨ (arbiter.cycle state input).decision.turn = .right)
      ∧ (arbiter.verdict state input).winner = some w
      ∧ ((arbiter.egoOn input).spanOf w).requiredStart ≤ 0
      ∧ 0 ≤ ((arbiter.egoOn input).spanOf w).requiredEnd)
    ⟨fun ⟨source, turn, winner, reached, ahead⟩ => ⟨source, turn, winner, reached, ahead⟩,
      fun ⟨source, turn, winner, reached, ahead⟩ => ⟨source, turn, winner, reached, ahead⟩⟩

/-! ## The hold in place after a commitment -/

namespace Commits

/-- It takes a path to commit, and what is emitted is what arbitration arrives at. -/
theorem path_and_turn (h : arbiter.Commits state input w) :
    input.path.points ≠ []
      ∧ (arbiter.cycle state input).decision.turn = (arbiter.verdict state input).turn := by
  have hcommits := h.source
  rcases arbiter.cycled state input with
    ⟨-, -, hsource, -⟩ | ⟨hold, -, hsustains, hturn, hsource, -⟩ | ⟨hpath, -, hturn, -, -⟩
  · simp [hsource] at hcommits
  · refine ⟨hsustains.path, hturn.trans ?_⟩
    -- a hold of another command would be the source
    by_contra hother
    simp [hsource, hother] at hcommits
  · exact ⟨hpath, hturn⟩

/-- The command is the winner's. -/
theorem turn_eq (h : arbiter.Commits state input w) :
    (arbiter.cycle state input).decision.turn = w.turn :=
  h.path_and_turn.2.trans (Ego.winner_weigh h.winner).2

/-- If nothing is carried, a hold up to the winner's end is in place afterwards. -/
theorem held_of_nothingCarried (h : arbiter.Commits state input w)
    (hnothing : arbiter.NothingCarried state input) :
    (arbiter.cycle state input).state.held = some ⟨w.turn, w.requiredEnd⟩ := by
  refine held_cycle_iff.2 (Or.inr
    ⟨hnothing, h.path_and_turn.1, ?_, w, h.winner, rfl, rfl, h.reached, h.ahead⟩)
  rw [← h.turn_eq]
  exact h.turn

end Commits

/-! ## From cycle to cycle -/

/-- A cycle that carries nothing emits what arbitration arrives at. -/
theorem turn_of_nothingCarried (hpath : input.path.points ≠ [])
    (hnothing : arbiter.NothingCarried state input) :
    (arbiter.cycle state input).decision.turn = (arbiter.verdict state input).turn := by
  rcases arbiter.cycled state input with
    ⟨hnone, -, -, -⟩ | ⟨hold, hbefore, hsustains, -, -, -⟩ | ⟨-, -, hturn, -, -⟩
  · exact absurd hnone hpath
  · exact absurd hsustains (hnothing hold hbefore)
  · exact hturn

/-- A command stays for a cycle if it is the one carried, or the one arbitration picks in want of
one. -/
theorem turn_of_carried (hpath : input.path.points ≠ [])
    (hheld : ∀ hold, state.held = some hold → hold.command = command)
    (hpicked : arbiter.NothingCarried state input → (arbiter.verdict state input).turn = command) :
    (arbiter.cycle state input).decision.turn = command := by
  by_cases hnothing : arbiter.NothingCarried state input
  · exact (turn_of_nothingCarried hpath hnothing).trans (hpicked hnothing)
  · simp only [NothingCarried, not_forall, not_not] at hnothing
    obtain ⟨hold, hbefore, hsustains⟩ := hnothing
    exact (cycle_of_sustains hbefore hsustains).1.trans (hheld hold hbefore)

/-- **A command stays along a run exactly if arbitration picks it whenever no hold goes on.** -/
theorem turn_of_sustained_iff (hheld : ∀ hold, state.held = some hold → hold.command = command) :
    (∀ r ∈ arbiter.sustained stop state inputs, (arbiter.outcome r).decision.turn = command)
      ↔ ∀ r ∈ arbiter.sustained stop state inputs, arbiter.NothingCarried r.before r.input →
        (arbiter.verdict r.before r.input).turn = command := by
  constructor
  · intro hstays r hmem hnothing
    have hpath := (sustains_of_mem_sustained hmem).path
    exact (turn_of_nothingCarried hpath hnothing).symm.trans (hstays r hmem)
  · intro hpicked
    -- what is held after a cycle is what the cycle emits, so the command is kept in the hold
    refine induction_of_sustained
      (motive := fun state => ∀ hold, state.held = some hold → hold.command = command) hheld
      fun r hmem hbefore => ?_
    have hturn : (arbiter.outcome r).decision.turn = command :=
      turn_of_carried (sustains_of_mem_sustained hmem).path hbefore (hpicked r hmem)
    exact ⟨hturn, fun hold hafter => (turn_of_held hafter).symm.trans hturn⟩

end SignalArbiter

/-- **How far a commitment reaches.**  After a cycle commits to a winner, its command stays up to
the winner's end whenever no earlier hold went on in the cycle.  If one did, it stays in place, and
the command stays up to the end of that one.  In either case the command stays along a run up to the
winner's end exactly if arbitration picks it in every cycle in which no hold goes on. -/
theorem committed_command_stays_iff {α : Type} [Scalar α] (arbiter : SignalArbiter α)
    (state : SignalState α) (input : CycleInput α) (w : Candidate α)
    (h : arbiter.Commits state input w) :
    let after := arbiter.cycle state input
    (arbiter.NothingCarried state input → ∀ inputs,
        ∀ r ∈ arbiter.sustained w.requiredEnd after.state inputs,
          (arbiter.outcome r).decision.turn = after.decision.turn)
      ∧ (∀ old, state.held = some old → arbiter.Sustains state input old.requiredEnd →
        old.command = after.decision.turn ∧ after.state.held = some old
          ∧ ∀ inputs, ∀ r ∈ arbiter.sustained old.requiredEnd after.state inputs,
              (arbiter.outcome r).decision.turn = after.decision.turn)
      ∧ ∀ inputs, (∀ r ∈ arbiter.sustained w.requiredEnd after.state inputs,
          (arbiter.outcome r).decision.turn = after.decision.turn)
        ↔ ∀ r ∈ arbiter.sustained w.requiredEnd after.state inputs,
          arbiter.NothingCarried r.before r.input →
            (arbiter.verdict r.before r.input).turn = after.decision.turn := by
  intro after
  refine ⟨fun hnothing inputs => ?_, fun old hheld hsustains => ?_, fun inputs => ?_⟩
  · have hheld : after.state.held = some ⟨w.turn, w.requiredEnd⟩ :=
      h.held_of_nothingCarried hnothing
    rw [show after.decision.turn = w.turn from h.turn_eq]
    exact SignalArbiter.turn_of_sustained hheld
  · obtain ⟨hturn, hkept⟩ := SignalArbiter.cycle_of_sustains hheld hsustains
    refine ⟨hturn.symm, hkept, fun inputs => ?_⟩
    rw [show after.decision.turn = old.command from hturn]
    exact SignalArbiter.turn_of_sustained hkept
  · exact SignalArbiter.turn_of_sustained_iff fun hold hafter =>
      (SignalArbiter.turn_of_held hafter).symm

/-- A shift to the left up to ten meters, and ego at five: with nothing held before, the blinker
stays on against a request to the right. -/
theorem leftShift_stays :
    let arbiter := SignalArbiter.standard
    let input := CycleInput.onAxis 5 (.onAxis .left 0 10)
    let after := arbiter.cycle .initial input
    let next := CycleInput.onAxis 8 (.onAxis .right 10 40)
    arbiter.Commits .initial input (.onAxis .left 0 10)
      ∧ arbiter.Sustains after.state next (.onAxis 10)
      ∧ (∀ r ∈ arbiter.sustained (.onAxis 10) after.state [next],
          (arbiter.outcome r).decision.turn = .left) := by
  intro arbiter input after next
  have hcommits : arbiter.Commits .initial input (.onAxis .left 0 10) := by
    decide +kernel
  have hturn : after.decision.turn = .left := by decide +kernel
  obtain ⟨hstays, -, -⟩ := committed_command_stays_iff arbiter .initial input _ hcommits
  refine ⟨hcommits, by decide +kernel, ?_⟩
  rw [← hturn]
  exact hstays (fun hold hnone => nomatch hnone) [next]

/-- **An overlapping shift to the same side is cut short.**  A first shift to the left is required
up to ten meters, the next one from five to thirty meters.  At eight meters ego is in both and the
second one has won; past ten meters the blinker changes sides, well before thirty. -/
theorem overlapping_shift_cut_short :
    let arbiter := SignalArbiter.standard
    let first := arbiter.cycle .initial (.onAxis 5 (.onAxis .left 0 10))
    let input := CycleInput.onAxis 8 (.onAxis .left 5 30)
    let second := arbiter.cycle first.state input
    let next := CycleInput.onAxis 15 (.onAxis .right 10 40)
    arbiter.Commits first.state input (.onAxis .left 5 30)
      ∧ second.decision.turn = .left
      ∧ ⟨second.state, next⟩ ∈ arbiter.sustained (.onAxis 30) second.state [next]
      ∧ (arbiter.cycle second.state next).decision.turn = .right := by
  intro arbiter first input second next
  have hcommits : arbiter.Commits first.state input (.onAxis .left 5 30) := by
    decide +kernel
  have hsustains : arbiter.Sustains second.state next (.onAxis 30) := by decide +kernel
  refine ⟨hcommits, by decide +kernel, ?_, by decide +kernel⟩
  simp [SignalArbiter.sustained, SignalArbiter.rounds, hsustains]

end DriveDecision
