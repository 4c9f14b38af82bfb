import DriveDecision.Proofs.Failsafe.Commanded
import DriveDecision.Proofs.Failsafe.Escalation

/-!
# Proofs/Failsafe/Completion — which maneuver is reported as completed

    flags ─────────▸ phase     normal → operating ──stopped──▸ succeeded
    fault level ───▸ maneuver           none, until demanded ──▸ (no matter)

The flags of a report start an episode, and its level starts a maneuver: an episode can come to its
end without one, when ego stops before any level demands it.  What is reported as completed is a
maneuver exactly if one was demanded while operating, and then it was started.
-/

namespace DriveDecision

variable {useComfortableStop : Bool} {ticks : List Published}

/-- A fault level demands a maneuver from a latent fault on. -/
theorem FaultLevel.demand_ne_none_iff {level : FaultLevel} :
    level.demand useComfortableStop ≠ .none
      ↔ level = .latentFault ∨ level = .singlePointFault := by
  cases level <;> cases useComfortableStop <;> decide

theorem Maneuver.ne_none_iff {m : Maneuver} :
    m ≠ .none ↔ m = .comfortableStop ∨ m = .emergencyStop := by
  cases m <;> decide

/-- **The greatest of some demands is a maneuver if any of them is.** -/
theorem ne_none_iff_of_isGreatest_demands {m : Maneuver}
    (h : IsGreatest (demands useComfortableStop ticks) m) :
    m ≠ .none ↔ ∃ tick ∈ ticks, tick.demand useComfortableStop ≠ .none := by
  constructor
  · intro hm
    obtain ⟨tick, hmem, hdemand⟩ := h.1
    exact ⟨tick, hmem, hdemand ▸ hm⟩
  · rintro ⟨tick, hmem, hdemand⟩ rfl
    exact hdemand (le_antisymm (h.2 ⟨tick, hmem, rfl⟩) (Maneuver.none_le _))

namespace System

/-- What a tick publishes is what is recorded after it. -/
theorem state_step_of_published {system : System} {event : Event} {tick : Published}
    (h : system.publishedBy? event = some tick) :
    (system.step event).1.handler.state = tick.output.state := by
  rcases system.step_advances event with ⟨hnone, -⟩ | ⟨other, hsome, hstate, -⟩
  · cases hnone.symm.trans h
  · rw [hstate, Option.some.inj (hsome.symm.trans h)]

end System

/-- **What is reported as completed was started.**  Whenever a run of a new handler publishes the
phase succeeded, it names a maneuver exactly if some tick of the episode that ended in operating
acted on a latent or a single point fault; the maneuver it names was activated and not cancelled
since. -/
theorem completed_iff_demanded (settings : FailsafeSettings) (clock : Clock) (store : Store)
    (responder : Responder) (events : List Event) (event : Event) (tick : Published)
    (hpublished : ((System.fresh settings clock store responder).after events).publishedBy? event
      = some tick)
    (hsucceeded : tick.output.state.phase = .succeeded) :
    let start := System.fresh settings clock store responder
    let episode := underway (beforeSuccess (start.published (events ++ [event])))
    let completed := tick.output.state.maneuver
    ((completed = .comfortableStop ∨ completed = .emergencyStop)
        ↔ ∃ demanding ∈ episode, demanding.input.level = .latentFault
            ∨ demanding.input.level = .singlePointFault)
      ∧ (completed ≠ .none → commandedOn (start.calls (events ++ [event])) completed = true) := by
  intro start episode completed
  have hstate : (start.after (events ++ [event])).handler.state = tick.output.state := by
    rw [System.after_concat]
    exact System.state_step_of_published hpublished
  have hfollows : FollowsDemands settings.useComfortableStop
      (start.after (events ++ [event])).handler.state (start.published (events ++ [event])) :=
    System.after_followsDemands settings clock store responder (events ++ [event])
  have hobeys : Obeys (start.after (events ++ [event])).handler.state.maneuver _
      (start.calls (events ++ [event])) :=
    (System.after_obeys settings clock store responder (events ++ [event])).1
  rw [hstate] at hfollows hobeys
  have hgreatest : IsGreatest (demands settings.useComfortableStop episode) completed :=
    hfollows.succeeded hsucceeded
  refine ⟨?_, fun hne => (hobeys.isOnly completed).2 ⟨rfl, hne⟩⟩
  rw [← Maneuver.ne_none_iff, ne_none_iff_of_isGreatest_demands hgreatest]
  simp only [Published.demand, FaultLevel.demand_ne_none_iff]

/-- The emergency stop that took over is on when ego has stopped, and is reported as completed. -/
theorem latentFault_completes :
    let events := [.tick] ++ System.worseAfterOutage ++ [.tick, .write (.speed 0)]
    ∃ tick, (System.latentFault.after events).publishedBy? .tick = some tick
      ∧ tick.output.state = ⟨.succeeded, .emergencyStop, .zero⟩
      ∧ (∃ demanding ∈ underway (beforeSuccess (System.latentFault.published (events ++ [.tick]))),
          demanding.input.level = .latentFault ∨ demanding.input.level = .singlePointFault)
      ∧ commandedOn (System.latentFault.calls (events ++ [.tick])) .emergencyStop = true := by
  intro events
  have hstate : ((System.latentFault.after events).publishedBy? .tick).map (·.output.state)
      = some ⟨.succeeded, .emergencyStop, .zero⟩ := by decide +kernel
  -- from here on it does not matter which events they are
  clear_value events
  obtain ⟨tick, hpublished, houtput⟩ := Option.map_eq_some_iff.1 hstate
  obtain ⟨hdemanded, hon⟩ := completed_iff_demanded System.latentFault.settings
    System.latentFault.clock System.latentFault.store System.latentFault.responder events .tick tick
    hpublished (by rw [houtput])
  rw [houtput] at hdemanded hon
  exact ⟨tick, hpublished, houtput, hdemanded.1 (Or.inr rfl), hon nofun⟩

namespace System

/-- An emergency of a moving autonomous vehicle that is raised by a flag alone, without a fault. -/
def flagged : System :=
  .fresh .standard ⟨0⟩
    { latentFault.store with hazard := some ⟨.zero, ⟨.noFault, true, false⟩⟩ } {}

end System

/-- **An episode without a fault completes no maneuver**, and yet succeeds when ego stops: no module
is ever called. -/
theorem flagged_succeeds_without_maneuver :
    let events := [.tick, .write (.speed 0)]
    ((System.flagged.after events).publishedBy? .tick).map (·.output.state)
        = some ⟨.succeeded, .none, .zero⟩
      ∧ System.flagged.calls (events ++ [.tick]) = [] := by
  decide +kernel

end DriveDecision
