import DriveDecision.Proofs.Failsafe.Published
import Mathlib.Data.List.DropRight
import Mathlib.Order.Bounds.Basic

/-!
# Proofs/Failsafe/Escalation — the maneuver is the greatest one demanded

    phase       normal │ operating                         │ succeeded      │ normal
    demanded           │ none  comfortable  none  emergency│ (no matter)    │
    recorded    none   │ none  comfortable  ────  emergency│ ───────────────│ none

Every published tick demands a maneuver, by the fault level it acts on.  While operating, the
maneuver on record is the greatest one demanded since the phase was entered; once succeeded it
stays, until a tick without an emergency ends it all (`FollowsDemands`).
-/

namespace DriveDecision

variable {ticks : List Published} {tick : Published} {before after : ManeuverState}
  {useComfortableStop : Bool}

/-! ## What is demanded -/

namespace Maneuver

/-- From doing nothing to stopping at once. -/
def urgency : Maneuver → Nat
  | none => 0
  | comfortableStop => 1
  | emergencyStop => 2

theorem urgency_injective : Function.Injective urgency := by
  intro m m' h
  cases m <;> cases m' <;> first | rfl | cases h

instance : LinearOrder Maneuver := LinearOrder.lift' urgency urgency_injective

theorem none_le (m : Maneuver) : none ≤ m := Nat.zero_le m.urgency

end Maneuver

/-- **The maneuver a fault level demands.** -/
def FaultLevel.demand (level : FaultLevel) (useComfortableStop : Bool) : Maneuver :=
  match level with
  | .noFault | .safeFault => .none
  | .latentFault => if useComfortableStop then .comfortableStop else .emergencyStop
  | .singlePointFault => .emergencyStop

theorem FaultLevel.useComfortableStop_of_demand {level : FaultLevel}
    (h : level.demand useComfortableStop = .comfortableStop) : useComfortableStop = true := by
  cases level <;> simp_all [demand]

/-- **To escalate is to take the greater one**, given that a comfortable stop is only under way
where it is in use. -/
theorem Maneuver.escalate_eq_max {running : Maneuver} {level : FaultLevel}
    (h : running = .comfortableStop → useComfortableStop = true) :
    running.escalate level useComfortableStop = max (level.demand useComfortableStop) running := by
  cases running <;> cases level <;> cases useComfortableStop <;> first | rfl | simp at h

namespace Published

/-- The maneuver a tick demands, by the level it acts on. -/
def demand (tick : Published) (useComfortableStop : Bool) : Maneuver :=
  tick.input.level.demand useComfortableStop

/-- A tick ends in a phase. -/
def endsIn (tick : Published) (phase : Phase) : Bool := tick.output.state.phase = phase

end Published

/-- What some ticks demand. -/
def demands (useComfortableStop : Bool) (ticks : List Published) : Set Maneuver :=
  {m | ∃ tick ∈ ticks, tick.demand useComfortableStop = m}

theorem demands_singleton :
    demands useComfortableStop [tick] = {tick.demand useComfortableStop} := by
  ext m
  simp [demands, eq_comm]

theorem demands_concat : demands useComfortableStop (ticks ++ [tick])
    = insert (tick.demand useComfortableStop) (demands useComfortableStop ticks) := by
  ext m
  simp [demands, or_and_right, exists_or, eq_comm, or_comm]

/-! ## The ticks of an episode -/

/-- **The ticks since operating was entered**: the last ones that all end in it. -/
def underway (ticks : List Published) : List Published := ticks.rtakeWhile (·.endsIn .operating)

/-- The ticks before the maneuver succeeded: all but the last ones that end so. -/
def beforeSuccess (ticks : List Published) : List Published :=
  ticks.rdropWhile (·.endsIn .succeeded)

theorem underway_concat : underway (ticks ++ [tick])
    = if tick.output.state.phase = .operating then underway ticks ++ [tick] else [] := by
  simp [underway, List.rtakeWhile_concat, Published.endsIn]

theorem beforeSuccess_concat : beforeSuccess (ticks ++ [tick])
    = if tick.output.state.phase = .succeeded then beforeSuccess ticks else ticks ++ [tick] := by
  simp [beforeSuccess, List.rdropWhile_concat, Published.endsIn]

/-- An episode that is under way has not succeeded. -/
theorem beforeSuccess_of_underway (h : underway ticks ≠ []) : beforeSuccess ticks = ticks := by
  simp only [underway, ne_eq, List.rtakeWhile_eq_nil_iff, not_forall, not_not] at h
  obtain ⟨hne, hlast⟩ := h
  refine List.rdropWhile_eq_self_iff.2 fun _ hsucceeded => ?_
  simp only [Published.endsIn, decide_eq_true_eq] at hlast hsucceeded
  rw [hlast] at hsucceeded
  cases hsucceeded

/-! ## The record follows the demands -/

/-- **The record follows the demands** of the ticks so far. -/
structure FollowsDemands (useComfortableStop : Bool) (state : ManeuverState)
    (ticks : List Published) : Prop where
  not_failed : state.phase ≠ .failed
  normal : state.phase = .normal → state.maneuver = .none ∧ underway ticks = []
  operating : state.phase = .operating →
    IsGreatest (demands useComfortableStop (underway ticks)) state.maneuver
  succeeded : state.phase = .succeeded →
    IsGreatest (demands useComfortableStop (underway (beforeSuccess ticks))) state.maneuver

/-- The phase stays, or is the next one. -/
def Phase.Leads (before after : Phase) : Prop :=
  after = before ∨ (before = .normal ∧ after = .operating)
    ∨ (before = .operating ∧ after = .succeeded)

namespace FollowsDemands

theorem start (now : Duration) : FollowsDemands useComfortableStop (.idle now) [] where
  not_failed := nofun
  normal := fun _ => ⟨rfl, rfl⟩
  operating := nofun
  succeeded := nofun

/-- A comfortable stop is only under way where it is in use. -/
theorem useComfortableStop_of_comfortableStop
    (h : FollowsDemands useComfortableStop before ticks)
    (hphase : before.phase = .normal ∨ before.phase = .operating)
    (hcomfortable : before.maneuver = .comfortableStop) : useComfortableStop = true := by
  rcases hphase with hnormal | hoperating
  · rw [(h.normal hnormal).1] at hcomfortable
    cases hcomfortable
  · obtain ⟨tick, -, hdemand⟩ := (h.operating hoperating).1
    exact FaultLevel.useComfortableStop_of_demand (hdemand.trans hcomfortable)

/-- **A tick while operating takes the greater one** of the record and its demand. -/
theorem engaged (h : FollowsDemands useComfortableStop before ticks)
    (hphase : before.phase = .normal ∨ before.phase = .operating) :
    IsGreatest (demands useComfortableStop (underway ticks ++ [tick]))
      (before.maneuver.escalate tick.input.level useComfortableStop) := by
  rw [Maneuver.escalate_eq_max (h.useComfortableStop_of_comfortableStop hphase)]
  rcases hphase with hnormal | hoperating
  · obtain ⟨hnone, hunderway⟩ := h.normal hnormal
    rw [hunderway, hnone, max_eq_left (Maneuver.none_le _), List.nil_append, demands_singleton]
    exact isGreatest_singleton
  · rw [demands_concat]
    exact (h.operating hoperating).insert _

/-- A tick that ends in normal has nothing to follow. -/
theorem of_normal (hphase : tick.output.state.phase = .normal)
    (hmaneuver : tick.output.state.maneuver = .none) :
    FollowsDemands useComfortableStop tick.output.state (ticks ++ [tick]) where
  not_failed := by simp [hphase]
  normal := fun _ => ⟨hmaneuver, by simp [underway_concat, hphase]⟩
  operating := fun h => by simp [hphase] at h
  succeeded := fun h => by simp [hphase] at h

/-- One that ends in operating adds its demand. -/
theorem of_operating (h : FollowsDemands useComfortableStop before ticks)
    (hbefore : before.phase = .normal ∨ before.phase = .operating)
    (hphase : tick.output.state.phase = .operating)
    (hmaneuver : tick.output.state.maneuver
      = before.maneuver.escalate tick.input.level useComfortableStop) :
    FollowsDemands useComfortableStop tick.output.state (ticks ++ [tick]) where
  not_failed := by simp [hphase]
  normal := fun h => by simp [hphase] at h
  operating := fun _ => by
    rw [underway_concat, if_pos hphase, hmaneuver]
    exact h.engaged hbefore
  succeeded := fun h => by simp [hphase] at h

/-- One that ends in succeeded leaves the episode as it was. -/
theorem of_succeeded (h : FollowsDemands useComfortableStop before ticks)
    (hbefore : before.phase = .operating ∨ before.phase = .succeeded)
    (hphase : tick.output.state.phase = .succeeded)
    (hmaneuver : tick.output.state.maneuver = before.maneuver) :
    FollowsDemands useComfortableStop tick.output.state (ticks ++ [tick]) where
  not_failed := by simp [hphase]
  normal := fun h => by simp [hphase] at h
  operating := fun h => by simp [hphase] at h
  succeeded := fun _ => by
    rw [beforeSuccess_concat, if_pos hphase, hmaneuver]
    rcases hbefore with hoperating | hsucceeded
    · have hgreatest := h.operating hoperating
      rwa [beforeSuccess_of_underway]
      intro hnone
      obtain ⟨demanding, hmem, -⟩ := hgreatest.1
      simp [hnone] at hmem
    · exact h.succeeded hsucceeded

/-- **A tick that publishes keeps to the demands.** -/
theorem published (h : FollowsDemands useComfortableStop before ticks) (tick : Published)
    (hadvanced : Advanced tick.input useComfortableStop before tick.output.state) :
    FollowsDemands useComfortableStop tick.output.state (ticks ++ [tick]) := by
  rcases hadvanced with ⟨-, hphase, hmaneuver⟩ | ⟨-, -, -, hphase, hmaneuver⟩ |
    ⟨-, hrunning, hphase, hmaneuver⟩ | ⟨-, -, hbefore, hphase, hmaneuver⟩ |
    ⟨-, hover, hphase, hmaneuver⟩
  · exact of_normal hphase hmaneuver
  · exact of_normal hphase hmaneuver
  · exact h.of_operating (hrunning.imp And.left And.left) hphase hmaneuver
  · exact h.of_succeeded (Or.inl hbefore) hphase hmaneuver
  · have hbefore := hover.resolve_right h.not_failed
    exact h.of_succeeded (Or.inr hbefore) (hphase.trans hbefore) hmaneuver

/-- **In an emergency the phase only goes forward, and the maneuver only escalates.** -/
theorem forward (h : FollowsDemands useComfortableStop before ticks)
    (hadvanced : Advanced tick.input useComfortableStop before after)
    (hemergency : tick.input.isEmergency = true) :
    before.phase.Leads after.phase ∧ before.maneuver ≤ after.maneuver := by
  rcases hadvanced with ⟨hcalm, -, -⟩ | ⟨-, -, hbefore, hphase, hmaneuver⟩ |
    ⟨-, hrunning, hphase, hmaneuver⟩ | ⟨-, -, hbefore, hphase, hmaneuver⟩ |
    ⟨-, hover, hphase, hmaneuver⟩
  · rw [hemergency] at hcalm
    cases hcalm
  · refine ⟨Or.inl (hphase.trans hbefore.symm), ?_⟩
    rw [(h.normal hbefore).1]
    exact Maneuver.none_le _
  · have hbefore : before.phase = .normal ∨ before.phase = .operating :=
      hrunning.imp And.left And.left
    refine ⟨?_, ?_⟩
    · rcases hbefore with hnormal | hoperating
      · exact Or.inr (Or.inl ⟨hnormal, hphase⟩)
      · exact Or.inl (hphase.trans hoperating.symm)
    · rw [hmaneuver, Maneuver.escalate_eq_max (h.useComfortableStop_of_comfortableStop hbefore)]
      exact le_max_right _ _
  · exact ⟨Or.inr (Or.inr ⟨hbefore, hphase⟩), hmaneuver.ge⟩
  · exact ⟨Or.inl hphase, hmaneuver.ge⟩

end FollowsDemands

/-- Without an emergency it is all over. -/
theorem Advanced.calm_of_not_emergency {input : FailsafeInput}
    (h : Advanced input useComfortableStop before after) (hcalm : input.isEmergency = false) :
    after.phase = .normal ∧ after.maneuver = .none := by
  cases h with
  | calm _ hphase hmaneuver => exact ⟨hphase, hmaneuver⟩
  | unattended hemergency | engaged hemergency | stopped hemergency | ended hemergency =>
    rw [hcalm] at hemergency
    cases hemergency

namespace System

/-- **After any run the record follows the demands.** -/
theorem after_followsDemands (settings : FailsafeSettings) (clock : Clock) (store : Store)
    (responder : Responder) (events : List Event) :
    let start := fresh settings clock store responder
    FollowsDemands settings.useComfortableStop (start.after events).handler.state
      (start.published events) := by
  intro start
  induction events using List.reverseRecOn with
  | nil => exact FollowsDemands.start clock.now
  | append_singleton events event ih =>
    rw [after_concat, published_concat]
    rcases (start.after events).step_advances event with
      ⟨hnone, hstate⟩ | ⟨tick, hsome, hstate, hadvanced⟩
    · rwa [hnone, hstate, Option.toList_none, List.append_nil]
    · rw [settings_after] at hadvanced
      rw [hsome, hstate, Option.toList_some]
      exact ih.published tick hadvanced

/-- **A step keeps a record that follows the demands, or moves it forward, or clears it.** -/
theorem step_followsDemands {system : System} (event : Event)
    (h : FollowsDemands system.settings.useComfortableStop system.handler.state ticks) :
    let state := system.handler.state
    let next := (system.step event).1.handler.state
    (system.publishedBy? event = none → next = state)
      ∧ ∀ tick, system.publishedBy? event = some tick →
        next = tick.output.state
          ∧ (tick.input.isEmergency = true →
            state.phase.Leads next.phase ∧ state.maneuver ≤ next.maneuver)
          ∧ (tick.input.isEmergency = false →
            next.phase = .normal ∧ next.maneuver = .none) := by
  intro state next
  rcases system.step_advances event with ⟨hnone, hstate⟩ | ⟨tick, hsome, hstate, hadvanced⟩
  · refine ⟨fun _ => hstate, fun tick htick => ?_⟩
    rw [hnone] at htick
    cases htick
  · refine ⟨fun hnone => ?_, fun tick' htick => ?_⟩
    · rw [hsome] at hnone
      cases hnone
    · obtain rfl : tick = tick' := Option.some.inj (hsome.symm.trans htick)
      rw [← hstate] at hadvanced
      exact ⟨hstate, h.forward hadvanced, hadvanced.calm_of_not_emergency⟩

end System

/-- **The record is the greatest maneuver demanded.**  After any run of a new handler: while
operating, the recorded maneuver is the greatest one demanded by the ticks that published since the
phase was entered; once succeeded, it is the greatest one demanded by those of the episode that
ended in operating.  A step that publishes nothing keeps the record.  One that does records what it
publishes: in an emergency the phase stays or moves on, from normal to operating to succeeded, and
the maneuver does not de-escalate; without one the phase is normal and there is no maneuver. -/
theorem recorded_isGreatest_demand (settings : FailsafeSettings) (clock : Clock) (store : Store)
    (responder : Responder) (events : List Event) :
    let start := System.fresh settings clock store responder
    let system := start.after events
    let ticks := start.published events
    let state := system.handler.state
    (state.phase = .operating →
        IsGreatest (demands settings.useComfortableStop (underway ticks)) state.maneuver)
      ∧ (state.phase = .succeeded →
        IsGreatest (demands settings.useComfortableStop (underway (beforeSuccess ticks)))
          state.maneuver)
      ∧ ∀ event,
          let next := (system.step event).1.handler.state
          (system.publishedBy? event = none → next = state)
            ∧ ∀ tick, system.publishedBy? event = some tick →
              next = tick.output.state
                ∧ (tick.input.isEmergency = true →
                  state.phase.Leads next.phase ∧ state.maneuver ≤ next.maneuver)
                ∧ (tick.input.isEmergency = false →
                  next.phase = .normal ∧ next.maneuver = .none) := by
  intro start system ticks state
  have hfollows : FollowsDemands settings.useComfortableStop state ticks :=
    System.after_followsDemands settings clock store responder events
  refine ⟨hfollows.operating, hfollows.succeeded, fun event => ?_⟩
  have hsettings : system.settings = settings := System.settings_after start events
  exact System.step_followsDemands event (hsettings ▸ hfollows)

/-- The comfortable stop gives way to the emergency stop, which stays on record once ego has
stopped, and is off it when the fault is cleared. -/
theorem latentFault_escalates :
    let worse := [.tick] ++ System.worseAfterOutage ++ [.tick]
    let stopped := worse ++ [.write (.speed 0), .tick]
    let cleared := stopped ++ [.write (.hazard ⟨.noFault, false, false⟩)]
    let ticks := System.latentFault.published
    (System.latentFault.after worse).handler.state.phase = .operating
      ∧ (System.latentFault.after stopped).handler.state.phase = .succeeded
      ∧ IsGreatest (demands true (underway (ticks worse))) .emergencyStop
      ∧ IsGreatest (demands true (underway (beforeSuccess (ticks stopped)))) .emergencyStop
      ∧ (((System.latentFault.after cleared).publishedBy? .tick).map (·.input.isEmergency)
          = some false)
      ∧ ((System.latentFault.after cleared).step .tick).1.handler.state.maneuver = .none := by
  intro worse stopped cleared ticks
  have hoperating : (System.latentFault.after worse).handler.state.phase = .operating := by
    decide +kernel
  have hsucceeded : (System.latentFault.after stopped).handler.state.phase = .succeeded := by
    decide +kernel
  have hworse : (System.latentFault.after worse).handler.state.maneuver = .emergencyStop := by
    decide +kernel
  have hstopped : (System.latentFault.after stopped).handler.state.maneuver = .emergencyStop := by
    decide +kernel
  have hcalm : ((System.latentFault.after cleared).publishedBy? .tick).map (·.input.isEmergency)
      = some false := by
    decide +kernel
  obtain ⟨tick, htick, hemergency⟩ := Option.map_eq_some_iff.1 hcalm
  obtain ⟨hgreatest, -, -⟩ := recorded_isGreatest_demand System.latentFault.settings
    System.latentFault.clock System.latentFault.store System.latentFault.responder worse
  obtain ⟨-, hgreatest', -⟩ := recorded_isGreatest_demand System.latentFault.settings
    System.latentFault.clock System.latentFault.store System.latentFault.responder stopped
  obtain ⟨-, -, hnext⟩ := recorded_isGreatest_demand System.latentFault.settings
    System.latentFault.clock System.latentFault.store System.latentFault.responder cleared
  refine ⟨hoperating, hsucceeded, hworse ▸ hgreatest hoperating,
    hstopped ▸ hgreatest' hsucceeded, hcalm, ?_⟩
  exact (((hnext .tick).2 tick htick).2.2 hemergency).2

end DriveDecision
