import DriveDecision.Proofs.Failsafe.History

/-!
# Proofs/Failsafe/Published — the ticks that publish, and what they act on

A tick that misses no input acts on one `FailsafeInput`, publishes one `HandlerOutput`, and records
what it publishes.  `Advanced` is all that such a tick can do to the record; nothing after it opens
a step of the maneuver again.
-/

namespace DriveDecision

/-- **A tick that publishes**: what it acts on, and what it publishes. -/
structure Published where
  input : FailsafeInput
  output : HandlerOutput

/-! ## One step of the maneuver -/

/-- What is published for an input. -/
def FailsafeInput.output (input : FailsafeInput) (settings : FailsafeSettings)
    (state : ManeuverState) (now : Duration) : HandlerOutput where
  hazardLights := input.hazardLights settings
  gear := input.gear settings
  state := { (input.step settings state now).state with stamp := now }

/-- **What a step of the maneuver can do** to the phase and the maneuver. -/
inductive Advanced (input : FailsafeInput) (useComfortableStop : Bool)
    (before after : ManeuverState) : Prop where
  /-- Without an emergency nothing is running. -/
  | calm (emergency : input.isEmergency = false) (phase : after.phase = .normal)
      (maneuver : after.maneuver = .none)
  /-- An emergency while somebody else drives. -/
  | unattended (emergency : input.isEmergency = true) (autonomous : input.isAutonomous = false)
      (normal : before.phase = .normal) (phase : after.phase = .normal)
      (maneuver : after.maneuver = .none)
  /-- The maneuver starts, or goes on. -/
  | engaged (emergency : input.isEmergency = true)
      (running : (before.phase = .normal ∧ input.isAutonomous = true)
        ∨ (before.phase = .operating ∧ input.isStopped = false))
      (phase : after.phase = .operating)
      (maneuver : after.maneuver = before.maneuver.escalate input.level useComfortableStop)
  /-- Ego has stopped. -/
  | stopped (emergency : input.isEmergency = true) (stopped : input.isStopped = true)
      (operating : before.phase = .operating) (phase : after.phase = .succeeded)
      (maneuver : after.maneuver = before.maneuver)
  /-- The maneuver is over, and the emergency is not. -/
  | ended (emergency : input.isEmergency = true)
      (ended : before.phase = .succeeded ∨ before.phase = .failed)
      (phase : after.phase = before.phase) (maneuver : after.maneuver = before.maneuver)

namespace FailsafeInput

variable (input : FailsafeInput) (settings : FailsafeSettings) (state : ManeuverState)
  (now : Duration)

/-- The phase moves first, and the maneuver follows it. -/
theorem output_state_of_phase (phase : Phase) :
    (state.phase.next? input.isAutonomous input.isEmergency input.isStopped).getD state.phase
        = phase →
      (input.output settings state now).state.phase = phase
        ∧ (input.output settings state now).state.maneuver = match phase with
          | .normal => .none
          | .operating => state.maneuver.escalate input.level settings.useComfortableStop
          | .succeeded | .failed => state.maneuver := by
  rintro rfl
  exact ⟨rfl, rfl⟩

/-- **Every step of the maneuver is one of these.** -/
theorem advanced :
    Advanced input settings.useComfortableStop state (input.output settings state now).state := by
  have houtput := input.output_state_of_phase settings state now
  rcases hemergency : input.isEmergency with _ | _
  · obtain ⟨hphase, hmaneuver⟩ := houtput .normal (by
      cases hphase : state.phase <;> simp [Phase.next?, hemergency])
    exact .calm hemergency hphase hmaneuver
  · cases hbefore : state.phase with
    | normal =>
      rcases hautonomous : input.isAutonomous with _ | _
      · obtain ⟨hphase, hmaneuver⟩ := houtput .normal
          (by simp [hbefore, Phase.next?, hautonomous])
        exact .unattended hemergency hautonomous hbefore hphase hmaneuver
      · obtain ⟨hphase, hmaneuver⟩ := houtput .operating
          (by simp [hbefore, Phase.next?, hautonomous, hemergency])
        exact .engaged hemergency (Or.inl ⟨hbefore, hautonomous⟩) hphase hmaneuver
    | operating =>
      rcases hstopped : input.isStopped with _ | _
      · obtain ⟨hphase, hmaneuver⟩ := houtput .operating
          (by simp [hbefore, Phase.next?, hstopped, hemergency])
        exact .engaged hemergency (Or.inr ⟨hbefore, hstopped⟩) hphase hmaneuver
      · obtain ⟨hphase, hmaneuver⟩ := houtput .succeeded
          (by simp [hbefore, Phase.next?, hstopped, hemergency])
        exact .stopped hemergency hstopped hbefore hphase hmaneuver
    | succeeded =>
      obtain ⟨hphase, hmaneuver⟩ := houtput .succeeded
        (by simp [hbefore, Phase.next?, hemergency])
      exact .ended hemergency (Or.inl hbefore) (hphase.trans hbefore.symm) hmaneuver
    | failed =>
      obtain ⟨hphase, hmaneuver⟩ := houtput .failed
        (by simp [hbefore, Phase.next?, hemergency])
      exact .ended hemergency (Or.inr hbefore) (hphase.trans hbefore.symm) hmaneuver

end FailsafeInput

/-! ## One step of the system -/

namespace System

/-- What a tick would act on, if it misses nothing. -/
def input? (system : System) : Option FailsafeInput :=
  (system.store.ready system.settings).toOption.map fun report =>
    system.store.input system.settings report system.now

/-- **What a step publishes**, with what it acts on. -/
def publishedBy? (system : System) (event : Event) : Option Published :=
  (system.step event).2.output.bind fun output => system.input?.map (⟨·, output⟩)

/-- The ticks of a run that publish, in order. -/
def published (system : System) : List Event → List Published
  | [] => []
  | event :: events =>
    (system.publishedBy? event).toList ++ published (system.step event).1 events

/-- **Every step publishes what it records, or nothing and keeps the record.** -/
theorem step_publishes (system : System) (event : Event) :
    (system.publishedBy? event = none ∧ (system.step event).2.output = none
        ∧ (system.step event).1.handler.state = system.handler.state)
      ∨ ∃ input, system.input? = some input
        ∧ system.publishedBy? event
          = some ⟨input, input.output system.settings system.handler.state system.now⟩
        ∧ (system.step event).2.output
          = some (input.output system.settings system.handler.state system.now)
        ∧ (system.step event).1.handler.state
          = (input.output system.settings system.handler.state system.now).state := by
  cases event with
  | write reading => exact Or.inl ⟨rfl, rfl, rfl⟩
  | advance dt => exact Or.inl ⟨rfl, rfl, rfl⟩
  | setTime t => exact Or.inl ⟨rfl, rfl, rfl⟩
  | tick =>
    rcases hready : system.store.ready system.settings with notice | report
    · left
      simp [publishedBy?, step, tick, tickResult, Handler.tick, hready, Handler.skip]
    · have hinput : system.input?
          = some (system.store.input system.settings report system.now) := by
        rw [input?, hready]
        rfl
      refine Or.inr ⟨_, hinput, ?_⟩
      simp only [publishedBy?, hinput, step, tick, tickResult, Handler.tick, hready]
      exact ⟨rfl, rfl, rfl⟩

/-- **What is published is an advance of the record.** -/
theorem step_advances (system : System) (event : Event) :
    (system.publishedBy? event = none
        ∧ (system.step event).1.handler.state = system.handler.state)
      ∨ ∃ tick, system.publishedBy? event = some tick
        ∧ (system.step event).1.handler.state = tick.output.state
        ∧ Advanced tick.input system.settings.useComfortableStop system.handler.state
          tick.output.state := by
  rcases system.step_publishes event with ⟨hnone, -, hstate⟩ | ⟨input, -, hsome, -, hstate⟩
  · exact Or.inl ⟨hnone, hstate⟩
  · exact Or.inr ⟨_, hsome, hstate, input.advanced system.settings system.handler.state system.now⟩

/-- The settings stay. -/
theorem settings_step (system : System) (event : Event) :
    (system.step event).1.settings = system.settings := by
  cases event <;> rfl

theorem settings_after (system : System) (events : List Event) :
    (system.after events).settings = system.settings :=
  run_induction (motive := fun reached _ => reached.settings = system.settings) rfl
    (fun reached _ event h => (reached.settings_step event).trans h) events

/-! ## Whole runs -/

theorem published_concat (system : System) (events : List Event) (event : Event) :
    system.published (events ++ [event])
      = system.published events ++ ((system.after events).publishedBy? event).toList := by
  induction events generalizing system with
  | nil => exact List.append_nil _
  | cons first events ih =>
    rw [List.cons_append, published, published, ih, List.append_assoc]
    rfl

/-- Nothing else is published. -/
theorem map_output_published (system : System) (events : List Event) :
    (system.published events).map (·.output) = (system.run events).2.filterMap (·.output) := by
  induction events generalizing system with
  | nil => rfl
  | cons event events ih =>
    rw [published, List.map_append, ih, run_cons_snd, List.filterMap_cons]
    rcases system.step_publishes event with ⟨hnone, hout, -⟩ | ⟨input, -, hsome, hout, -⟩
    · rw [hnone, hout]
      rfl
    · rw [hsome, hout]
      rfl

end System

end DriveDecision
