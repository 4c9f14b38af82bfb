import DriveDecision.Proofs.Failsafe.Escalation
import DriveDecision.Proofs.Failsafe.Skipping

/-!
# Proofs/Failsafe/Silence — a silent fault monitor forces an emergency stop

    report ─────── timeout ───────▸│ stale for good, unless a report comes in
                                   │
    phase    normal                │ operating       operating | succeeded
    maneuver none                  │ emergency stop  ─────────────────────

Staleness is a comparison of unbounded counts of nanoseconds (`StampedReport.isStale_iff`), so a
report that is stale stays stale for as long as the clock is not set back.  A stale report is an
emergency of the worst level, and no step leaves an emergency stop in an emergency: once a tick has
acted on silence, every tick that acts on the same silence keeps the stop (`IsStopping`).
-/

namespace DriveDecision

variable {system : System} {event : Event} {events : List Event} {report : StampedReport}
  {input : FailsafeInput} {before after : ManeuverState} {useComfortableStop : Bool}

/-! ## Silence -/

/-- **What is stale stays stale.** -/
theorem StampedReport.isStale_mono {now later timeout : Duration} (hlater : now ≤ later)
    (h : report.isStale now timeout = true) : report.isStale later timeout = true := by
  rw [isStale_iff] at h ⊢
  exact h.trans_le hlater

/-- The report to act on is the one in the store. -/
theorem Store.hazard_of_ready {store : Store} {settings : FailsafeSettings}
    (h : store.ready settings = .ok report) : store.hazard = some report := by
  rw [ready] at h
  cases hhazard : store.hazard with
  | none =>
    rw [hhazard] at h
    cases h
  | some stored =>
    simp only [hhazard] at h
    split_ifs at h
    exact congrArg some (Except.ok.inj h)

namespace System

/-- The report in the store is stale. -/
def IsSilent (system : System) : Prop :=
  ∃ report, system.store.hazard = some report
    ∧ report.isStale system.now system.settings.staleAfter = true

/-- **The clock is not set back** in a run: no event makes it show an earlier time. -/
def NeverSetBack (system : System) : List Event → Prop
  | [] => True
  | event :: events =>
    system.now ≤ (system.step event).1.now ∧ NeverSetBack (system.step event).1 events

/-- **What a tick acts on** is read off the store and the clock. -/
theorem exists_report_of_input (h : system.input? = some input) :
    ∃ report, system.store.hazard = some report
      ∧ input = system.store.input system.settings report system.now := by
  cases hready : system.store.ready system.settings with
  | error notice =>
    rw [input?, hready] at h
    cases h
  | ok report =>
    rw [input?, hready] at h
    exact ⟨report, Store.hazard_of_ready hready, (Option.some.inj h).symm⟩

theorem IsSilent.isStale_input (h : system.IsSilent) (hinput : system.input? = some input) :
    input.isStale = true := by
  obtain ⟨report, hhazard, hstale⟩ := h
  obtain ⟨acted, hacted, rfl⟩ := exists_report_of_input hinput
  obtain rfl := Option.some.inj (hhazard.symm.trans hacted)
  exact hstale

/-- Only a report changes what the store holds of reports. -/
theorem hazard_step_of_not_isReport (h : ¬ event.IsReport) :
    (system.step event).1.store.hazard = system.store.hazard := by
  cases event with
  | write reading =>
    cases reading with
    | hazard report => exact absurd (.received report) h
    | hazardAt report => exact absurd (.stamped report) h
    | speed _ | mode _ | comfortableStop _ | emergencyStop _ => rfl
  | advance _ | setTime _ | tick => rfl

/-- **Silence lasts** until a report comes in or the clock is set back. -/
theorem IsSilent.step (h : system.IsSilent) (hevent : ¬ event.IsReport)
    (hclock : system.now ≤ (system.step event).1.now) : (system.step event).1.IsSilent := by
  obtain ⟨report, hhazard, hstale⟩ := h
  refine ⟨report, (hazard_step_of_not_isReport hevent).trans hhazard, ?_⟩
  rw [settings_step]
  exact StampedReport.isStale_mono hclock hstale

end System

/-! ## One step of the maneuver -/

namespace FailsafeInput

theorem isEmergency_of_isStale (h : input.isStale = true) : input.isEmergency = true := by
  rw [isEmergency, h, Bool.or_true]

theorem level_of_isStale (h : input.isStale = true) : input.level = .singlePointFault := if_pos h

end FailsafeInput

/-- The worst fault leads to an emergency stop from anywhere. -/
@[simp] theorem Maneuver.escalate_singlePointFault (running : Maneuver) :
    running.escalate .singlePointFault useComfortableStop = .emergencyStop := by
  cases running <;> rfl

namespace Advanced

/-- **In silence an autonomous vehicle starts an emergency stop.** -/
theorem starts_of_isStale (h : Advanced input useComfortableStop before after)
    (hstale : input.isStale = true) (hautonomous : input.isAutonomous = true)
    (hnormal : before.phase = .normal) :
    after.phase = .operating ∧ after.maneuver = .emergencyStop := by
  rcases h with ⟨hcalm, -, -⟩ | ⟨-, hmanual, -, -, -⟩ | ⟨-, -, hphase, hmaneuver⟩ |
    ⟨-, -, hoperating, -, -⟩ | ⟨-, hover, -, -⟩
  · cases hcalm.symm.trans (FailsafeInput.isEmergency_of_isStale hstale)
  · cases hmanual.symm.trans hautonomous
  · rw [FailsafeInput.level_of_isStale hstale, Maneuver.escalate_singlePointFault] at hmaneuver
    exact ⟨hphase, hmaneuver⟩
  · cases hoperating.symm.trans hnormal
  · rcases hover with hsucceeded | hfailed
    · cases hsucceeded.symm.trans hnormal
    · cases hfailed.symm.trans hnormal

/-- **…and goes on with it**, whoever drives by then and however fast. -/
theorem stays_of_isStale (h : Advanced input useComfortableStop before after)
    (hstale : input.isStale = true) (hphase : before.phase ≠ .normal)
    (hmaneuver : before.maneuver = .emergencyStop) :
    after.phase ≠ .normal ∧ after.maneuver = .emergencyStop := by
  rcases h with ⟨hcalm, -, -⟩ | ⟨-, -, hnormal, -, -⟩ | ⟨-, -, hoperating, hescalated⟩ |
    ⟨-, -, -, hsucceeded, hkept⟩ | ⟨-, -, hended, hkept⟩
  · cases hcalm.symm.trans (FailsafeInput.isEmergency_of_isStale hstale)
  · exact absurd hnormal hphase
  · rw [FailsafeInput.level_of_isStale hstale, Maneuver.escalate_singlePointFault] at hescalated
    exact ⟨by simp [hoperating], hescalated⟩
  · exact ⟨by simp [hsucceeded], hkept.trans hmaneuver⟩
  · exact ⟨hended ▸ hphase, hkept.trans hmaneuver⟩

end Advanced

/-! ## A run in silence -/

/-- **A stop forced by silence**: there is still no report, and the emergency stop is recorded. -/
structure IsStopping (system : System) : Prop where
  silent : system.IsSilent
  phase : system.handler.state.phase ≠ .normal
  maneuver : system.handler.state.maneuver = .emergencyStop

namespace IsStopping

/-- **A step keeps the stop**, and publishes nothing else. -/
theorem step (h : IsStopping system) (hevent : ¬ event.IsReport)
    (hclock : system.now ≤ (system.step event).1.now) :
    IsStopping (system.step event).1
      ∧ ∀ out, (system.step event).2.output = some out →
        out.state.phase ≠ .normal ∧ out.state.maneuver = .emergencyStop := by
  have hsilent := h.silent.step hevent hclock
  rcases system.step_publishes event with ⟨-, hnone, hkept⟩ | ⟨input, hinput, -, hout, hrecorded⟩
  · refine ⟨⟨hsilent, hkept ▸ h.phase, hkept ▸ h.maneuver⟩, fun out hsome => ?_⟩
    cases hnone.symm.trans hsome
  · have hstays := (input.advanced system.settings system.handler.state system.now).stays_of_isStale
      (h.silent.isStale_input hinput) h.phase h.maneuver
    refine ⟨⟨hsilent, hrecorded ▸ hstays.1, hrecorded ▸ hstays.2⟩, fun out hsome => ?_⟩
    obtain rfl := Option.some.inj (hout.symm.trans hsome)
    exact hstays

/-- **So does a run.** -/
theorem run (h : IsStopping system) (hevents : ∀ event ∈ events, ¬ event.IsReport)
    (hclock : system.NeverSetBack events) :
    ∀ reaction ∈ (system.run events).2, ∀ out, reaction.output = some out →
      out.state.phase ≠ .normal ∧ out.state.maneuver = .emergencyStop := by
  induction events generalizing system with
  | nil => exact fun reaction hmem => absurd hmem List.not_mem_nil
  | cons event events ih =>
    obtain ⟨hevent, hrest⟩ := List.forall_mem_cons.1 hevents
    obtain ⟨hnext, hout⟩ := h.step hevent hclock.1
    rw [System.run_cons_snd, List.forall_mem_cons]
    exact ⟨hout, ih hnext hrest hclock.2⟩

end IsStopping

/-- **A silent fault monitor forces an emergency stop.**  A report is stale exactly when more than
the timeout has passed since its stamp, counted in unbounded nanoseconds.  After any run of a new
handler that is back to normal: a tick that publishes, with the vehicle autonomous and the report
stale, enters operating with an emergency stop and activates it.  From then on, as long as no report
comes in and the clock is not set back, whatever is published keeps the stop and is not normal. -/
theorem silence_forces_stop :
    (∀ (report : StampedReport) (now timeout : Duration),
        report.isStale now timeout = true ↔ report.stamp.nanos + timeout.nanos < now.nanos)
      ∧ ∀ (settings : FailsafeSettings) (clock : Clock) (store : Store) (responder : Responder)
          (events : List Event) (report : StampedReport) (out : HandlerOutput),
          let system := (System.fresh settings clock store responder).after events
          let tick := system.step .tick
          tick.2.output = some out → system.store.mode = some .autonomous →
          system.handler.state.phase = .normal → system.store.hazard = some report →
          report.stamp.nanos + settings.staleAfter.nanos < system.now.nanos →
            out.state = ⟨.operating, .emergencyStop, system.now⟩
              ∧ ⟨.emergencyStop, true⟩ ∈ tick.2.calls
              ∧ ∀ later, (∀ event ∈ later, ¬ event.IsReport) → tick.1.NeverSetBack later →
                ∀ reaction ∈ (tick.1.run later).2, ∀ next, reaction.output = some next →
                  next.state.phase ≠ .normal ∧ next.state.maneuver = .emergencyStop := by
  refine ⟨StampedReport.isStale_iff, ?_⟩
  intro settings clock store responder events report out system tick hout hmode hnormal hhazard hage
  have hsettings : system.settings = settings := System.settings_after _ events
  have hsilent : system.IsSilent :=
    ⟨report, hhazard, (report.isStale_iff _ _).2 (hsettings ▸ hage)⟩
  -- in normal nothing was running
  have hnone : system.handler.state.maneuver = .none :=
    ((System.after_followsDemands settings clock store responder events).normal hnormal).1
  rcases system.step_publishes .tick with ⟨-, hquiet, -⟩ | ⟨input, hinput, -, hsome, hrecorded⟩
  · cases hquiet.symm.trans hout
  obtain rfl := Option.some.inj (hsome.symm.trans hout)
  have hautonomous : input.isAutonomous = true := by
    obtain ⟨acted, -, rfl⟩ := System.exists_report_of_input hinput
    simp [FailsafeInput.isAutonomous, Store.input, Store.modeOrDefault, hmode]
  obtain ⟨hphase, hmaneuver⟩ :=
    (input.advanced system.settings system.handler.state system.now).starts_of_isStale
      (hsilent.isStale_input hinput) hautonomous hnormal
  refine ⟨?_, ?_, fun later hlater hclock => IsStopping.run ?_ hlater hclock⟩
  · rw [← hphase, ← hmaneuver]
    rfl
  · rcases system.step_moved .tick with ⟨-, -, hquiet, -⟩ | ⟨-, hcalls, -⟩
    · cases hquiet.symm.trans hout
    · rw [show tick.2.calls = _ from hcalls, hrecorded, hmaneuver, hnone]
      exact activate_mem_callsToward nofun nofun
  · refine ⟨hsilent.step nofun (le_refl system.now.nanos), ?_, ?_⟩
    · rw [hrecorded, hphase]
      nofun
    · rw [hrecorded, hmaneuver]

namespace System

/-- An autonomous vehicle without a fault, which would stop comfortably for a lesser one. -/
def faultless : System :=
  .fresh latentFault.settings ⟨0⟩
    { latentFault.store with hazard := some ⟨.zero, ⟨.noFault, false, false⟩⟩ } {}

end System

/-- Six tenths of a second after the last report the vehicle stops at once, and while it stands and
somebody else takes over, the stop is kept. -/
theorem faultless_stops_in_silence :
    let events := [.tick, .advance ⟨600000000, by decide⟩]
    let later := [.write (.speed 0), .tick, .write (.mode .manual), .advance (.ofSeconds 1), .tick]
    let tick := (System.faultless.after events).step .tick
    let stop : ManeuverState := ⟨.operating, .emergencyStop, ⟨600000000, by decide⟩⟩
    (System.faultless.after events).handler.state.phase = .normal
      ∧ tick.2.output = some ⟨.enable, .drive, stop⟩
      ∧ ⟨.emergencyStop, true⟩ ∈ tick.2.calls
      ∧ ((tick.1.run later).2.filterMap (·.output)).length = 2
      ∧ ∀ reaction ∈ (tick.1.run later).2, ∀ next, reaction.output = some next →
        next.state.phase ≠ .normal ∧ next.state.maneuver = .emergencyStop := by
  intro events later tick stop
  have hnormal : (System.faultless.after events).handler.state.phase = .normal := by
    decide +kernel
  have hout : tick.2.output = some ⟨.enable, .drive, stop⟩ := by decide +kernel
  have hage : 0 + System.faultless.settings.staleAfter.nanos
      < (System.faultless.after events).now.nanos := by decide +kernel
  have hclock : tick.1.NeverSetBack later := by
    simp only [System.NeverSetBack, later]
    decide +kernel
  obtain ⟨-, hforces⟩ := silence_forces_stop
  obtain ⟨-, hactivated, hstays⟩ := hforces System.faultless.settings System.faultless.clock
    System.faultless.store System.faultless.responder events ⟨.zero, ⟨.noFault, false, false⟩⟩ _
    hout rfl hnormal rfl hage
  have hreports : ∀ event ∈ later, ¬ event.IsReport := by
    simp only [later, List.forall_mem_cons]
    exact ⟨nofun, nofun, nofun, nofun, nofun, nofun⟩
  exact ⟨hnormal, hout, hactivated, by decide +kernel, hstays later hreports hclock⟩

end DriveDecision
