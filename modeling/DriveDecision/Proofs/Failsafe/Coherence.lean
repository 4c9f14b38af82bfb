import DriveDecision.Proofs.Failsafe.Escalation

/-!
# Proofs/Failsafe/Coherence — the outputs of a tick agree with each other

    published   │ normal      operating   succeeded │ failed
    emergency   │ not, or not ─────── always ───────────────
                │ autonomous
    maneuver    │ none
    calls       │ cancel only

Phase, maneuver, hazard lights and calls are decided by separate rules.  Whatever was recorded
before, a state that no run reaches included, what a tick publishes fits together (`IsCoherent`).
-/

namespace DriveDecision

variable {handler : Handler} {settings : FailsafeSettings} {store : Store} {now : Duration}
  {responder : Responder} {input : FailsafeInput} {result : TickResult} {out : HandlerOutput}
  {before after : ManeuverState} {useComfortableStop : Bool}

/-! ## One step of the maneuver -/

namespace Advanced

/-- Only an emergency keeps the phase from being normal. -/
theorem isEmergency_of_ne_normal (h : Advanced input useComfortableStop before after)
    (hphase : after.phase ≠ .normal) : input.isEmergency = true := by
  cases h with
  | calm _ hnormal => exact absurd hnormal hphase
  | unattended hemergency | engaged hemergency | stopped hemergency | ended hemergency =>
    exact hemergency

/-- An emergency of an autonomous vehicle does keep it from being so. -/
theorem ne_normal_of_isEmergency (h : Advanced input useComfortableStop before after)
    (hautonomous : input.isAutonomous = true) (hemergency : input.isEmergency = true) :
    after.phase ≠ .normal := by
  cases h with
  | calm hcalm => cases hcalm.symm.trans hemergency
  | unattended _ hmanual => cases hmanual.symm.trans hautonomous
  | engaged _ _ hphase | stopped _ _ _ hphase => simp [hphase]
  | ended _ hended hphase => rcases hended with hbefore | hbefore <;> simp [hphase, hbefore]

/-- In normal nothing is running. -/
theorem maneuver_of_normal (h : Advanced input useComfortableStop before after)
    (hphase : after.phase = .normal) : after.maneuver = .none := by
  cases h with
  | calm _ _ hmaneuver | unattended _ _ _ _ hmaneuver => exact hmaneuver
  | engaged _ _ hother | stopped _ _ _ hother => cases hother.symm.trans hphase
  | ended _ hended hother =>
    rcases hended with hbefore | hbefore <;> cases (hother.trans hbefore).symm.trans hphase

end Advanced

/-- The lights are on in an emergency, if so set. -/
theorem FailsafeInput.hazardLights_of_isEmergency (hemergency : input.isEmergency = true)
    (hset : settings.hazardLightsOnEmergency = true) :
    input.hazardLights settings = .enable := by
  simp [FailsafeInput.hazardLights, hemergency, hset]

/-! ## One tick -/

/-- The calls of a tick, without their answers. -/
def TickResult.calls (result : TickResult) : List Call := result.issued.map (·.1)

/-- **The outputs of a tick are coherent**: with what was recorded before it, with what it acts on,
and with each other. -/
structure IsCoherent (settings : FailsafeSettings) (before : ManeuverState) (input : FailsafeInput)
    (now : Duration) (result : TickResult) (out : HandlerOutput) : Prop where
  recorded : result.handler.state = out.state
  stamp : out.state.stamp = now
  isEmergency : out.state.phase ≠ .normal → input.isEmergency = true
  hazardLights : out.state.phase ≠ .normal → settings.hazardLightsOnEmergency = true →
    out.hazardLights = .enable
  ne_normal : input.isAutonomous = true → input.isEmergency = true → out.state.phase ≠ .normal
  maneuver : out.state.phase = .normal → out.state.maneuver = .none
  cancelled : out.state.phase = .normal → before.maneuver ≠ .none →
    ⟨before.maneuver, false⟩ ∈ result.calls
  not_activated : out.state.phase = .normal → ∀ call ∈ result.calls, call.operate = true →
    call.maneuver = .none

/-- **A tick that publishes** has a report to act on, and calls the modules toward what it
publishes. -/
theorem Handler.tick_of_output
    (hout : (handler.tick settings store now responder).output = some out) :
    let result := handler.tick settings store now responder
    ∃ report, store.ready settings = .ok report
      ∧ out = (store.input settings report now).output settings handler.state now
      ∧ result.handler.state = out.state
      ∧ result.calls = callsToward handler.pending handler.state.maneuver out.state.maneuver := by
  simp only [tick]
  simp only [tick] at hout
  rcases hready : store.ready settings with notice | report
  · rw [hready] at hout
    cases hout
  · rw [hready] at hout
    obtain rfl := Option.some.inj hout
    exact ⟨report, rfl, rfl, rfl, Responder.map_fst_answer _ _⟩

/-- **Whatever was recorded before, what a tick publishes is coherent.** -/
theorem Handler.isCoherent_of_output
    (hout : (handler.tick settings store now responder).output = some out) :
    ∃ report, store.ready settings = .ok report
      ∧ IsCoherent settings handler.state (store.input settings report now) now
        (handler.tick settings store now responder) out := by
  obtain ⟨report, hready, hpublished, hrecorded, hcalls⟩ := Handler.tick_of_output hout
  have hadvanced : Advanced (store.input settings report now) settings.useComfortableStop
      handler.state out.state :=
    hpublished ▸ FailsafeInput.advanced ..
  refine ⟨report, hready, ?_⟩
  constructor
  case recorded => exact hrecorded
  case stamp => rw [hpublished]; rfl
  case isEmergency => exact hadvanced.isEmergency_of_ne_normal
  case hazardLights =>
    intro hphase hset
    rw [hpublished]
    exact FailsafeInput.hazardLights_of_isEmergency (hadvanced.isEmergency_of_ne_normal hphase) hset
  case ne_normal => exact hadvanced.ne_normal_of_isEmergency
  case maneuver => exact hadvanced.maneuver_of_normal
  case cancelled =>
    intro hphase hrunning
    rw [hcalls, hadvanced.maneuver_of_normal hphase]
    exact cancel_mem_callsToward hrunning hrunning
  case not_activated =>
    intro hphase call hcall hon
    rw [hcalls, hadvanced.maneuver_of_normal hphase] at hcall
    exact (Call.isWanted_iff.1 (isWanted_of_mem_callsToward hcall)).1 hon

/-- **Published outputs are coherent.**  Whatever a handler has recorded and whichever calls are
open: a tick that publishes records what it publishes, as of now.  A phase other than normal is
published in an emergency only, and then with the hazard lights on if so set; in an emergency of an
autonomous vehicle it always is.  With the phase normal there is no maneuver, the one recorded
before is cancelled, and none is activated.  No run of a new handler reaches the failed phase. -/
theorem published_outputs_cohere (settings : FailsafeSettings) :
    (∀ (handler : Handler) (store : Store) (now : Duration) (responder : Responder)
        (out : HandlerOutput),
        let result := handler.tick settings store now responder
        result.output = some out →
          ∃ report, store.ready settings = .ok report
            ∧ IsCoherent settings handler.state (store.input settings report now) now result out)
      ∧ ∀ (clock : Clock) (store : Store) (responder : Responder) (events : List Event),
          ((System.fresh settings clock store responder).after events).handler.state.phase
            ≠ .failed :=
  ⟨fun _ _ _ _ _ => Handler.isCoherent_of_output, fun clock store responder events =>
    (System.after_followsDemands settings clock store responder events).not_failed⟩

/-- A state that no run reaches: failed, in the middle of an emergency stop, with an activation of
no maneuver open. -/
def Handler.failing : Handler where
  state := ⟨.failed, .emergencyStop, .zero⟩
  pending := [⟨.none, true⟩, ⟨.comfortableStop, true⟩]

/-- It stays failed as long as there is an emergency, with the hazard lights on, and cancels the
stop when there is none. -/
theorem failing_coheres :
    let settings := FailsafeSettings.standard
    let store := System.latentFault.store
    let calm : Store := { store with hazard := some ⟨.zero, ⟨.noFault, false, false⟩⟩ }
    let failed := Handler.failing.tick settings store .zero {}
    let cleared := Handler.failing.tick settings calm .zero {}
    failed.output = some ⟨.enable, .drive, ⟨.failed, .emergencyStop, .zero⟩⟩
      ∧ (∃ input, input.isEmergency = true
        ∧ IsCoherent settings Handler.failing.state input .zero failed
          ⟨.enable, .drive, ⟨.failed, .emergencyStop, .zero⟩⟩)
      ∧ cleared.output = some ⟨.noCommand, .drive, ⟨.normal, .none, .zero⟩⟩
      ∧ ⟨.emergencyStop, false⟩ ∈ cleared.calls
      ∧ ⟨.comfortableStop, true⟩ ∉ cleared.calls := by
  intro settings store calm failed cleared
  have hfailed : failed.output = some ⟨.enable, .drive, ⟨.failed, .emergencyStop, .zero⟩⟩ := by
    decide +kernel
  have hcleared : cleared.output = some ⟨.noCommand, .drive, ⟨.normal, .none, .zero⟩⟩ := by
    decide +kernel
  obtain ⟨hcoherent, -⟩ := published_outputs_cohere settings
  obtain ⟨_, -, hemergency⟩ := hcoherent _ _ _ _ _ hfailed
  obtain ⟨_, -, hnormal⟩ := hcoherent _ _ _ _ _ hcleared
  refine ⟨hfailed, ⟨_, hemergency.isEmergency (by decide), hemergency⟩, hcleared,
    hnormal.cancelled rfl (by decide), fun hmem => ?_⟩
  cases hnormal.not_activated rfl _ hmem rfl

end DriveDecision
