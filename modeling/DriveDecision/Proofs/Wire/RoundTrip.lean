import DriveDecision.Proofs.Failsafe.Published
import DriveDecision.Wire.Outbound
import Mathlib.Data.FinEnum

/-!
# Proofs/Wire/RoundTrip — a maneuver state survives the wire

    state ──code, code, word──▸ message ──▸ state       the stamp cut to a word
    message ──if both codes stand for something──▸ state ──▸ the same message

The code tables and the stamp are inverse to each other as far as they go: every state has a
message, and of the messages those with a phase from one to four and a maneuver from one to three
have a state.  A clock shows nothing that a word does not hold, so nothing is lost of what a tick
publishes: its messages determine it (`eq_of_messages_eq`).
-/

namespace DriveDecision

/-! ## Codes -/

/-- Only its own code stands for a phase. -/
theorem Phase.eq_code_of_ofCode {code : UInt8} {phase : Phase}
    (h : (WireCode.ofCode code : Except DecodeError Phase) = .ok phase) :
    code = WireCode.code phase := by
  simp only [WireCode.ofCode] at h
  split at h
  all_goals cases h
  all_goals rfl

/-- The phases are written from one to four: zero is unknown. -/
theorem isOk_ofCode_phase (code : UInt8) :
    (WireCode.ofCode code : Except DecodeError Phase).isOk = decide (1 ≤ code ∧ code ≤ 4) := by
  revert code
  decide +kernel

/-- The maneuvers are written from one to three. -/
theorem isOk_ofCode_maneuver (code : UInt8) :
    (WireCode.ofCode code : Except DecodeError Maneuver).isOk = decide (1 ≤ code ∧ code ≤ 3) := by
  revert code
  decide +kernel

theorem exists_eq_ok_of_isOk {ε τ : Type} {result : Except ε τ} (h : result.isOk = true) :
    ∃ value, result = .ok value := by
  cases result with
  | error e => cases h
  | ok value => exact ⟨value, rfl⟩

theorem HazardLights.code_injective : Function.Injective HazardLights.code := by
  intro lights lights' h
  cases lights <;> cases lights' <;> first | rfl | cases h

theorem Gear.code_injective : Function.Injective Gear.code := by
  intro gear gear' h
  cases gear <;> cases gear' <;> first | rfl | cases h

/-! ## Stamps -/

/-- A stamp comes back as it was, or as the last time a word holds. -/
theorem Duration.ofWord_toWord (d : Duration) :
    ofWord d.toWord = .ofNanos (min d.nanos (2 ^ 64 - 1)) := by
  apply ext_nanos
  simp only [ofWord_toWord_nanos, nanos_ofNanos, greatest]
  omega

theorem Duration.ofWord_toWord_of_lt {d : Duration} (h : d.nanos < 2 ^ 64) :
    ofWord d.toWord = d := by
  apply ext_nanos
  rw [ofWord_toWord_nanos]
  omega

/-- A clock shows what a word holds. -/
theorem Clock.nanos_now_lt (clock : Clock) : clock.now.nanos < 2 ^ 64 := by
  rw [now, Duration.nanos_ofWord]
  exact clock.nanos.toNat_lt

/-! ## States -/

namespace StateMessage

/-- A state whose stamp fits comes back as it was. -/
theorem toState_ofState_of_lt {s : ManeuverState} (h : s.stamp.nanos < 2 ^ 64) :
    (ofState s).toState = .ok s := by
  rw [toState_ofState, Duration.ofWord_toWord_of_lt h]

/-- States with stamps that fit have messages of their own. -/
theorem eq_of_ofState_eq {s s' : ManeuverState} (h : ofState s = ofState s')
    (hfits : s.stamp.nanos < 2 ^ 64) (hfits' : s'.stamp.nanos < 2 ^ 64) : s = s' := by
  have hdecoded := congrArg toState h
  rw [toState_ofState_of_lt hfits, toState_ofState_of_lt hfits'] at hdecoded
  exact Except.ok.inj hdecoded

/-- **What a message stands for**: the values of its codes, and its stamp. -/
theorem toState_eq_ok_iff {m : StateMessage} {s : ManeuverState} :
    m.toState = .ok s
      ↔ (WireCode.ofCode m.phase : Except DecodeError Phase) = .ok s.phase
        ∧ (WireCode.ofCode m.maneuver : Except DecodeError Maneuver) = .ok s.maneuver
        ∧ s.stamp = .ofWord m.stampNanos := by
  obtain ⟨phase, maneuver, stamp⟩ := s
  simp only [toState]
  cases (WireCode.ofCode m.phase : Except DecodeError Phase) with
  | error e =>
    constructor
    · intro h
      cases h
    · rintro ⟨h, -, -⟩
      cases h
  | ok phase' =>
    cases (WireCode.ofCode m.maneuver : Except DecodeError Maneuver) with
    | error e =>
      constructor
      · intro h
        cases h
      · rintro ⟨-, h, -⟩
        cases h
    | ok maneuver' =>
      constructor
      · rintro ⟨⟩
        exact ⟨rfl, rfl, rfl⟩
      · rintro ⟨⟨⟩, ⟨⟩, ⟨⟩⟩
        rfl

/-- **A message stands for a state if both its codes stand for something.** -/
theorem exists_toState_iff {m : StateMessage} :
    (∃ s, m.toState = .ok s)
      ↔ (1 ≤ m.phase ∧ m.phase ≤ 4) ∧ 1 ≤ m.maneuver ∧ m.maneuver ≤ 3 := by
  have hphase := isOk_ofCode_phase m.phase
  have hmaneuver := isOk_ofCode_maneuver m.maneuver
  constructor
  · rintro ⟨s, hs⟩
    obtain ⟨hphase', hmaneuver', -⟩ := toState_eq_ok_iff.1 hs
    rw [hphase'] at hphase
    rw [hmaneuver'] at hmaneuver
    exact ⟨of_decide_eq_true hphase.symm, of_decide_eq_true hmaneuver.symm⟩
  · rintro ⟨hphase', hmaneuver'⟩
    rw [decide_eq_true hphase'] at hphase
    rw [decide_eq_true hmaneuver'] at hmaneuver
    obtain ⟨phase, hphase⟩ := exists_eq_ok_of_isOk hphase
    obtain ⟨maneuver, hmaneuver⟩ := exists_eq_ok_of_isOk hmaneuver
    exact ⟨⟨phase, maneuver, _⟩, toState_eq_ok_iff.2 ⟨hphase, hmaneuver, rfl⟩⟩

/-- **…and is the message of that state.** -/
theorem ofState_of_toState {m : StateMessage} {s : ManeuverState} (h : m.toState = .ok s) :
    ofState s = m := by
  obtain ⟨hphase, hmaneuver, hstamp⟩ := toState_eq_ok_iff.1 h
  rw [ofState, hstamp, Duration.toWord_ofWord, ← Phase.eq_code_of_ofCode hphase,
    ← Maneuver.eq_code_of_ofCode hmaneuver]

end StateMessage

/-! ## What a tick publishes -/

/-- **The messages of an output determine it**, as far as its stamp fits. -/
theorem HandlerOutput.eq_of_messages_eq {out out' : HandlerOutput}
    (h : out.messages = out'.messages)
    (hfits : out.state.stamp.nanos < 2 ^ 64) (hfits' : out'.state.stamp.nanos < 2 ^ 64) :
    out = out' := by
  obtain ⟨lights, gear, state⟩ := out
  obtain ⟨lights', gear', state'⟩ := out'
  obtain ⟨hlights, hgear, hstate⟩ := HandlerMessages.mk.inj h
  obtain rfl : lights = lights' := HazardLights.code_injective hlights
  obtain rfl : gear = gear' := Gear.code_injective hgear
  obtain rfl : state = state' := StateMessage.eq_of_ofState_eq hstate hfits hfits'
  rfl

/-- What a step publishes is stamped by the clock. -/
theorem System.nanos_stamp_lt_of_step {system : System} {event : Event} {out : HandlerOutput}
    (h : (system.step event).2.output = some out) : out.state.stamp.nanos < 2 ^ 64 := by
  rcases system.step_publishes event with ⟨-, hnone, -⟩ | ⟨input, -, -, hout, -⟩
  · cases hnone.symm.trans h
  · obtain rfl := Option.some.inj (hout.symm.trans h)
    exact system.clock.nanos_now_lt

/-- **So is all that a run publishes.** -/
theorem System.nanos_stamp_lt_of_run {system : System} {events : List Event} {out : HandlerOutput}
    (h : out ∈ (system.run events).2.filterMap (·.output)) : out.state.stamp.nanos < 2 ^ 64 := by
  induction events generalizing system with
  | nil => cases h
  | cons event events ih =>
    obtain ⟨reaction, hmem, hout⟩ := List.mem_filterMap.1 h
    rw [run_cons_snd] at hmem
    rcases List.mem_cons.1 hmem with rfl | hmem
    · exact nanos_stamp_lt_of_step hout
    · exact ih (List.mem_filterMap.2 ⟨reaction, hmem, hout⟩)

/-- **A maneuver state survives the wire.**  A state comes back as it was, but for a stamp that is
cut to the last time a word holds; a stamp that fits is not cut, and what a clock shows fits.  A
message stands for a state exactly if both its codes stand for something, and then it is the message
of that state.  Whatever two systems publish, at whatever times of their runs: if the messages are
the same, the outputs are. -/
theorem state_survives_wire :
    (∀ s : ManeuverState, (StateMessage.ofState s).toState
        = .ok { s with stamp := .ofNanos (min s.stamp.nanos (2 ^ 64 - 1)) })
      ∧ (∀ s : ManeuverState, s.stamp.nanos < 2 ^ 64 → (StateMessage.ofState s).toState = .ok s)
      ∧ (∀ clock : Clock, clock.now.nanos < 2 ^ 64)
      ∧ (∀ m : StateMessage, (∃ s, m.toState = .ok s)
          ↔ (1 ≤ m.phase ∧ m.phase ≤ 4) ∧ 1 ≤ m.maneuver ∧ m.maneuver ≤ 3)
      ∧ (∀ (m : StateMessage) (s : ManeuverState), m.toState = .ok s → StateMessage.ofState s = m)
      ∧ ∀ (first second : System) (events events' : List Event) (out out' : HandlerOutput),
          out ∈ (first.run events).2.filterMap (·.output) →
          out' ∈ (second.run events').2.filterMap (·.output) →
            out.messages = out'.messages → out = out' := by
  refine ⟨fun s => ?_, fun _ => StateMessage.toState_ofState_of_lt, Clock.nanos_now_lt,
    fun _ => StateMessage.exists_toState_iff, fun _ _ => StateMessage.ofState_of_toState, ?_⟩
  · rw [StateMessage.toState_ofState, Duration.ofWord_toWord]
  · intro first second events events' out out' hout hout' h
    exact HandlerOutput.eq_of_messages_eq h (System.nanos_stamp_lt_of_run hout)
      (System.nanos_stamp_lt_of_run hout')

/-- The largest stamp is cut and then comes back, a message without a phase stands for nothing, and
a comfortable stop is the same on the wire whether or not a speed came in before. -/
theorem comfortableStop_survives_wire :
    let late : ManeuverState := ⟨.operating, .comfortableStop, .greatest⟩
    let cut : ManeuverState := ⟨.operating, .comfortableStop, .ofNanos (2 ^ 64 - 1)⟩
    let message : StateMessage := ⟨18446744073709551615, 2, 3⟩
    (StateMessage.ofState late).toState = .ok cut
      ∧ cut.stamp.nanos < 2 ^ 64 ∧ (StateMessage.ofState cut).toState = .ok cut
      ∧ message.toState = .ok cut ∧ StateMessage.ofState cut = message
      ∧ (¬ ∃ s, (⟨0, 0, 3⟩ : StateMessage).toState = .ok s)
      ∧ ∃ out out', out ∈ (System.latentFault.run [.tick]).2.filterMap (·.output)
        ∧ out' ∈ (System.latentFault.run [.write (.speed 5.0), .tick]).2.filterMap (·.output)
        ∧ out.messages = out'.messages ∧ out = out' := by
  intro late cut message
  obtain ⟨hcut, hback, -, hvalid, hsame, hpublished⟩ := state_survives_wire
  have hfits : cut.stamp.nanos < 2 ^ 64 := by decide +kernel
  have hmessage : message.toState = .ok cut := by decide +kernel
  let stop : HandlerOutput := ⟨.enable, .drive, ⟨.operating, .comfortableStop, .zero⟩⟩
  have hout : stop ∈ (System.latentFault.run [.tick]).2.filterMap (·.output) := by decide +kernel
  have hout' : stop ∈ (System.latentFault.run [.write (.speed 5.0), .tick]).2.filterMap
      (·.output) := by decide +kernel
  exact ⟨hcut late, hfits, hback cut hfits, hmessage, hsame message cut hmessage,
    fun h => absurd (hvalid _ |>.1 h) (by decide), stop, stop, hout, hout', rfl,
    hpublished _ _ _ _ stop stop hout hout' rfl⟩

end DriveDecision
