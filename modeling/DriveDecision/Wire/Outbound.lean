import DriveDecision.Failsafe.Handler
import DriveDecision.Signal.Cycle
import DriveDecision.Wire.Code

/-!
# Wire/Outbound — what is published, in bytes and words

A maneuver state travels as two codes and a stamp in nanoseconds.  The stamp is a word: later times
are cut to the last one it holds.
-/

namespace DriveDecision

/-- A maneuver state on the wire. -/
structure StateMessage where
  stampNanos : UInt64
  phase : UInt8
  maneuver : UInt8
  deriving DecidableEq, Repr, Inhabited

namespace StateMessage

def ofState (s : ManeuverState) : StateMessage :=
  ⟨s.stamp.toWord, WireCode.code s.phase, WireCode.code s.maneuver⟩

/-- The state a message stands for; of two bad codes the phase is reported. -/
def toState (m : StateMessage) : Except DecodeError ManeuverState := do
  let phase ← WireCode.ofCode m.phase
  let maneuver ← WireCode.ofCode m.maneuver
  return ⟨phase, maneuver, .ofWord m.stampNanos⟩

/-- **A state comes back as it was**, but for a stamp that is cut. -/
theorem toState_ofState (s : ManeuverState) :
    (ofState s).toState = .ok { s with stamp := .ofWord s.stamp.toWord } := by
  simp only [toState, ofState, Phase.ofCode_code, Maneuver.ofCode_code]
  rfl

/-- A message stands for a state with its own stamp. -/
theorem stamp_of_toState {m : StateMessage} {s : ManeuverState} (h : m.toState = .ok s) :
    s.stamp = .ofWord m.stampNanos := by
  obtain ⟨nanos, phase, maneuver⟩ := m
  simp only [toState] at h
  rcases hphase : (WireCode.ofCode phase : Except DecodeError Phase) with _ | phase'
  · rw [hphase] at h
    cases h
  · rcases hmaneuver : (WireCode.ofCode maneuver : Except DecodeError Maneuver) with _ | maneuver'
    all_goals
      rw [hphase, hmaneuver] at h
      cases h
    rfl

end StateMessage

/-- What a tick publishes, on the wire. -/
structure HandlerMessages where
  hazardLights : UInt8
  gear : UInt8
  state : StateMessage
  deriving DecidableEq, Repr, Inhabited

def HandlerOutput.messages (out : HandlerOutput) : HandlerMessages :=
  ⟨out.hazardLights.code, out.gear.code, .ofState out.state⟩

/-- What a planning cycle publishes, on the wire. -/
structure SignalMessages where
  turn : UInt8
  hazardLights : UInt8
  deriving DecidableEq, Repr, Inhabited

def Decision.messages {α : Type} (d : Decision α) : SignalMessages :=
  ⟨WireCode.code d.turn, d.hazard.code⟩

end DriveDecision
