import DriveDecision.Failsafe.Decision

/-!
# Wire/Code — one byte for each value

The middleware speaks in bytes.  Reading a code back gives the value it was written for, except that
a turn signal going straight and one switched off share a code.
-/

namespace DriveDecision

/-- A byte that stands for nothing, and what it was read as. -/
inductive DecodeError where
  | faultLevel (code : UInt8)
  | controlMode (code : UInt8)
  | moduleStatus (code : UInt8)
  | phase (code : UInt8)
  | maneuver (code : UInt8)
  | turnCommand (code : UInt8)
  deriving DecidableEq, Repr

def DecodeError.message : DecodeError → String
  | faultLevel code => s!"invalid hazard level code {code}"
  | controlMode code => s!"invalid control mode code {code}"
  | moduleStatus code => s!"invalid behavior status code {code}"
  | phase code => s!"invalid MRM state code {code}"
  | maneuver code => s!"invalid MRM behavior code {code}"
  | turnCommand code => s!"invalid turn indicator code {code}"

/-- Values that travel as one byte. -/
class WireCode (τ : Type) where
  code : τ → UInt8
  ofCode : UInt8 → Except DecodeError τ

instance : WireCode FaultLevel where
  code
    | .noFault => 0
    | .safeFault => 1
    | .latentFault => 2
    | .singlePointFault => 3
  ofCode
    | 0 => .ok .noFault
    | 1 => .ok .safeFault
    | 2 => .ok .latentFault
    | 3 => .ok .singlePointFault
    | c => .error (.faultLevel c)

instance : WireCode ControlMode where
  code
    | .noCommand => 0
    | .autonomous => 1
    | .steerOnly => 2
    | .velocityOnly => 3
    | .manual => 4
    | .disengaged => 5
    | .notReady => 6
  ofCode
    | 0 => .ok .noCommand
    | 1 => .ok .autonomous
    | 2 => .ok .steerOnly
    | 3 => .ok .velocityOnly
    | 4 => .ok .manual
    | 5 => .ok .disengaged
    | 6 => .ok .notReady
    | c => .error (.controlMode c)

instance : WireCode ModuleStatus where
  code
    | .notAvailable => 0
    | .available => 1
    | .operating => 2
    | .succeeded => 3
    | .failed => 4
  ofCode
    | 0 => .ok .notAvailable
    | 1 => .ok .available
    | 2 => .ok .operating
    | 3 => .ok .succeeded
    | 4 => .ok .failed
    | c => .error (.moduleStatus c)

/-- Zero means unknown, and no phase is written as unknown. -/
instance : WireCode Phase where
  code
    | .normal => 1
    | .operating => 2
    | .succeeded => 3
    | .failed => 4
  ofCode
    | 1 => .ok .normal
    | 2 => .ok .operating
    | 3 => .ok .succeeded
    | 4 => .ok .failed
    | c => .error (.phase c)

instance : WireCode Maneuver where
  code
    | .none => 1
    | .emergencyStop => 2
    | .comfortableStop => 3
  ofCode
    | 1 => .ok .none
    | 2 => .ok .emergencyStop
    | 3 => .ok .comfortableStop
    | c => .error (.maneuver c)

theorem FaultLevel.ofCode_code (level : FaultLevel) :
    (WireCode.ofCode (WireCode.code level) : Except DecodeError FaultLevel) = .ok level := by
  cases level <;> rfl

theorem ControlMode.ofCode_code (mode : ControlMode) :
    (WireCode.ofCode (WireCode.code mode) : Except DecodeError ControlMode) = .ok mode := by
  cases mode <;> rfl

theorem ModuleStatus.ofCode_code (status : ModuleStatus) :
    (WireCode.ofCode (WireCode.code status) : Except DecodeError ModuleStatus) = .ok status := by
  cases status <;> rfl

theorem Phase.ofCode_code (phase : Phase) :
    (WireCode.ofCode (WireCode.code phase) : Except DecodeError Phase) = .ok phase := by
  cases phase <;> rfl

theorem Maneuver.ofCode_code (maneuver : Maneuver) :
    (WireCode.ofCode (WireCode.code maneuver) : Except DecodeError Maneuver) = .ok maneuver := by
  cases maneuver <;> rfl

/-- Only its own code stands for a maneuver. -/
theorem Maneuver.eq_code_of_ofCode {code : UInt8} {maneuver : Maneuver}
    (h : (WireCode.ofCode code : Except DecodeError Maneuver) = .ok maneuver) :
    code = WireCode.code maneuver := by
  simp only [WireCode.ofCode] at h
  split at h
  all_goals cases h
  all_goals rfl

instance : WireCode TurnCommand where
  code
    | .noCommand => 0
    | .off | .straight => 1
    | .left => 2
    | .right => 3
  ofCode
    | 0 => .ok .noCommand
    | 1 => .ok .off
    | 2 => .ok .left
    | 3 => .ok .right
    | c => .error (.turnCommand c)

/-- The gear is only ever written. -/
def Gear.code : Gear → UInt8
  | .drive => 2
  | .park => 22

/-- The hazard lights are only ever written. -/
def HazardLights.code : HazardLights → UInt8
  | .noCommand => 0
  | .enable => 2

end DriveDecision
