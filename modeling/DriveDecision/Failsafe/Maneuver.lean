import DriveDecision.Time.Duration

/-!
# Failsafe/Maneuver — the minimum risk maneuver and how far it is

In an emergency the vehicle is brought to a stop, comfortably or at once.  The state says which
maneuver is running, how far it is, and since when.
-/

namespace DriveDecision

/-- How far the maneuver is. -/
inductive Phase where
  | normal
  | operating
  | succeeded
  | failed
  deriving DecidableEq, Repr, Inhabited

namespace Phase

def name : Phase → String
  | normal => "Normal"
  | operating => "Operating"
  | succeeded => "Succeeded"
  | failed => "Failed"

/-- The phase in messages. -/
def text : Phase → String
  | normal => "NORMAL"
  | operating => "OPERATING"
  | succeeded => "SUCCEEDED"
  | failed => "FAILED"

end Phase

/-- A way to bring the vehicle to a stop. -/
inductive Maneuver where
  | none
  | comfortableStop
  | emergencyStop
  deriving DecidableEq, Repr, Inhabited

namespace Maneuver

def name : Maneuver → String
  | none => "None"
  | comfortableStop => "ComfortableStop"
  | emergencyStop => "EmergencyStop"

/-- The maneuver in messages. -/
def text : Maneuver → String
  | none => "NONE"
  | comfortableStop => "COMFORTABLE_STOP"
  | emergencyStop => "EMERGENCY_STOP"

end Maneuver

/-- The recorded state of the maneuver. -/
structure ManeuverState where
  phase : Phase
  maneuver : Maneuver
  stamp : Duration
  deriving DecidableEq, Repr, Inhabited

/-- Nothing is running, as of `now`. -/
def ManeuverState.idle (now : Duration) : ManeuverState := ⟨.normal, .none, now⟩

end DriveDecision
