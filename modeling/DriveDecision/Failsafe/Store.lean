import DriveDecision.Failsafe.Hazard

/-!
# Failsafe/Store — the latest of everything reported

Each producer overwrites its own field.  A field never written reads as the harmless value, except
that the handler waits for the first hazard report.
-/

namespace DriveDecision

/-- The latest values. -/
structure Store where
  hazard : Option StampedReport := none
  speed : Option Float := none
  mode : Option ControlMode := none
  comfortableStop : Option ModuleStatus := none
  emergencyStop : Option ModuleStatus := none
  deriving Repr, Inhabited

namespace Store

/-- Without odometry ego stands still. -/
def speedOrZero (store : Store) : Float := store.speed.getD 0

def modeOrDefault (store : Store) : ControlMode := store.mode.getD default

def comfortableStopStatus (store : Store) : ModuleStatus := store.comfortableStop.getD default

def emergencyStopStatus (store : Store) : ModuleStatus := store.emergencyStop.getD default

end Store

end DriveDecision
