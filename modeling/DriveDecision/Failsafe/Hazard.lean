import DriveDecision.Time.Duration

/-!
# Failsafe/Hazard — what the fault monitor and the vehicle report

A hazard report names the worst fault and whether there is an emergency.  A report counts from when
it was received, and one that has become too old is no report at all.
-/

namespace DriveDecision

/-- Fault severity, from harmless to worst. -/
inductive FaultLevel where
  | noFault
  | safeFault
  | latentFault
  | singlePointFault
  deriving DecidableEq, Repr, Inhabited

namespace FaultLevel

def name : FaultLevel → String
  | noFault => "NoFault"
  | safeFault => "SafeFault"
  | latentFault => "LatentFault"
  | singlePointFault => "SinglePointFault"

/-- The place in the order of severity. -/
def severity : FaultLevel → Nat
  | noFault => 0
  | safeFault => 1
  | latentFault => 2
  | singlePointFault => 3

instance : LT FaultLevel := ⟨fun a b => a.severity < b.severity⟩
instance : DecidableLT FaultLevel := fun a b =>
  inferInstanceAs (Decidable (a.severity < b.severity))

end FaultLevel

/-- A report of the fault monitor. -/
structure HazardReport where
  level : FaultLevel
  emergency : Bool
  /-- An emergency latched until an operator clears it. -/
  holding : Bool
  deriving DecidableEq, Repr, Inhabited

/-- A report with the time it was received. -/
structure StampedReport where
  stamp : Duration
  report : HazardReport
  deriving DecidableEq, Repr

/-- **A report is stale once it is strictly older than the timeout.** -/
def StampedReport.isStale (r : StampedReport) (now timeout : Duration) : Bool :=
  timeout < now.since r.stamp

/-- Staleness in unbounded nanoseconds: neither a stamp ahead of the clock nor a timeout past the
largest duration makes an exception. -/
theorem StampedReport.isStale_iff (r : StampedReport) (now timeout : Duration) :
    r.isStale now timeout = true ↔ r.stamp.nanos + timeout.nanos < now.nanos := by
  simp only [isStale, decide_eq_true_eq, Duration.lt_def, Duration.nanos_since]
  omega

/-- Who drives. -/
inductive ControlMode where
  | noCommand
  | autonomous
  | steerOnly
  | velocityOnly
  | manual
  | disengaged
  | notReady
  deriving DecidableEq, Repr, Inhabited

def ControlMode.name : ControlMode → String
  | noCommand => "NoCommand"
  | autonomous => "Autonomous"
  | steerOnly => "SteerOnly"
  | velocityOnly => "VelocityOnly"
  | manual => "Manual"
  | disengaged => "Disengaged"
  | notReady => "NotReady"

/-- What a maneuver module says of itself. -/
inductive ModuleStatus where
  | notAvailable
  | available
  | operating
  | succeeded
  | failed
  deriving DecidableEq, Repr, Inhabited

namespace ModuleStatus

def name : ModuleStatus → String
  | notAvailable => "NotAvailable"
  | available => "Available"
  | operating => "Operating"
  | succeeded => "Succeeded"
  | failed => "Failed"

def isAvailable (status : ModuleStatus) : Bool := status != notAvailable

end ModuleStatus

end DriveDecision
