import DriveDecision.Time.Duration

/-!
# Failsafe/Throttle — saying the same thing only so often

A tick that has to wait says what for, and one without fresh reports says so; each such notice is
written again only after its period.
-/

namespace DriveDecision

/-- What is said again and again. -/
inductive Notice where
  | awaitingReport
  | awaitingComfortableStop
  | awaitingEmergencyStop
  | staleReport
  deriving DecidableEq, Repr

/-- The time between two notices of a kind. -/
def Notice.period : Notice → Duration
  | awaitingReport | awaitingComfortableStop | awaitingEmergencyStop => .ofSeconds 5
  | staleReport => .ofSeconds 1

/-- When each notice was last written. -/
structure Throttle where
  awaitingReport : Option Duration := none
  awaitingComfortableStop : Option Duration := none
  awaitingEmergencyStop : Option Duration := none
  staleReport : Option Duration := none
  deriving DecidableEq, Repr, Inhabited

namespace Throttle

/-- When a notice was last written. -/
def last? (throttle : Throttle) : Notice → Option Duration
  | .awaitingReport => throttle.awaitingReport
  | .awaitingComfortableStop => throttle.awaitingComfortableStop
  | .awaitingEmergencyStop => throttle.awaitingEmergencyStop
  | .staleReport => throttle.staleReport

/-- Remember that a notice is written now. -/
def mark (throttle : Throttle) (notice : Notice) (now : Duration) : Throttle :=
  match notice with
  | .awaitingReport => { throttle with awaitingReport := some now }
  | .awaitingComfortableStop => { throttle with awaitingComfortableStop := some now }
  | .awaitingEmergencyStop => { throttle with awaitingEmergencyStop := some now }
  | .staleReport => { throttle with staleReport := some now }

@[simp] theorem last?_mark (throttle : Throttle) (notice other : Notice) (now : Duration) :
    (throttle.mark notice now).last? other
      = if other = notice then some now else throttle.last? other := by
  cases notice <;> cases other <;> rfl

/-- **A notice is due** if it was never written, or its period has passed since; a clock that was
set back makes it wait. -/
def isDue (throttle : Throttle) (notice : Notice) (now : Duration) : Bool :=
  (throttle.last? notice).all fun last => notice.period ≤ now.since last

end Throttle

end DriveDecision
