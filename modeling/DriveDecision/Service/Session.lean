import DriveDecision.Service.Exchange

/-!
# Service/Session — an exchange, one move after another

The caller connects maneuvers and makes calls, one at a time.  The serving side acts when it likes,
while a call waits or between two moves of the caller.
-/

namespace DriveDecision

/-- A move of either side. -/
inductive Move where
  | connect (maneuver : Maneuver)
  /-- With what the serving side does while the call waits. -/
  | call (maneuver : Maneuver) (operate : Bool) (wait : Duration) (during : List ServerAction)
  | serve (action : ServerAction)
  deriving Repr

namespace Exchange

/-- **One move**; what a call returns is its caller's. -/
def perform (x : Exchange) : Move → Exchange
  | .connect maneuver => x.connect maneuver
  | .call maneuver operate wait during => (x.call maneuver operate wait during).1
  | .serve action => x.serve action

/-- Where some moves lead. -/
def after (x : Exchange) (moves : List Move) : Exchange := moves.foldl perform x

end Exchange

end DriveDecision
