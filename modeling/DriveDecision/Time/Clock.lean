import DriveDecision.Time.Duration

/-!
# Time/Clock — a clock that is told the time

The clock counts nanoseconds in a word.  It can be set to any time and moved on; past the last word
it starts over.
-/

namespace DriveDecision

/-- A clock that only moves when told to. -/
structure Clock where
  nanos : UInt64
  deriving DecidableEq, Repr, Inhabited

namespace Clock

/-- A clock showing `t`, or the latest time it can show. -/
def showing (t : Duration) : Clock := ⟨t.toWord⟩

/-- The time shown. -/
def now (clock : Clock) : Duration := .ofWord clock.nanos

/-- The clock moved on by `dt`. -/
def advance (clock : Clock) (dt : Duration) : Clock := ⟨clock.nanos + dt.toWord⟩

end Clock

end DriveDecision
