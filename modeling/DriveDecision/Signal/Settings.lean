import DriveDecision.Road.Path

/-!
# Signal/Settings — the distances and times of the blinker

Lengths are in meters, times in seconds, angles in radians unless named otherwise.
-/

namespace DriveDecision

/-- The settings of the turn signal. -/
structure SignalSettings (α : Type) where
  /-- A turn is looked for at most this far ahead … -/
  intersectionSearchDistance : α
  /-- … and at most this long ahead. -/
  intersectionSearchTime : α
  /-- A turn has ended once the heading is this close to the lane's exit heading. -/
  intersectionAngleDegrees : α
  /-- An offset up to this much is none. -/
  shiftThreshold : α
  /-- A shift is signalled this long ahead … -/
  searchTime : α
  /-- … but never less than this far. -/
  minimumSearchDistance : α
  /-- How far ahead of a shift the blinker may come on early. -/
  desiredLeadMargin : α
  /-- Whether a shift without a lane to shift to goes unsignalled. -/
  onSwerving : Bool
  /-- How near, and how alike in heading, the path has to be to a pose to locate it. -/
  nearest : Path.Nearness α
  deriving Repr

/-- The settings in use unless the parameters say otherwise. -/
def SignalSettings.standard {α : Type} [Scalar α] : SignalSettings α where
  intersectionSearchDistance := 30.0
  intersectionSearchTime := 3.0
  intersectionAngleDegrees := 15.0
  shiftThreshold := 0.3
  searchTime := 3.0
  minimumSearchDistance := 10.0
  desiredLeadMargin := 5.0
  onSwerving := true
  nearest := ⟨3.0, 1.046⟩

end DriveDecision
