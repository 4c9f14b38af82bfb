import DriveDecision.Time.Duration

/-!
# Failsafe/Settings — rates, timeouts and options of the fault handler

Times are given in seconds, as doubles; `Duration.ofFloatSeconds` makes durations of them whatever
they are.
-/

namespace DriveDecision

/-- The settings of the fault handler. -/
structure FailsafeSettings where
  /-- Ticks per second. -/
  updateRate : UInt32
  /-- Seconds without a hazard report until it counts as stale. -/
  hazardTimeout : Float
  /-- Shift to park once stopped. -/
  parkAfterStop : Bool
  /-- A latent fault is met with a comfortable stop. -/
  useComfortableStop : Bool
  /-- The hazard lights are on in an emergency. -/
  hazardLightsOnEmergency : Bool
  /-- Seconds to wait for a maneuver module to answer. -/
  serviceTimeout : Float
  deriving Repr

namespace FailsafeSettings

/-- The settings in use unless the parameters say otherwise. -/
def standard : FailsafeSettings where
  updateRate := 10
  hazardTimeout := 0.5
  parkAfterStop := false
  useComfortableStop := false
  hazardLightsOnEmergency := true
  serviceTimeout := 0.05

/-- The time between ticks; a rate of zero counts as one. -/
def period (s : FailsafeSettings) : Duration :=
  .ofFloatSeconds (1.0 / Float.ofNat (max s.updateRate.toNat 1))

/-- How long a hazard report counts. -/
def staleAfter (s : FailsafeSettings) : Duration := .ofFloatSeconds s.hazardTimeout

/-- How long an answer is waited for. -/
def serviceWait (s : FailsafeSettings) : Duration := .ofFloatSeconds s.serviceTimeout

end FailsafeSettings

end DriveDecision
