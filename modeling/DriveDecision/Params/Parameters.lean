import DriveDecision.Failsafe.Settings
import DriveDecision.Number.Double
import DriveDecision.Number.Text
import DriveDecision.Road.Vehicle
import DriveDecision.Signal.Settings
import DriveDecision.Yaml.Document

/-!
# Params/Parameters — all settings, out of one document

A document has a section for each part; a section or a key that is missing keeps its default, and so
does a section with nothing in it.  Unknown keys are none of our business, but a known one may be
given only once.
-/

namespace DriveDecision

/-- All settings. -/
structure Parameters where
  failsafe : FailsafeSettings
  signal : SignalSettings Float
  vehicle : Vehicle Float
  deriving Repr

/-- Why a document is refused. -/
inductive ParameterError where
  /-- The text is no document, or a value has the wrong form. -/
  | malformed
  | zeroUpdateRate
  | badSeconds (key : String) (value : Float)
  deriving Repr

/-- What to tell about a value that is refused. -/
def ParameterError.message? : ParameterError → Option String
  | malformed => none
  | zeroUpdateRate => some "emergency_handler.update_rate must be positive"
  | badSeconds key value =>
    some (s!"emergency_handler.{key} must be a finite, non-negative number of seconds"
      ++ s!" (got {Number.plain value})")

namespace Parameters

def standard : Parameters := ⟨.standard, .standard, .standard⟩

/-! ## Sections -/

/-- A section: its keys with their values. -/
abbrev Section := List (String × Yaml.Node)

/-- The section a node of a document is: a mapping under scalar keys, or nothing at all. -/
def section? (d : Yaml.Document) : Yaml.Node → Option Section
  | .mapping entries => entries.mapM fun (key, value) =>
    return (← (← d.resolve key).text?, ← d.resolve value)
  | .scalar "" .plain _ => some []
  | _ => none

/-- The value of a key, or its default; a key given twice is refused. -/
def Section.get {β : Type} (entries : Section) (key : String) (default : β)
    (read : Yaml.Node → Option β) : Option β :=
  match entries.filter (·.1 == key) with
  | [] => some default
  | [(_, node)] => read node
  | _ => none

def Section.float (entries : Section) (key : String) (default : Float) : Option Float :=
  entries.get key default Yaml.Node.float?

def Section.flag (entries : Section) (key : String) (default : Bool) : Option Bool :=
  entries.get key default Yaml.Node.bool?

/-- A natural number of at most 32 bits. -/
def word? (node : Yaml.Node) : Option UInt32 :=
  node.nat?.bind fun n => if n < UInt32.size then some n.toUInt32 else none

def failsafe? (document : Yaml.Document) (node : Yaml.Node) : Option FailsafeSettings := do
  let s ← section? document node
  let d := FailsafeSettings.standard
  let turningHazard (node : Yaml.Node) : Option Bool := do
    (← section? document node).flag "emergency" d.hazardLightsOnEmergency
  return {
    updateRate := ← s.get "update_rate" d.updateRate word?
    hazardTimeout := ← s.float "timeout_hazard_status" d.hazardTimeout
    parkAfterStop := ← s.flag "use_parking_after_stopped" d.parkAfterStop
    useComfortableStop := ← s.flag "use_comfortable_stop" d.useComfortableStop
    hazardLightsOnEmergency :=
      ← s.get "turning_hazard_on" d.hazardLightsOnEmergency turningHazard
    serviceTimeout := ← s.float "service_timeout" d.serviceTimeout }

def signal? (document : Yaml.Document) (node : Yaml.Node) : Option (SignalSettings Float) := do
  let s ← section? document node
  let d : SignalSettings Float := .standard
  return {
    intersectionSearchDistance :=
      ← s.float "intersection_search_distance" d.intersectionSearchDistance
    intersectionSearchTime := ← s.float "intersection_search_time" d.intersectionSearchTime
    intersectionAngleDegrees :=
      ← s.float "intersection_angle_threshold_deg" d.intersectionAngleDegrees
    shiftThreshold := ← s.float "shift_length_threshold" d.shiftThreshold
    searchTime := ← s.float "search_time" d.searchTime
    minimumSearchDistance := ← s.float "minimum_search_distance" d.minimumSearchDistance
    desiredLeadMargin := ← s.float "desired_lead_margin" d.desiredLeadMargin
    onSwerving := ← s.flag "on_swerving" d.onSwerving
    nearest := {
      distance := ← s.float "nearest_dist_threshold" d.nearest.distance
      yaw := ← s.float "nearest_yaw_threshold" d.nearest.yaw } }

def vehicle? (document : Yaml.Document) (node : Yaml.Node) : Option (Vehicle Float) := do
  let s ← section? document node
  let d : Vehicle Float := .standard
  return {
    front := ← s.float "base_link_to_front" d.front
    rear := ← s.float "base_link_to_rear" d.rear
    halfWidth := ← s.float "half_width" d.halfWidth }

/-- The settings of a document. -/
def ofDocument? (document : Yaml.Document) : Option Parameters := do
  let s ← section? document document.root
  return {
    failsafe := ← s.get "emergency_handler" .standard (failsafe? document)
    signal := ← s.get "turn_signal" .standard (signal? document)
    vehicle := ← s.get "vehicle" .standard (vehicle? document) }

/-! ## Checks -/

/-- A number of seconds that can be waited. -/
def checkSeconds (key : String) (seconds : Float) : Except ParameterError Unit :=
  if seconds.isFinite && 0 ≤ seconds then .ok () else .error (.badSeconds key seconds)

/-- What no handler can run with is refused: first a rate of zero, then the timeouts. -/
def check (p : Parameters) : Except ParameterError Unit := do
  if p.failsafe.updateRate = 0 then .error .zeroUpdateRate
  checkSeconds "timeout_hazard_status" p.failsafe.hazardTimeout
  checkSeconds "service_timeout" p.failsafe.serviceTimeout

/-- **The settings of a text.** -/
def ofText (text : String) : Except ParameterError Parameters :=
  match (Yaml.read? text).bind ofDocument? with
  | none => .error .malformed
  | some p => (check p).map fun _ => p

end Parameters

end DriveDecision
