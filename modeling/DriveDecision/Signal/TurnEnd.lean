import DriveDecision.Road.Lane

/-!
# Signal/TurnEnd — where on a turning lane the turn is over

The blinker has to stay on until ego heads about as it will when leaving the lane.  The centerline
is sampled every meter up to its end; a last step below a tenth of a meter is merged into the one
before it.
-/

namespace DriveDecision.TurnEnd

variable {α : Type} [Scalar α]

/-- The distance between samples. -/
def interval : α := 1.0

/-- Sample `k` of a centerline, if it is not the last one. -/
def sample (k : Nat) : α := Scalar.ofCount k * interval

/-- The number of samples short of `length`, counting from sample `k`; at most `fuel` more. -/
def countFrom (length : α) : Nat → Nat → Nat
  | 0, k => k
  | fuel + 1, k => if sample k < length then countFrom length fuel (k + 1) else k

/-- **The arc lengths to sample**: every meter short of the length, then the length itself.  Samples
are counted in 32 bits: the fuel `UInt32.size` stands for that counter, which overflows where the
fuel runs out. -/
def arcs (length : α) : List α :=
  match countFrom length UInt32.size 0 with
  | 0 => [length]
  | last + 1 =>
    let kept := if length - sample last < (0.1 : α) then last else last + 1
    (List.range kept).map sample ++ [length]

/-- The samples of a centerline. -/
def points (centerline : List (Point α)) : List (Point α) :=
  (arcs (Polyline.length centerline)).filterMap (Polyline.at? centerline)

/-- Each point headed for the next one; the last keeps the heading it is reached with. -/
def headed (line : List (Point α)) : List (Pose α) :=
  let headings := (consecutive line).map fun (a, b) => a.azimuth b
  line.zipWith Pose.mk (headings ++ headings.getLast?.toList)

/-- **The first sample heading within the threshold of the last one.**  A centerline too short to be
sampled twice ends where it ends, headed from its first vertex to its last. -/
def pose? (centerline : List (Point α)) (threshold : α) : Option (Pose α) :=
  match centerline, centerline.getLast? with
  | first :: _ :: _, some last =>
    match points centerline with
    | [p] => some ⟨p, first.azimuth last⟩
    | line =>
      let poses := headed line
      poses.getLast?.bind fun exit =>
        (poses.find? fun pose => Scalar.abs (wrapAngle (pose.yaw - exit.yaw)) < threshold).or
          (some exit)
  | _, _ => none

end DriveDecision.TurnEnd
