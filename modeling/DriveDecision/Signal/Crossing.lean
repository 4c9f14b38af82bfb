import DriveDecision.Road.Network
import DriveDecision.Signal.Anchors
import DriveDecision.Signal.Candidate
import DriveDecision.Signal.Settings
import DriveDecision.Signal.TurnEnd

/-!
# Signal/Crossing — the candidate of the next turn

The lanes ahead are looked at in path order, up to the first one out of reach.  The turning lanes
among them, each anchored where it was first seen, are the candidates; the first whose required span
is not behind ego is taken, or the last of all.
-/

namespace DriveDecision

/-- A lane ahead that is to be signalled. -/
structure Turn (α : Type) where
  id : LaneId
  lane : Lane α
  front : Pose α
  back : Pose α
  deriving Repr

/-- What a lane ahead means to the search. -/
inductive Sighting (α : Type) where
  /-- Unknown, degenerate, behind, or not signalled. -/
  | skipped
  /-- The first lane out of reach: the search ends. -/
  | beyond
  | turning (turn : Turn α)
  deriving Repr

namespace Sighting

variable {α : Type}

def isInReach : Sighting α → Bool
  | beyond => false
  | skipped | turning _ => true

theorem isInReach_iff {s : Sighting α} : s.isInReach = true ↔ s ≠ beyond := by
  cases s <;> simp [isInReach]

def turn? : Sighting α → Option (Turn α)
  | turning t => some t
  | skipped | beyond => none

theorem turn?_eq_some_iff {s : Sighting α} {t : Turn α} : s.turn? = some t ↔ s = turning t := by
  cases s <;> simp [turn?]

end Sighting

/-- The first element with a property, or else the last one. -/
def firstOrLast? {β : Type} (p : β → Bool) (bs : List β) : Option β := (bs.find? p).or bs.getLast?

theorem firstOrLast?_eq_none_iff {β : Type} {p : β → Bool} {bs : List β} :
    firstOrLast? p bs = none ↔ bs = [] := by
  cases bs <;> simp [firstOrLast?]

theorem mem_of_firstOrLast? {β : Type} {p : β → Bool} {b : β} {bs : List β}
    (h : firstOrLast? p bs = some b) : b ∈ bs := by
  rcases Option.or_eq_some_iff.1 h with hfind | ⟨-, hlast⟩
  · exact List.mem_of_find?_eq_some hfind
  · exact List.mem_of_getLast? hlast

theorem firstOrLast?_map {β γ : Type} (p : γ → Bool) (f : β → γ) (bs : List β) :
    firstOrLast? p (bs.map f) = (firstOrLast? (p ∘ f) bs).map f := by
  rw [firstOrLast?, firstOrLast?, List.find?_map, List.getLast?_map, Option.map_or]

variable {α : Type} [Scalar α]

/-- How far ahead a turn is looked for at a speed. -/
def SignalSettings.reach (settings : SignalSettings α) (speed : α) : α :=
  Scalar.min (speed * settings.intersectionSearchTime) settings.intersectionSearchDistance

/-- The candidate of a turn first seen at `seen`: required from the entry of the lane to the end of
the turn, desired up to the exit. -/
def Turn.candidate (t : Turn α) (settings : SignalSettings α) (seen : Pose α) : Candidate α where
  turn := t.lane.turn.command
  hazard := .noCommand
  desiredStart := seen
  desiredEnd := t.back
  requiredStart := t.front
  requiredEnd :=
    (TurnEnd.pose? t.lane.centerline (Scalar.radians settings.intersectionAngleDegrees)).getD t.back

namespace Ego

/-- What lane `id` means to a search of the given reach. -/
def sight (ego : Ego α) (net : Network α) (reach : α) (id : LaneId) : Sighting α :=
  match net.lane? id with
  | none => .skipped
  | some lane =>
    match lane.front?, lane.back? with
    | some front, some back =>
      if ego.distanceTo back < 0 then .skipped
      else if reach ≤ ego.distanceTo front - ego.front then .beyond
      else if lane.turn.requiresSignal then .turning ⟨id, lane, front, back⟩
      else .skipped
    | _, _ => .skipped

/-- The lanes referenced from ego's segment on. -/
def lanesAhead (ego : Ego α) : List LaneId := ego.path.lanesFrom ego.segment

/-- The turns within reach, in path order. -/
def turnsAhead (ego : Ego α) (net : Network α) (reach : α) : List (Turn α) :=
  ((ego.lanesAhead.map (ego.sight net reach)).takeWhile (·.isInReach)).filterMap (·.turn?)

/-- Every turn within reach gets its anchor here, unless it has one. -/
def anchorTurns (ego : Ego α) (turns : List (Turn α)) (anchors : Anchors α) : Anchors α :=
  turns.foldl (fun kept t => kept.anchor t.id ego.pose) anchors

/-- **The next turn's candidate, and the anchors to keep.** -/
def crossing (ego : Ego α) (settings : SignalSettings α) (net : Network α) (anchors : Anchors α)
    (speed : α) : Option (Candidate α) × Anchors α :=
  let turns := ego.turnsAhead net (settings.reach speed)
  let anchored := ego.anchorTurns turns anchors
  let candidates := turns.map fun t => t.candidate settings ((anchored.get? t.id).getD ego.pose)
  (firstOrLast? (fun c => 0 ≤ ego.distanceTo c.requiredEnd) candidates,
    anchored.restrict ego.lanesAhead)

end Ego

end DriveDecision
