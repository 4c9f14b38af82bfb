import DriveDecision.Log
import DriveDecision.Road.Vehicle
import DriveDecision.Signal.Arbitration
import DriveDecision.Signal.Crossing

/-!
# Signal/Cycle — one planning cycle of the turn signal

A cycle builds the intersection candidate, weighs it against the behavior candidate, and then lets a
command that is still being held prevail.  Between cycles the arbiter remembers the anchors of the
turns in sight and the command it holds.
-/

namespace DriveDecision

/-- A blinker held until ego passes the end of the required span it was emitted in. -/
structure HeldSignal (α : Type) where
  command : TurnCommand
  requiredEnd : Pose α
  deriving Repr

/-- What is remembered from cycle to cycle. -/
structure SignalState (α : Type) where
  anchors : Anchors α := .empty
  held : Option (HeldSignal α) := none

/-- Nothing is remembered, as after a change of route. -/
def SignalState.initial {α : Type} : SignalState α := {}

/-- Where ego is relative to the intersection candidate that was picked. -/
structure Approach (α : Type) where
  /-- Inside the required span. -/
  isActive : Bool
  /-- Inside the desired span, short of the required one. -/
  isApproaching : Bool
  distance : α
  requiredStart : Pose α
  deriving Repr

/-- What a cycle emits, with both candidates as they came in. -/
structure Decision (α : Type) where
  turn : TurnCommand
  hazard : HazardLights
  source : SignalSource
  approach : Approach α
  intersection : Option (Candidate α)
  behavior : Candidate α
  deriving Repr

/-- What a cycle looks at. -/
structure CycleInput (α : Type) where
  net : Network α
  path : Path α
  behavior : Candidate α
  pose : Pose α
  speed : α

variable {α : Type} [Scalar α]

/-- No intersection in sight. -/
def Approach.none : Approach α := ⟨false, false, Scalar.greatest, .origin⟩

/-! ## Weighing -/

/-- The command arbitration arrives at, before any hold. -/
structure Verdict (α : Type) where
  turn : TurnCommand
  source : SignalSource
  /-- The candidate the command is from. -/
  winner : Option (Candidate α)
  approach : Approach α

namespace Ego

/-- How ego approaches an intersection candidate. -/
def approach (ego : Ego α) (c : Candidate α) : Approach α :=
  let d := ego.spanOf c
  if d.desiredStart < 0 ∧ 0 < d.desiredEnd then
    ⟨d.requiredStart ≤ 0, 0 < d.requiredStart, d.requiredStart, c.requiredStart⟩
  else .none

/-- The verdict for an intersection candidate. -/
def forIntersection (ego : Ego α) (c : Candidate α) : Verdict α :=
  ⟨c.turn, .intersection, some c, ego.approach c⟩

/-- **Weigh what there is**: a candidate alone is taken as it is, two are arbitrated. -/
def weigh (ego : Ego α) (inter : Option (Candidate α)) (beh : Candidate α) : Verdict α :=
  match inter with
  | none =>
    ⟨beh.turn, if beh.turn = .noCommand then .neither else .behavior, some beh, .none⟩
  | some c =>
    if beh.turn.isInactive then ego.forIntersection c
    else match (ego.resolve c beh).2 with
      | .intersection => ego.forIntersection c
      | .behavior => ⟨beh.turn, .behavior, some beh, .none⟩
      | .neither | .held => ⟨.noCommand, .neither, none, .none⟩

/-! ## Holding -/

/-- What becomes of a held command. -/
inductive Hold (α : Type) where
  /-- There is none, or ego is past its end. -/
  | over
  /-- No candidate asks for a blinker any more. -/
  | released (held : HeldSignal α)
  | running (held : HeldSignal α)

/-- Whether a held command goes on: as long as some candidate asks for a blinker and ego has not
passed its end. -/
def hold (ego : Ego α) (held : Option (HeldSignal α)) (isRequested : Bool) : Hold α :=
  match held with
  | none => .over
  | some h =>
    if !isRequested then .released h
    else if 0 ≤ ego.distanceTo h.requiredEnd then .running h
    else .over

/-- The hold a verdict starts: its command must be a blinker, and ego within the winner's required
span. -/
def newHold (ego : Ego α) (v : Verdict α) : Option (HeldSignal α) :=
  v.winner.bind fun w =>
    if v.turn.isEnabled && w.turn == v.turn && (ego.spanOf w).withinRequired then
      some ⟨v.turn, w.requiredEnd⟩
    else none

end Ego

/-- The entry the hold writes for a verdict, if any. -/
def Ego.Hold.entry? (v : Verdict α) : Ego.Hold α → Option (LogEntry α)
  | .over => none
  | .released h =>
    some ⟨.debug, "no candidate left, releasing held turn signal",
      [("held", .text h.command.name)]⟩
  | .running h =>
    if h.command = v.turn then none
    else some ⟨.debug, "holding previous turn signal",
      [("held", .text h.command.name), ("candidate", .text v.turn.name)]⟩

/-! ## The cycle -/

/-- The arbiter of the turn signal: its settings and the vehicle it is in. -/
structure SignalArbiter (α : Type) where
  settings : SignalSettings α
  vehicle : Vehicle α
  deriving Repr

namespace SignalArbiter

/-- Ego on a given segment of a path. -/
def ego (arbiter : SignalArbiter α) (path : Path α) (pose : Pose α) (segment : Nat) : Ego α where
  path := path
  near := arbiter.settings.nearest
  front := arbiter.vehicle.front
  pose := pose
  segment := segment

/-- Ego located on a path; on an empty path it is nowhere. -/
def locate? (arbiter : SignalArbiter α) (path : Path α) (pose : Pose α) : Option (Ego α) :=
  (path.locate? arbiter.settings.nearest pose).map (arbiter.ego path pose)

/-- What a cycle leaves behind. -/
structure Outcome (α : Type) where
  decision : Decision α
  state : SignalState α
  entries : List (LogEntry α)

/-- The cycle of an ego that is on the path. -/
def cycleAt (arbiter : SignalArbiter α) (state : SignalState α) (input : CycleInput α)
    (ego : Ego α) : Outcome α :=
  let beh := input.behavior
  let (inter, anchors) := ego.crossing arbiter.settings input.net state.anchors input.speed
  let verdict := ego.weigh inter beh
  let isRequested := beh.turn.isEnabled || inter.any (·.turn.isEnabled)
  let hold := ego.hold state.held isRequested
  let (turn, source, held) :=
    match hold with
    | .running h =>
      (h.command, if h.command = verdict.turn then verdict.source else .held, some h)
    | .over | .released _ => (verdict.turn, verdict.source, ego.newHold verdict)
  { decision := ⟨turn, beh.hazard, source, verdict.approach, inter, beh⟩
    state := ⟨anchors, held⟩
    entries := (hold.entry? verdict).toList }

/-- The cycle without a path to be on: nothing is emitted, and nothing held any longer. -/
def cycleNowhere (state : SignalState α) (input : CycleInput α) : Outcome α where
  decision := ⟨.noCommand, input.behavior.hazard, .neither, .none, none, input.behavior⟩
  state := { state with held := none }
  entries := []

/-- **One planning cycle.** -/
def cycle (arbiter : SignalArbiter α) (state : SignalState α) (input : CycleInput α) : Outcome α :=
  match arbiter.locate? input.path input.pose with
  | none => cycleNowhere state input
  | some ego => arbiter.cycleAt state input ego

end SignalArbiter

end DriveDecision
