import DriveDecision.Signal.Candidate

/-!
# Signal/Arbitration — one signal out of two candidates

Both candidates are judged by where ego stands relative to their spans.  A candidate whose desired
span is still ahead or already behind gives way; between two that apply, the required spans decide
(`priorPrevails`).
-/

namespace DriveDecision

variable {α : Type} [Scalar α]

/-- **Whether the prior of two requests keeps the signal.**  The prior one is the one whose required
span starts first; the arguments are the signed distances to the start and the end of both required
spans. -/
def priorPrevails (priorStart priorEnd laterStart laterEnd : α) : Bool :=
  let ahead : Bool := 0 < priorStart
  let inside : Bool := priorStart < 0 && 0 ≤ priorEnd
  let laterAhead : Bool := 0 < laterStart
  if priorStart < laterStart then laterEnd < priorEnd || ahead || inside || laterAhead
  else if priorEnd < laterEnd then ahead || inside
  else !ahead

/-- The outcome of weighing two candidates. -/
inductive Choice where
  | neither
  | first
  | second
  deriving DecidableEq, Repr

/-- **Weigh an intersection candidate against a behavior candidate.**  On equal required starts the
behavior candidate counts as the prior one. -/
def arbitrate (inter beh : SpanDistances α) : Choice :=
  if 0 < inter.desiredStart ∧ 0 < beh.desiredStart then .neither
  else if 0 < inter.desiredStart then .second
  else if 0 < beh.desiredStart then .first
  else if inter.desiredEnd < 0 ∧ beh.desiredEnd < 0 then .neither
  else if inter.desiredEnd < 0 then .second
  else if beh.desiredEnd < 0 then .first
  else if inter.requiredStart < beh.requiredStart then
    if priorPrevails inter.requiredStart inter.requiredEnd beh.requiredStart beh.requiredEnd then
      .first
    else .second
  else if priorPrevails beh.requiredStart beh.requiredEnd inter.requiredStart inter.requiredEnd then
    .second
  else .first

/-- **Weigh a candidate against a newer one to be merged into it.**  On equal required starts the
older candidate counts as the prior one. -/
def merge (old new : SpanDistances α) : Choice :=
  if 0 < old.desiredStart ∧ 0 < new.desiredStart then .neither
  else if 0 < old.desiredStart then .second
  else if 0 < new.desiredStart then .first
  else if old.desiredEnd < 0 ∧ new.desiredEnd < 0 then .neither
  else if old.desiredEnd < 0 then .second
  else if new.desiredEnd < 0 then .first
  else if old.requiredStart ≤ new.requiredStart then
    if priorPrevails old.requiredStart old.requiredEnd new.requiredStart new.requiredEnd then .first
    else .second
  else if priorPrevails new.requiredStart new.requiredEnd old.requiredStart old.requiredEnd then
    .second
  else .first

/-- Where an emitted command comes from. -/
inductive SignalSource where
  | neither
  | intersection
  | behavior
  /-- Held over from an earlier cycle. -/
  | held
  deriving DecidableEq, Repr, Inhabited

/-- The source's name in dumps. -/
def SignalSource.name : SignalSource → String
  | .neither => "Neither"
  | .intersection => "Intersection"
  | .behavior => "Behavior"
  | .held => "Held"

namespace Ego

/-- The command arbitration picks, and the candidate it is from. -/
def resolve (ego : Ego α) (inter beh : Candidate α) : TurnCommand × SignalSource :=
  match arbitrate (ego.spanOf inter) (ego.spanOf beh) with
  | .first => (inter.turn, .intersection)
  | .second => (beh.turn, .behavior)
  | .neither => (.noCommand, .neither)

/-- Two candidates merged into the one that applies. -/
def mergeCandidates (ego : Ego α) (old new : Candidate α) : Candidate α :=
  match merge (ego.spanOf old) (ego.spanOf new) with
  | .first => old
  | .second => new
  | .neither => .none

end Ego

end DriveDecision
