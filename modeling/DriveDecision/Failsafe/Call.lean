import DriveDecision.Failsafe.Maneuver

/-!
# Failsafe/Call — calls to the maneuver modules and their answers

A module is told to run its maneuver or to cancel it.  A module that answers may refuse; one that
does not answer leaves the call open.
-/

namespace DriveDecision

/-- A request to a maneuver module. -/
structure Call where
  maneuver : Maneuver
  /-- To run the maneuver; otherwise to cancel it. -/
  operate : Bool
  deriving DecidableEq, Repr

namespace Call

/-- **Whether an open call still agrees with the recorded maneuver**: running it, or not. -/
def isWanted (call : Call) (recorded : Maneuver) : Bool :=
  if call.operate then call.maneuver == recorded else call.maneuver != recorded

def verb (call : Call) : String := if call.operate then "operate" else "cancel"

end Call

/-- What comes of a call. -/
inductive Answer where
  | granted
  | refused
  /-- No answer within the wait. -/
  | silent
  /-- Nobody there to answer. -/
  | disconnected
  deriving DecidableEq, Repr

/-- Why a call was not answered. -/
inductive ServiceError where
  | timeout (maneuver : Maneuver) (waited : Duration)
  | disconnected (maneuver : Maneuver)
  deriving DecidableEq, Repr

def ServiceError.message : ServiceError → String
  | timeout maneuver waited =>
    s!"{maneuver.text} service did not answer within {waited.text}"
  | disconnected maneuver => s!"{maneuver.text} service is not connected"

namespace Answer

/-- The error of an answer that is none. -/
def error? (answer : Answer) (maneuver : Maneuver) (wait : Duration) : Option ServiceError :=
  match answer with
  | granted | refused => none
  | silent => some (.timeout maneuver wait)
  | disconnected => some (.disconnected maneuver)

/-- The call was not answered and stays open. -/
def isOpen : Answer → Bool
  | granted | refused => false
  | silent | disconnected => true

end Answer

/-- Who answers the calls: first the listed answers, in order, and then always the same one. -/
structure Responder where
  listed : List Answer := []
  further : Answer := .granted
  deriving DecidableEq, Repr, Inhabited

namespace Responder

/-- The answer to the next call, and who answers the ones after it. -/
def next (r : Responder) : Answer × Responder :=
  match r.listed with
  | [] => (r.further, r)
  | a :: rest => (a, { r with listed := rest })

/-- Each call with its answer. -/
def answer (r : Responder) : List Call → List (Call × Answer) × Responder
  | [] => ([], r)
  | call :: calls =>
    let (a, r) := r.next
    let (answered, r) := answer r calls
    ((call, a) :: answered, r)

@[simp] theorem map_fst_answer (r : Responder) (calls : List Call) :
    (r.answer calls).1.map (·.1) = calls := by
  induction calls generalizing r with
  | nil => rfl
  | cons call calls ih => simp [answer, ih]

@[simp] theorem answer_nil (r : Responder) : r.answer [] = ([], r) := rfl

end Responder

end DriveDecision
