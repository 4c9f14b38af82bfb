import DriveDecision.Failsafe.Call

/-!
# Service/Exchange — calls over queues, each with a reply of its own

A caller puts a request on the queue its maneuver was connected to last and waits for the reply.
The reply slot belongs to that one request, so an answer that comes late answers nobody: the caller
has given up, and its next request has a slot of its own.

Requests are numbered in the order of the calls, and queues in the order of the connects.
-/

namespace DriveDecision

/-- A request as it lies on a queue. -/
structure ServiceCall where
  id : Nat
  operate : Bool
  deriving DecidableEq, Repr

/-- The serving end of one connect. -/
structure RequestQueue where
  isOpen : Bool := true
  /-- Oldest first. -/
  waiting : List ServiceCall := []
  deriving DecidableEq, Repr, Inhabited

/-- What has become of a request. -/
inductive Reply where
  /-- Somebody may still answer. -/
  | awaited
  | given (success : Bool)
  /-- Dropped unanswered. -/
  | lost
  deriving DecidableEq, Repr, Inhabited

/-- Queues, connections and reply slots. -/
structure Exchange where
  queues : List RequestQueue := []
  /-- Which queue a maneuver was connected to, the latest first. -/
  connections : List (Maneuver × Nat) := []
  replies : List Reply := []
  deriving DecidableEq, Repr, Inhabited

/-- What a serving side can do. -/
inductive ServerAction where
  /-- Take the oldest request off a queue. -/
  | take (queue : Nat)
  | respond (id : Nat) (success : Bool)
  /-- Let go of a request without answering. -/
  | drop (id : Nat)
  /-- Give up a queue, and with it what waits in it. -/
  | close (queue : Nat)
  deriving DecidableEq, Repr

namespace Exchange

/-- Decide the reply of a request; the first decision stands. -/
def settle (x : Exchange) (id : Nat) (reply : Reply) : Exchange :=
  { x with replies := x.replies.modify id fun r => if r = .awaited then reply else r }

/-- **One action of a serving side.** -/
def serve (x : Exchange) : ServerAction → Exchange
  | .take queue =>
    { x with queues := x.queues.modify queue fun q => { q with waiting := q.waiting.tail } }
  | .respond id success => x.settle id (.given success)
  | .drop id => x.settle id .lost
  | .close queue =>
    let waiting := (x.queues[queue]?.map (·.waiting)).getD []
    let closed :=
      { x with queues := x.queues.modify queue fun _ => { isOpen := false, waiting := [] } }
    waiting.foldl (fun x call => x.settle call.id .lost) closed

/-- Connect a maneuver to a new queue. -/
def connect (x : Exchange) (maneuver : Maneuver) : Exchange :=
  { x with
    queues := x.queues ++ [{}]
    connections := (maneuver, x.queues.length) :: x.connections }

/-- The queue a maneuver is connected to, by number. -/
def connection? (x : Exchange) (maneuver : Maneuver) : Option Nat := x.connections.lookup maneuver

/-- The queue a maneuver is connected to, if somebody still serves it. -/
def openQueue? (x : Exchange) (maneuver : Maneuver) : Option (Nat × RequestQueue) :=
  (x.connection? maneuver).bind fun n =>
    x.queues[n]?.bind fun q => if q.isOpen then some (n, q) else none

/-- Put a request on a queue and open its reply slot. -/
def send (x : Exchange) (queue : Nat) (operate : Bool) : Exchange :=
  { x with
    queues := x.queues.modify queue fun q =>
      { q with waiting := q.waiting ++ [⟨x.replies.length, operate⟩] }
    replies := x.replies ++ [.awaited] }

/-- **A call**, during whose wait the serving side acts; the call ends with its own reply or with an
error, and what happens to the reply afterwards is nobody's concern. -/
def call (x : Exchange) (maneuver : Maneuver) (operate : Bool) (wait : Duration)
    (during : List ServerAction) : Exchange × Except ServiceError Bool :=
  match x.openQueue? maneuver with
  | none => (x, .error (.disconnected maneuver))
  | some (queue, _) =>
    let after := during.foldl serve (x.send queue operate)
    (after,
      match after.replies[x.replies.length]? with
      | some (.given success) => .ok success
      | some .awaited => .error (.timeout maneuver wait)
      | some .lost | none => .error (.disconnected maneuver))

/-! ## A server that clears its queue -/

/-- What a server does with a request it takes. -/
inductive Disposal where
  | answer (success : Bool)
  | drop
  deriving DecidableEq, Repr

def Disposal.action (d : Disposal) (id : Nat) : ServerAction :=
  match d with
  | .answer success => .respond id success
  | .drop => .drop id

/-- The requests on a maneuver's queue once one more is sent, oldest first. -/
def queuedWith (x : Exchange) (maneuver : Maneuver) (operate : Bool) : List ServiceCall :=
  match x.openQueue? maneuver with
  | none => []
  | some (_, q) => q.waiting ++ [⟨x.replies.length, operate⟩]

/-- Take every request off a maneuver's queue, the one about to be sent included, and dispose of
each in turn. -/
def clearing (x : Exchange) (maneuver : Maneuver) (operate : Bool) (d : Disposal) :
    List ServerAction :=
  match x.openQueue? maneuver with
  | none => []
  | some (queue, _) =>
    (x.queuedWith maneuver operate).flatMap fun call => [.take queue, d.action call.id]

end Exchange

end DriveDecision
