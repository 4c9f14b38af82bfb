import DriveDecision.Service.Session
import Mathlib.Data.List.Range

/-!
# Proofs/Service/Ledger — what has happened at an exchange, and what lies on its queues

    connected ES   sent ES   sent ES   connected ES   sent ES   take 0
                   #0        #1                       #2        #0
                   └─ queue 0 ┘                       queue 1

A **ledger** tells what has happened, one entry after another.  Which queue a request goes to, and
which requests were placed on a queue, is read off it alone; of a queue that is served, what was
taken and what is waiting is what was placed, in that order (`taken_append_waitingOn`).
-/

namespace DriveDecision

/-- **What has happened at an exchange** since it was opened. -/
inductive Ledger where
  | opened
  | connected (past : Ledger) (maneuver : Maneuver)
  | sent (past : Ledger) (maneuver : Maneuver) (operate : Bool)
  | served (past : Ledger) (action : ServerAction)
  deriving DecidableEq, Repr

/-! ## What lies on a queue -/

namespace Exchange

variable (x : Exchange)

/-- The requests waiting on a queue, oldest first. -/
def waitingOn (n : Nat) : List ServiceCall := (x.queues[n]?.map (·.waiting)).getD []

/-- Whether a queue is served, if there is such a queue. -/
def isOpen? (n : Nat) : Option Bool := x.queues[n]?.map (·.isOpen)

/-- Send a request for a maneuver, if somebody serves it. -/
def request (maneuver : Maneuver) (operate : Bool) : Exchange :=
  match x.openQueue? maneuver with
  | none => x
  | some (queue, _) => x.send queue operate

theorem foldl_settle (calls : List ServiceCall) :
    let settled := calls.foldl (fun x call => x.settle call.id .lost) x
    settled.queues = x.queues ∧ settled.connections = x.connections
      ∧ settled.replies.length = x.replies.length := by
  induction calls generalizing x with
  | nil => exact ⟨rfl, rfl, rfl⟩
  | cons call calls ih =>
    obtain ⟨hqueues, hconnections, hreplies⟩ := ih (x.settle call.id .lost)
    exact ⟨hqueues, hconnections, hreplies.trans (List.length_modify ..)⟩

@[simp] theorem connections_serve (action : ServerAction) :
    (x.serve action).connections = x.connections := by
  cases action with
  | close queue => exact (foldl_settle _ _).2.1
  | _ => rfl

@[simp] theorem length_replies_serve (action : ServerAction) :
    (x.serve action).replies.length = x.replies.length := by
  cases action with
  | take queue => rfl
  | respond id success => exact List.length_modify ..
  | drop id => exact List.length_modify ..
  | close queue => exact (foldl_settle _ _).2.2

theorem queues_serve_close (queue : Nat) :
    (x.serve (.close queue)).queues
      = x.queues.modify queue fun _ => { isOpen := false, waiting := [] } :=
  (foldl_settle _ _).1

@[simp] theorem length_queues_serve (action : ServerAction) :
    (x.serve action).queues.length = x.queues.length := by
  cases action with
  | take queue => exact List.length_modify ..
  | close queue => rw [queues_serve_close, List.length_modify]
  | _ => rfl

variable (n : Nat)

theorem waitingOn_of_length_le (h : x.queues.length ≤ n) : x.waitingOn n = [] := by
  rw [waitingOn, List.getElem?_eq_none h]
  rfl

@[simp] theorem waitingOn_connect (maneuver : Maneuver) :
    (x.connect maneuver).waitingOn n = x.waitingOn n := by
  rcases lt_trichotomy n x.queues.length with h | rfl | h
  · simp only [waitingOn, connect, List.getElem?_append_left h]
  · rw [x.waitingOn_of_length_le _ le_rfl, waitingOn, connect, List.getElem?_concat_length]
    rfl
  · rw [x.waitingOn_of_length_le _ h.le, waitingOn_of_length_le]
    rw [connect, List.length_append]
    exact h

theorem waitingOn_send {queue : Nat} (h : queue < x.queues.length) (operate : Bool) :
    (x.send queue operate).waitingOn n
      = x.waitingOn n ++ if queue = n then [⟨x.replies.length, operate⟩] else [] := by
  rw [waitingOn, waitingOn, send, List.getElem?_modify]
  split_ifs with hn
  · subst hn
    rw [List.getElem?_eq_getElem h]
    rfl
  · cases x.queues[n]? <;> simp

theorem waitingOn_serve (action : ServerAction) :
    (x.serve action).waitingOn n
      = if action = .take n then (x.waitingOn n).tail
        else if action = .close n then [] else x.waitingOn n := by
  cases action with
  | take queue =>
    simp only [waitingOn, serve, List.getElem?_modify, ServerAction.take.injEq, reduceCtorEq,
      if_false]
    split_ifs <;> cases x.queues[n]? <;> rfl
  | respond id success => rfl
  | drop id => rfl
  | close queue =>
    simp only [waitingOn, queues_serve_close, List.getElem?_modify, ServerAction.close.injEq,
      reduceCtorEq, if_false]
    split_ifs <;> cases x.queues[n]? <;> rfl

theorem isOpen?_connect (maneuver : Maneuver) :
    (x.connect maneuver).isOpen? n
      = if n = x.queues.length then some true else x.isOpen? n := by
  rw [isOpen?, isOpen?, connect]
  split_ifs with h
  · rw [h, List.getElem?_concat_length]
    rfl
  · rcases lt_or_gt_of_ne h with h | h
    · rw [List.getElem?_append_left h]
    · rw [List.getElem?_eq_none h.le, List.getElem?_eq_none]
      rw [List.length_append]
      exact h

@[simp] theorem isOpen?_send (queue : Nat) (operate : Bool) :
    (x.send queue operate).isOpen? n = x.isOpen? n := by
  rw [isOpen?, isOpen?, send, List.getElem?_modify]
  split_ifs <;> cases x.queues[n]? <;> rfl

theorem isOpen?_serve (action : ServerAction) :
    (x.serve action).isOpen? n
      = if action = .close n then (x.isOpen? n).map fun _ => false else x.isOpen? n := by
  cases action with
  | take queue =>
    rw [isOpen?, isOpen?, serve, List.getElem?_modify, if_neg nofun]
    split_ifs <;> cases x.queues[n]? <;> rfl
  | respond id success => rfl
  | drop id => rfl
  | close queue =>
    simp only [isOpen?, queues_serve_close, List.getElem?_modify, ServerAction.close.injEq]
    split_ifs <;> cases x.queues[n]? <;> rfl

@[simp] theorem length_queues_request (maneuver : Maneuver) (operate : Bool) :
    (x.request maneuver operate).queues.length = x.queues.length := by
  rw [request]
  split
  · rfl
  · exact List.length_modify ..

@[simp] theorem connections_request (maneuver : Maneuver) (operate : Bool) :
    (x.request maneuver operate).connections = x.connections := by
  rw [request]
  split <;> rfl

@[simp] theorem isOpen?_request (maneuver : Maneuver) (operate : Bool) :
    (x.request maneuver operate).isOpen? n = x.isOpen? n := by
  rw [request]
  split
  · rfl
  · exact isOpen?_send ..

/-- A maneuver's open queue is the one it is connected to, if that is served. -/
theorem map_fst_openQueue? (maneuver : Maneuver) :
    (x.openQueue? maneuver).map (·.1)
      = (x.connection? maneuver).filter fun queue => x.isOpen? queue = some true := by
  rw [openQueue?]
  cases x.connection? maneuver with
  | none => rfl
  | some queue =>
    rw [Option.bind_some, Option.filter_some, isOpen?]
    cases x.queues[queue]? with
    | none => rfl
    | some q =>
      rw [Option.bind_some, Option.map_some]
      cases q.isOpen <;> rfl

end Exchange

/-! ## What a ledger tells -/

namespace Ledger

/-- The exchange as it is now. -/
def exchange : Ledger → Exchange
  | opened => {}
  | connected past maneuver => past.exchange.connect maneuver
  | sent past maneuver operate => past.exchange.request maneuver operate
  | served past action => past.exchange.serve action

/-- How many queues have been handed out; they are numbered in that order. -/
def handedOut : Ledger → Nat
  | opened => 0
  | connected past _ => past.handedOut + 1
  | sent past _ _ | served past _ => past.handedOut

/-- The queue that was handed out for a maneuver last. -/
def latest? (maneuver : Maneuver) : Ledger → Option Nat
  | opened => none
  | connected past other =>
    if maneuver = other then some past.handedOut else past.latest? maneuver
  | sent past _ _ | served past _ => past.latest? maneuver

/-- Whether a queue was given up after it had been handed out. -/
def isGivenUp (n : Nat) : Ledger → Bool
  | opened => false
  | connected past _ | sent past _ _ => past.isGivenUp n
  | served past action => (action = .close n && n < past.handedOut) || past.isGivenUp n

/-- Where a request goes: to the queue handed out last, unless it was given up. -/
def target? (past : Ledger) (maneuver : Maneuver) : Option Nat :=
  (past.latest? maneuver).filter fun queue => !past.isGivenUp queue

/-- **The requests placed**, each with its queue, in the order of the calls. -/
def placed : Ledger → List (Nat × ServiceCall)
  | opened => []
  | connected past _ | served past _ => past.placed
  | sent past maneuver operate =>
    match past.target? maneuver with
    | none => past.placed
    | some queue => past.placed ++ [(queue, ⟨past.placed.length, operate⟩)]

/-- The requests placed on a queue. -/
def placedOn (past : Ledger) (n : Nat) : List ServiceCall :=
  (past.placed.filter (·.1 = n)).map (·.2)

/-- The number of the next request. -/
def nextId (past : Ledger) : Nat := past.placed.length

/-- What a serving side got when it took from a queue. -/
def taken (n : Nat) : Ledger → List ServiceCall
  | opened => []
  | connected past _ | sent past _ _ => past.taken n
  | served past action =>
    past.taken n ++ if action = .take n then (past.exchange.waitingOn n).head?.toList else []

variable (past : Ledger) (n : Nat)

/-! ### The exchange, read off its ledger -/

theorem length_queues : past.exchange.queues.length = past.handedOut := by
  induction past with
  | opened => rfl
  | connected past maneuver ih => exact List.length_append.trans (congrArg (· + 1) ih)
  | served past action ih => exact (Exchange.length_queues_serve _ action).trans ih
  | sent past maneuver operate ih => exact (Exchange.length_queues_request ..).trans ih

theorem connection?_exchange (maneuver : Maneuver) :
    past.exchange.connection? maneuver = past.latest? maneuver := by
  induction past with
  | opened => rfl
  | connected past other ih =>
    rw [exchange, Exchange.connection?, Exchange.connect, List.lookup_cons, latest?, length_queues]
    by_cases h : maneuver = other
    · rw [if_pos h, beq_iff_eq.2 h]
    · rw [if_neg h, beq_eq_false_iff_ne.2 h]
      exact ih
  | served past action ih =>
    rw [exchange, Exchange.connection?, Exchange.connections_serve]
    exact ih
  | sent past other operate ih =>
    rw [exchange, Exchange.connection?, Exchange.connections_request]
    exact ih

variable {past n} in
theorem lt_handedOut_of_isGivenUp (h : past.isGivenUp n = true) : n < past.handedOut := by
  induction past with
  | opened => cases h
  | connected past maneuver ih => exact (ih h).trans (Nat.lt_succ_self _)
  | sent past maneuver operate ih => exact ih h
  | served past action ih =>
    rw [isGivenUp, Bool.or_eq_true, Bool.and_eq_true] at h
    exact h.elim (fun h => of_decide_eq_true h.2) ih

variable {past n} in
theorem lt_handedOut_of_latest? {maneuver : Maneuver} (h : past.latest? maneuver = some n) :
    n < past.handedOut := by
  induction past with
  | opened => cases h
  | sent past maneuver operate ih => exact ih h
  | served past action ih => exact ih h
  | connected past other ih =>
    rw [latest?] at h
    split at h
    · cases h
      exact Nat.lt_succ_self _
    · exact (ih h).trans (Nat.lt_succ_self _)

theorem isOpen?_exchange :
    past.exchange.isOpen? n
      = if n < past.handedOut then some (!past.isGivenUp n) else none := by
  induction past with
  | opened => rfl
  | connected past maneuver ih =>
    rw [exchange, Exchange.isOpen?_connect, length_queues, handedOut, isGivenUp, ih]
    rcases lt_trichotomy n past.handedOut with h | rfl | h
    · rw [if_neg h.ne, if_pos h, if_pos (h.trans (Nat.lt_succ_self _))]
    · have hopen : past.isGivenUp past.handedOut = false :=
        Bool.eq_false_iff.2 fun h => lt_irrefl _ (lt_handedOut_of_isGivenUp h)
      rw [if_pos rfl, if_pos (Nat.lt_succ_self _), hopen]
      rfl
    · rw [if_neg h.ne', if_neg h.not_gt, if_neg (by omega)]
  | sent past maneuver operate ih => exact (Exchange.isOpen?_request ..).trans ih
  | served past action ih =>
    rw [exchange, Exchange.isOpen?_serve, ih, handedOut, isGivenUp]
    by_cases hn : n < past.handedOut <;> by_cases haction : action = .close n <;>
      simp [hn, haction]

/-- **A request goes where the ledger says.** -/
theorem openQueue?_exchange (maneuver : Maneuver) :
    (past.exchange.openQueue? maneuver).map (·.1) = past.target? maneuver := by
  rw [Exchange.map_fst_openQueue?, connection?_exchange, target?]
  cases hlatest : past.latest? maneuver with
  | none => rfl
  | some queue =>
    rw [Option.filter_some, Option.filter_some, isOpen?_exchange,
      if_pos (lt_handedOut_of_latest? hlatest)]
    cases past.isGivenUp queue <;> rfl

variable {past} in
theorem exchange_sent_of_target?_eq_none {maneuver : Maneuver} (operate : Bool)
    (h : past.target? maneuver = none) :
    (past.sent maneuver operate).exchange = past.exchange := by
  rw [← openQueue?_exchange, Option.map_eq_none_iff] at h
  rw [exchange, Exchange.request, h]

variable {past} in
theorem exchange_sent_of_target?_eq_some {maneuver : Maneuver} {queue : Nat} (operate : Bool)
    (h : past.target? maneuver = some queue) :
    (past.sent maneuver operate).exchange = past.exchange.send queue operate := by
  rw [← openQueue?_exchange, Option.map_eq_some_iff] at h
  obtain ⟨⟨_, q⟩, hopen, rfl⟩ := h
  rw [exchange, Exchange.request, hopen]

variable {past} in
theorem target?_spec {maneuver : Maneuver} {queue : Nat} (h : past.target? maneuver = some queue) :
    past.latest? maneuver = some queue ∧ past.isGivenUp queue = false
      ∧ queue < past.exchange.queues.length := by
  rw [target?, Option.filter_eq_some_iff, Bool.not_eq_true'] at h
  exact ⟨h.1, h.2, past.length_queues ▸ lt_handedOut_of_latest? h.1⟩

variable {past} in
theorem target?_eq_none_iff {maneuver : Maneuver} :
    past.target? maneuver = none
      ↔ past.latest? maneuver = none
        ∨ ∃ queue, past.latest? maneuver = some queue ∧ past.isGivenUp queue = true := by
  rw [target?]
  cases past.latest? maneuver with
  | none => simp
  | some queue => simp [Option.filter_some]

/-- Every request has a reply slot of its own. -/
theorem length_replies : past.exchange.replies.length = past.nextId := by
  induction past with
  | opened => rfl
  | connected past maneuver ih => exact ih
  | served past action ih => exact (Exchange.length_replies_serve _ action).trans ih
  | sent past maneuver operate ih =>
    cases htarget : past.target? maneuver with
    | none => rw [exchange_sent_of_target?_eq_none operate htarget, ih, nextId, nextId, placed,
        htarget]
    | some queue =>
      rw [exchange_sent_of_target?_eq_some operate htarget, Exchange.send, List.length_append, ih,
        nextId, nextId, placed, htarget, List.length_append]
      rfl

/-- **No two requests are the same**: they are numbered in the order of the calls. -/
theorem ids_placed : past.placed.map (·.2.id) = List.range past.nextId := by
  induction past with
  | opened => rfl
  | connected past maneuver ih => exact ih
  | served past action ih => exact ih
  | sent past maneuver operate ih =>
    rw [nextId, placed]
    cases past.target? maneuver with
    | none => exact ih
    | some queue =>
      rw [List.map_append, ih, List.length_append, List.length_singleton, List.range_succ]
      rfl

/-! ### What is taken and what is waiting -/

theorem placedOn_sent (maneuver : Maneuver) (operate : Bool) :
    (past.sent maneuver operate).placedOn n
      = past.placedOn n
        ++ if past.target? maneuver = some n then [⟨past.nextId, operate⟩] else [] := by
  rw [placedOn, placed]
  cases past.target? maneuver with
  | none => exact (List.append_nil _).symm
  | some queue =>
    rw [List.filter_append, List.map_append, placedOn]
    by_cases hn : queue = n <;> simp [hn, nextId]

theorem waitingOn_sent (maneuver : Maneuver) (operate : Bool) :
    (past.sent maneuver operate).exchange.waitingOn n
      = past.exchange.waitingOn n
        ++ if past.target? maneuver = some n then [⟨past.nextId, operate⟩] else [] := by
  cases htarget : past.target? maneuver with
  | none =>
    rw [exchange_sent_of_target?_eq_none operate htarget, if_neg nofun, List.append_nil]
  | some queue =>
    rw [exchange_sent_of_target?_eq_some operate htarget,
      Exchange.waitingOn_send _ _ (target?_spec htarget).2.2, length_replies]
    simp only [Option.some.injEq]

variable {past n} in
theorem waitingOn_of_isGivenUp (h : past.isGivenUp n = true) : past.exchange.waitingOn n = [] := by
  induction past with
  | opened => rfl
  | connected past maneuver ih => exact (Exchange.waitingOn_connect ..).trans (ih h)
  | sent past maneuver operate ih =>
    have hne : past.target? maneuver ≠ some n := fun htarget =>
      Bool.false_ne_true ((target?_spec htarget).2.1.symm.trans h)
    rw [waitingOn_sent, if_neg hne, List.append_nil]
    exact ih h
  | served past action ih =>
    rw [exchange, Exchange.waitingOn_serve]
    rw [isGivenUp, Bool.or_eq_true, Bool.and_eq_true, decide_eq_true_iff] at h
    rcases h with ⟨rfl, -⟩ | h
    · rw [if_neg nofun, if_pos rfl]
    · rw [ih h]
      split_ifs <;> rfl

/-- **A queue that is served loses nothing**: what was taken from it and what is waiting is what
was placed on it, in that order. -/
theorem taken_append_waitingOn (h : past.isGivenUp n = false) :
    past.taken n ++ past.exchange.waitingOn n = past.placedOn n := by
  induction past with
  | opened => rfl
  | connected past maneuver ih =>
    rw [exchange, Exchange.waitingOn_connect]
    exact ih h
  | sent past maneuver operate ih =>
    rw [waitingOn_sent, placedOn_sent, ← List.append_assoc]
    exact congrArg (· ++ _) (ih h)
  | served past action ih =>
    rw [isGivenUp, Bool.or_eq_false_iff] at h
    obtain ⟨hclose, hopen⟩ := h
    rw [exchange, Exchange.waitingOn_serve, taken, placedOn, placed, ← placedOn, ← ih hopen]
    split_ifs with htake hgone
    · rw [List.append_assoc]
      cases past.exchange.waitingOn n <;> rfl
    · -- closed and yet not given up: there is no such queue so far
      have hnone : past.exchange.waitingOn n = [] := by
        refine Exchange.waitingOn_of_length_le _ _ ?_
        rw [length_queues]
        simpa [hgone] using hclose
      rw [hnone, List.append_nil]
    · rw [List.append_nil]

/-- …and of one that was given up nothing was taken out of order. -/
theorem taken_isPrefix : past.taken n <+: past.placedOn n := by
  induction past with
  | opened => exact List.prefix_rfl
  | connected past maneuver ih => exact ih
  | sent past maneuver operate ih =>
    rw [placedOn_sent]
    exact ih.trans (List.prefix_append ..)
  | served past action ih =>
    rw [taken]
    -- whatever is taken stands at the head of what is waiting
    cases hopen : past.isGivenUp n with
    | true =>
      rw [waitingOn_of_isGivenUp hopen, List.head?_nil, Option.toList_none, ite_self,
        List.append_nil]
      exact ih
    | false =>
      rw [placedOn, placed, ← placedOn, ← past.taken_append_waitingOn n hopen]
      split_ifs
      · exact (List.prefix_append_right_inj _).2 (by cases past.exchange.waitingOn n <;> simp)
      · rw [List.append_nil]
        exact List.prefix_append ..

variable {past n} in
theorem mem_placed_of_mem_waitingOn {call : ServiceCall} (h : call ∈ past.exchange.waitingOn n) :
    (n, call) ∈ past.placed := by
  have hopen : past.isGivenUp n = false :=
    Bool.eq_false_iff.2 fun hgone => List.ne_nil_of_mem h (waitingOn_of_isGivenUp hgone)
  have hplaced : call ∈ past.placedOn n := by
    rw [← past.taken_append_waitingOn n hopen]
    exact List.mem_append_right _ h
  obtain ⟨⟨queue, _⟩, hkept, rfl⟩ := List.mem_map.1 hplaced
  obtain ⟨hmem, hqueue⟩ := List.mem_filter.1 hkept
  obtain rfl : queue = n := of_decide_eq_true hqueue
  exact hmem

variable {past} in
theorem id_lt_of_mem_placed {request : Nat × ServiceCall} (h : request ∈ past.placed) :
    request.2.id < past.nextId := by
  rw [← List.mem_range, ← ids_placed]
  exact List.mem_map_of_mem h

/-! ### The ledger of a session -/

/-- The serving side acts, some times in a row. -/
def serving (past : Ledger) (actions : List ServerAction) : Ledger := actions.foldl served past

theorem exchange_serving (actions : List ServerAction) :
    (past.serving actions).exchange = actions.foldl Exchange.serve past.exchange := by
  induction actions generalizing past with
  | nil => rfl
  | cons action actions ih => exact ih (past.served action)

theorem placed_serving (actions : List ServerAction) :
    (past.serving actions).placed = past.placed := by
  induction actions generalizing past with
  | nil => rfl
  | cons action actions ih => exact ih (past.served action)

/-- What is entered of a move.  A call that is refused does not wait, and nothing happens during
it. -/
def enter (past : Ledger) : Move → Ledger
  | .connect maneuver => past.connected maneuver
  | .call maneuver operate _ during =>
    (past.sent maneuver operate).serving (if (past.target? maneuver).isSome then during else [])
  | .serve action => past.served action

/-- **The ledger of a session.** -/
def of (moves : List Move) : Ledger := moves.foldl enter opened

theorem exchange_enter (move : Move) : (past.enter move).exchange = past.exchange.perform move := by
  cases move with
  | connect maneuver => rfl
  | serve action => rfl
  | call maneuver operate wait during =>
    rw [enter, exchange_serving, exchange, Exchange.request, Exchange.perform, Exchange.call,
      ← openQueue?_exchange]
    cases past.exchange.openQueue? maneuver <;> rfl

theorem exchange_of (moves : List Move) : (of moves).exchange = Exchange.after {} moves := by
  suffices ∀ past : Ledger, (moves.foldl enter past).exchange = past.exchange.after moves from
    this opened
  induction moves with
  | nil => exact fun past => rfl
  | cons move moves ih =>
    intro past
    rw [List.foldl_cons, ih, exchange_enter]
    rfl

end Ledger

end DriveDecision
