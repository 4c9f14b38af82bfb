import DriveDecision.Proofs.Service.Ledger

/-!
# Proofs/Service/OwnReply — a call is answered for its own request, or not at all

    call #0   ─────╳ gives up
    call #1            ├──────────────▸ what #1 is answered
    serving        …        answer #0     answer #1
                             nobody's

What the serving side does decides a request once (`replies_foldl_serve_eq_some_iff`): it is
answered, or lost, when it is let go of or when its queue is given up while it waits there.  A call
ends with what its wait decided about the one request it placed.
-/

namespace DriveDecision

/-- A reply once something may be decided: the first decision stands. -/
def Reply.settled (reply : Reply) (decision : Option Reply) : Reply :=
  if reply = .awaited then decision.getD .awaited else reply

@[simp] theorem Reply.settled_none (reply : Reply) : reply.settled none = reply := by
  cases reply <;> rfl

@[simp] theorem Reply.settled_awaited (decision : Reply) :
    Reply.awaited.settled (some decision) = decision := rfl

theorem Reply.settled_of_ne {reply : Reply} (h : reply ≠ .awaited) (decision : Option Reply) :
    reply.settled decision = reply := if_neg h

namespace Exchange

/-! ## What is decided about a request -/

/-- What an action of a serving side decides about a request. -/
def decision? (x : Exchange) (id : Nat) : ServerAction → Option Reply
  | .take _ => none
  | .respond other success => if other = id then some (.given success) else none
  | .drop other => if other = id then some .lost else none
  | .close queue => if ∃ call ∈ x.waitingOn queue, call.id = id then some .lost else none

/-- Some actions of a serving side decide nothing about a request. -/
def IsUndecided (x : Exchange) (id : Nat) (actions : List ServerAction) : Prop :=
  ∀ earlier action later, actions = earlier ++ action :: later →
    (earlier.foldl serve x).decision? id action = none

variable {x : Exchange} {id : Nat}

theorem decision?_eq_given_iff {action : ServerAction} {success : Bool} :
    x.decision? id action = some (.given success) ↔ action = .respond id success := by
  cases action <;> simp [decision?]

theorem decision?_eq_lost_iff {action : ServerAction} :
    x.decision? id action = some .lost
      ↔ action = .drop id ∨ ∃ queue, action = .close queue
        ∧ ∃ call ∈ x.waitingOn queue, call.id = id := by
  cases action <;> simp [decision?]

theorem decision?_ne_awaited (action : ServerAction) : x.decision? id action ≠ some .awaited := by
  cases action <;> simp [decision?]

theorem replies_settle (x : Exchange) (other : Nat) (decision : Reply) :
    (x.settle other decision).replies[id]?
      = x.replies[id]?.map (·.settled (if other = id then some decision else none)) := by
  rw [settle, List.getElem?_modify]
  split_ifs <;> cases x.replies[id]? <;> simp [Reply.settled]

theorem replies_foldl_settle (x : Exchange) (calls : List ServiceCall) :
    (calls.foldl (fun x call => x.settle call.id .lost) x).replies[id]?
      = x.replies[id]?.map
        (·.settled (if ∃ call ∈ calls, call.id = id then some .lost else none)) := by
  induction calls generalizing x with
  | nil => simp
  | cons call calls ih =>
    rw [List.foldl_cons, ih, replies_settle, Option.map_map]
    congr 1
    funext reply
    by_cases hid : call.id = id <;> cases reply <;> simp [Reply.settled, hid]

/-- **What one action makes of a reply.** -/
theorem replies_serve (x : Exchange) (action : ServerAction) :
    (x.serve action).replies[id]?
      = x.replies[id]?.map (·.settled (x.decision? id action)) := by
  cases action with
  | take queue => simp [serve, decision?]
  | respond other success => exact replies_settle ..
  | drop other => exact replies_settle ..
  | close queue => exact replies_foldl_settle ..

/-! ## The first decision -/

theorem isUndecided_cons_iff {action : ServerAction} {actions : List ServerAction} :
    x.IsUndecided id (action :: actions)
      ↔ x.decision? id action = none ∧ (x.serve action).IsUndecided id actions := by
  constructor
  · intro h
    exact ⟨h [] action actions rfl, fun earlier next later hactions =>
      h (action :: earlier) next later (congrArg _ hactions)⟩
  · rintro ⟨hnone, hrest⟩ earlier next later hactions
    cases earlier with
    | nil =>
      cases hactions
      exact hnone
    | cons first earlier =>
      obtain ⟨rfl, hsplit⟩ := List.cons.inj hactions
      exact hrest earlier next later hsplit

/-- What is decided stays decided. -/
theorem replies_foldl_serve_of_ne {reply : Reply} (h : x.replies[id]? = some reply)
    (hne : reply ≠ .awaited) (actions : List ServerAction) :
    (actions.foldl serve x).replies[id]? = some reply := by
  induction actions generalizing x with
  | nil => exact h
  | cons action actions ih =>
    refine ih ?_
    rw [replies_serve, h, Option.map_some, Reply.settled_of_ne hne]

/-- **A reply is awaited as long as nothing is decided.** -/
theorem replies_foldl_serve_eq_awaited_iff (h : x.replies[id]? = some .awaited)
    (actions : List ServerAction) :
    (actions.foldl serve x).replies[id]? = some .awaited ↔ x.IsUndecided id actions := by
  induction actions generalizing x with
  | nil => exact ⟨fun _ earlier action later hactions => by simp at hactions, fun _ => h⟩
  | cons action actions ih =>
    have hnext : (x.serve action).replies[id]? = _ := replies_serve x action
    rw [h, Option.map_some] at hnext
    rw [isUndecided_cons_iff, List.foldl_cons]
    cases hdecision : x.decision? id action with
    | none =>
      rw [hdecision, Reply.settled_none] at hnext
      rw [ih hnext, eq_self, true_and]
    | some decision =>
      rw [hdecision, Reply.settled_awaited] at hnext
      have hne : decision ≠ .awaited := fun h => decision?_ne_awaited action (h ▸ hdecision)
      rw [replies_foldl_serve_of_ne hnext hne, Option.some.injEq]
      exact iff_of_false hne nofun

/-- **The first decision is the reply.** -/
theorem replies_foldl_serve_eq_some_iff (h : x.replies[id]? = some .awaited) (reply : Reply)
    (hne : reply ≠ .awaited) (actions : List ServerAction) :
    (actions.foldl serve x).replies[id]? = some reply
      ↔ ∃ earlier action later, actions = earlier ++ action :: later
        ∧ x.IsUndecided id earlier
        ∧ (earlier.foldl serve x).decision? id action = some reply := by
  constructor
  · intro hreply
    induction actions generalizing x with
    | nil => exact absurd (Option.some.inj (h.symm.trans hreply)) hne.symm
    | cons action actions ih =>
      have hnext : (x.serve action).replies[id]? = _ := replies_serve x action
      rw [h, Option.map_some] at hnext
      cases hdecision : x.decision? id action with
      | none =>
        rw [hdecision, Reply.settled_none] at hnext
        obtain ⟨earlier, next, later, rfl, hundecided, hnow⟩ := ih hnext hreply
        exact ⟨action :: earlier, next, later, rfl,
          isUndecided_cons_iff.2 ⟨hdecision, hundecided⟩, hnow⟩
      | some decision =>
        -- decided at once, so that nothing later counts
        rw [hdecision, Reply.settled_awaited] at hnext
        have hdecided : decision ≠ .awaited := fun h => decision?_ne_awaited action (h ▸ hdecision)
        rw [List.foldl_cons, replies_foldl_serve_of_ne hnext hdecided] at hreply
        refine ⟨[], action, actions, rfl, ?_, hdecision.trans hreply⟩
        exact (replies_foldl_serve_eq_awaited_iff h []).1 h
  · rintro ⟨earlier, action, later, rfl, hundecided, hnow⟩
    have hbefore := (replies_foldl_serve_eq_awaited_iff h earlier).2 hundecided
    rw [List.foldl_append, List.foldl_cons]
    refine replies_foldl_serve_of_ne ?_ hne later
    rw [replies_serve, hbefore, hnow]
    rfl

/-! ## Late answers -/

/-- **Two exchanges are alike for a request**: they differ at most in the replies to others. -/
structure AlikeFor (id : Nat) (x y : Exchange) : Prop where
  queues : x.queues = y.queues
  connections : x.connections = y.connections
  replies_length : x.replies.length = y.replies.length
  reply : x.replies[id]? = y.replies[id]?

namespace AlikeFor

variable {y : Exchange}

theorem decision? (h : AlikeFor id x y) (action : ServerAction) :
    x.decision? id action = y.decision? id action := by
  cases action with
  | close queue => rw [Exchange.decision?, Exchange.decision?, waitingOn, waitingOn, h.queues]
  | _ => rfl

theorem serve (h : AlikeFor id x y) (action : ServerAction) :
    AlikeFor id (x.serve action) (y.serve action) where
  queues := by
    cases action with
    | take queue => rw [Exchange.serve, Exchange.serve, h.queues]
    | respond other success => exact h.queues
    | drop other => exact h.queues
    | close queue => rw [queues_serve_close, queues_serve_close, h.queues]
  connections := by rw [connections_serve, connections_serve, h.connections]
  replies_length := by rw [length_replies_serve, length_replies_serve, h.replies_length]
  reply := by rw [replies_serve, replies_serve, h.reply, h.decision?]

theorem foldl_serve (h : AlikeFor id x y) (actions : List ServerAction) :
    AlikeFor id (actions.foldl Exchange.serve x) (actions.foldl Exchange.serve y) := by
  induction actions generalizing x y with
  | nil => exact h
  | cons action actions ih => exact ih (h.serve action)

theorem send (h : AlikeFor id x y) (queue : Nat) (operate : Bool) :
    AlikeFor id (x.send queue operate) (y.send queue operate) where
  queues := by rw [Exchange.send, Exchange.send, h.queues, h.replies_length]
  connections := h.connections
  replies_length := by
    rw [Exchange.send, Exchange.send, List.length_append, List.length_append, h.replies_length]
  reply := by
    rw [Exchange.send, Exchange.send, List.getElem?_append, List.getElem?_append, h.reply,
      h.replies_length]

/-- An answer to another request makes no difference. -/
theorem respond {other : Nat} (h : other ≠ id) (x : Exchange) (success : Bool) :
    AlikeFor id (x.serve (.respond other success)) x where
  queues := rfl
  connections := rfl
  replies_length := length_replies_serve ..
  reply := by
    rw [replies_serve, Exchange.decision?, if_neg h]
    cases x.replies[id]? <;> simp

end AlikeFor

end Exchange

/-! ## A call -/

/-- What a call returns for what it finds in the slot of its request. -/
def Reply.returned (maneuver : Maneuver) (wait : Duration) :
    Option Reply → Except ServiceError Bool
  | some (.given success) => .ok success
  | some .awaited => .error (.timeout maneuver wait)
  | some .lost | none => .error (.disconnected maneuver)

namespace Reply

variable {maneuver : Maneuver} {wait : Duration} {slot : Option Reply}

theorem returned_eq_ok_iff {success : Bool} :
    returned maneuver wait slot = .ok success ↔ slot = some (.given success) := by
  rcases slot with _ | _ | _ | _ <;> simp [returned]

theorem returned_eq_timeout_iff :
    returned maneuver wait slot = .error (.timeout maneuver wait) ↔ slot = some .awaited := by
  rcases slot with _ | _ | _ | _ <;> simp [returned]

theorem returned_eq_disconnected_iff (h : slot ≠ none) :
    returned maneuver wait slot = .error (.disconnected maneuver) ↔ slot = some .lost := by
  rcases slot with _ | _ | _ | _ <;> simp_all [returned]

end Reply

namespace Ledger

open Exchange (AlikeFor)

variable {past : Ledger} {maneuver : Maneuver} {queue : Nat}

theorem call_of_target?_eq_none (h : past.target? maneuver = none) (operate : Bool)
    (wait : Duration) (during : List ServerAction) :
    past.exchange.call maneuver operate wait during
      = (past.exchange, .error (.disconnected maneuver)) := by
  rw [← openQueue?_exchange, Option.map_eq_none_iff] at h
  rw [Exchange.call, h]

/-- **A call that is sent** returns what the slot of its own request holds in the end. -/
theorem call_of_target?_eq_some (h : past.target? maneuver = some queue) (operate : Bool)
    (wait : Duration) (during : List ServerAction) :
    past.exchange.call maneuver operate wait during
      = (((past.sent maneuver operate).serving during).exchange,
        Reply.returned maneuver wait
          ((past.sent maneuver operate).serving during).exchange.replies[past.nextId]?) := by
  rw [exchange_serving, exchange_sent_of_target?_eq_some operate h, ← length_replies]
  rw [← openQueue?_exchange, Option.map_eq_some_iff] at h
  obtain ⟨⟨_, q⟩, hopen, rfl⟩ := h
  rw [Exchange.call, hopen]
  rfl

theorem awaited_of_target?_eq_some (h : past.target? maneuver = some queue) (operate : Bool) :
    (past.sent maneuver operate).exchange.replies[past.nextId]? = some .awaited := by
  rw [exchange_sent_of_target?_eq_some operate h, ← length_replies]
  exact List.getElem?_concat_length

/-- **A call has a request and a reply of its own.** -/
structure HasOwnReply (past : Ledger) (maneuver : Maneuver) (operate : Bool) (wait : Duration)
    (during : List ServerAction) : Prop where
  /-- One request is placed, on the queue handed out last, if that is served. -/
  placed : (past.enter (.call maneuver operate wait during)).placed
    = past.placed ++ ((past.target? maneuver).map fun queue =>
      (queue, (⟨past.nextId, operate⟩ : ServiceCall))).toList
  /-- It joins the end of that queue, and no other queue is touched. -/
  waiting : ∀ n, (past.exchange.call maneuver operate wait []).1.waitingOn n
    = past.exchange.waitingOn n
      ++ if past.target? maneuver = some n then [⟨past.nextId, operate⟩] else []
  /-- What is returned was answered to that request during the wait, before anything else was
  decided about it. -/
  answered : ∀ success, (past.exchange.call maneuver operate wait during).2 = .ok success
    ↔ (past.target? maneuver).isSome ∧ ∃ earlier later,
      during = earlier ++ .respond past.nextId success :: later
      ∧ (past.sent maneuver operate).exchange.IsUndecided past.nextId earlier
  /-- No queue was handed out, or the last one was given up, or the request was lost during the
  wait: it was let go of, or its queue was given up while it was waiting there. -/
  disconnected : (past.exchange.call maneuver operate wait during).2
      = .error (.disconnected maneuver)
    ↔ past.latest? maneuver = none
      ∨ (∃ queue, past.latest? maneuver = some queue ∧ past.isGivenUp queue = true)
      ∨ ∃ queue earlier action later, past.target? maneuver = some queue
        ∧ during = earlier ++ action :: later
        ∧ (past.sent maneuver operate).exchange.IsUndecided past.nextId earlier
        ∧ (action = .drop past.nextId
          ∨ action = .close queue ∧ ⟨past.nextId, operate⟩
            ∈ ((past.sent maneuver operate).serving earlier).exchange.waitingOn queue)
  /-- The wait is over only if nothing was decided about the request. -/
  timedOut : (past.exchange.call maneuver operate wait during).2 = .error (.timeout maneuver wait)
    ↔ (past.target? maneuver).isSome
      ∧ (past.sent maneuver operate).exchange.IsUndecided past.nextId during
  /-- An answer to an earlier request makes no difference, before the call or during it. -/
  late : ∀ request ∈ past.placed, ∀ success,
    ((past.served (.respond request.2.id success)).exchange.call maneuver operate wait during).2
        = (past.exchange.call maneuver operate wait during).2
      ∧ ∀ before after, during = before ++ .respond request.2.id success :: after →
        (past.exchange.call maneuver operate wait during).2
          = (past.exchange.call maneuver operate wait (before ++ after)).2

variable (operate : Bool) (wait : Duration) (during : List ServerAction)

/-! ### One request -/

theorem placed_enter_call (past : Ledger) (maneuver : Maneuver) :
    (past.enter (.call maneuver operate wait during)).placed
      = past.placed ++ ((past.target? maneuver).map fun queue =>
        (queue, (⟨past.nextId, operate⟩ : ServiceCall))).toList := by
  rw [enter, placed_serving, Ledger.placed]
  cases past.target? maneuver with
  | none => exact (List.append_nil _).symm
  | some queue => rfl

theorem waitingOn_call (past : Ledger) (maneuver : Maneuver) (n : Nat) :
    (past.exchange.call maneuver operate wait []).1.waitingOn n
      = past.exchange.waitingOn n
        ++ if past.target? maneuver = some n then [⟨past.nextId, operate⟩] else [] := by
  have hsent : (past.sent maneuver operate).exchange
      = (past.exchange.call maneuver operate wait []).1 := by
    rw [← Exchange.perform, ← exchange_enter, enter, ite_self]
    rfl
  rw [← hsent, waitingOn_sent]

/-- The request is the only one of its number, wherever it is waiting. -/
theorem eq_of_mem_waitingOn (h : past.target? maneuver = some queue) {actions : List ServerAction}
    {n : Nat} {call : ServiceCall}
    (hmem : call ∈ ((past.sent maneuver operate).serving actions).exchange.waitingOn n)
    (hid : call.id = past.nextId) : n = queue ∧ call = ⟨past.nextId, operate⟩ := by
  have hplaced := mem_placed_of_mem_waitingOn hmem
  rw [placed_serving, Ledger.placed, h, List.mem_append, List.mem_singleton] at hplaced
  rcases hplaced with hearlier | hown
  · exact absurd hid (id_lt_of_mem_placed hearlier).ne
  · exact Prod.mk.inj hown

/-! ### One reply -/

theorem call_eq_ok_iff (h : past.target? maneuver = some queue) (success : Bool) :
    (past.exchange.call maneuver operate wait during).2 = .ok success
      ↔ ∃ earlier later, during = earlier ++ .respond past.nextId success :: later
        ∧ (past.sent maneuver operate).exchange.IsUndecided past.nextId earlier := by
  rw [call_of_target?_eq_some h, Reply.returned_eq_ok_iff, exchange_serving,
    Exchange.replies_foldl_serve_eq_some_iff (awaited_of_target?_eq_some h operate)
      (.given success) nofun]
  constructor
  · rintro ⟨earlier, action, later, rfl, hundecided, hnow⟩
    rw [Exchange.decision?_eq_given_iff] at hnow
    exact ⟨earlier, later, by rw [hnow], hundecided⟩
  · rintro ⟨earlier, later, rfl, hundecided⟩
    exact ⟨earlier, _, later, rfl, hundecided, Exchange.decision?_eq_given_iff.2 rfl⟩

theorem call_eq_timeout_iff (h : past.target? maneuver = some queue) :
    (past.exchange.call maneuver operate wait during).2 = .error (.timeout maneuver wait)
      ↔ (past.sent maneuver operate).exchange.IsUndecided past.nextId during := by
  rw [call_of_target?_eq_some h, Reply.returned_eq_timeout_iff, exchange_serving,
    Exchange.replies_foldl_serve_eq_awaited_iff (awaited_of_target?_eq_some h operate)]

theorem call_eq_disconnected_iff (h : past.target? maneuver = some queue) :
    (past.exchange.call maneuver operate wait during).2 = .error (.disconnected maneuver)
      ↔ ∃ earlier action later, during = earlier ++ action :: later
        ∧ (past.sent maneuver operate).exchange.IsUndecided past.nextId earlier
        ∧ (action = .drop past.nextId
          ∨ action = .close queue ∧ ⟨past.nextId, operate⟩
            ∈ ((past.sent maneuver operate).serving earlier).exchange.waitingOn queue) := by
  have hslot : ((past.sent maneuver operate).serving during).exchange.replies[past.nextId]?
      ≠ none := by
    rw [ne_eq, List.getElem?_eq_none_iff, length_replies, nextId, placed_serving, Ledger.placed, h,
      List.length_append]
    exact Nat.not_le.2 (Nat.lt_succ_self _)
  rw [call_of_target?_eq_some h, Reply.returned_eq_disconnected_iff hslot, exchange_serving,
    Exchange.replies_foldl_serve_eq_some_iff (awaited_of_target?_eq_some h operate) .lost
      (by decide)]
  -- what loses the request is the same either way: only its own queue can have it waiting
  refine exists_congr fun earlier => exists_congr fun action => exists_congr fun later =>
    and_congr_right fun _ => and_congr_right fun _ => ?_
  rw [Exchange.decision?_eq_lost_iff, exchange_serving]
  refine or_congr_right ⟨?_, ?_⟩
  · rintro ⟨n, rfl, call, hmem, hid⟩
    rw [← exchange_serving] at hmem
    obtain ⟨rfl, rfl⟩ := eq_of_mem_waitingOn operate h hmem hid
    exact ⟨rfl, exchange_serving _ _ ▸ hmem⟩
  · rintro ⟨rfl, hmem⟩
    exact ⟨queue, rfl, _, hmem, rfl⟩

/-! ### Late answers -/

theorem target?_served_respond (past : Ledger) (id : Nat) (success : Bool) (maneuver : Maneuver) :
    (past.served (.respond id success)).target? maneuver = past.target? maneuver := by
  simp [target?, latest?, isGivenUp]

/-- **Nobody waits for a late answer**, one to a request that was placed before. -/
theorem call_served_respond (past : Ledger) (maneuver : Maneuver) {id : Nat}
    (hid : id < past.nextId) (success : Bool) :
    ((past.served (.respond id success)).exchange.call maneuver operate wait during).2
      = (past.exchange.call maneuver operate wait during).2 := by
  have htarget' := past.target?_served_respond id success maneuver
  cases htarget : past.target? maneuver with
  | none =>
    rw [htarget] at htarget'
    rw [call_of_target?_eq_none htarget, call_of_target?_eq_none htarget']
  | some queue =>
    rw [htarget] at htarget'
    have halike := ((AlikeFor.respond hid.ne past.exchange success).send queue operate).foldl_serve
      during
    rw [call_of_target?_eq_some htarget, call_of_target?_eq_some htarget', exchange_serving,
      exchange_serving, exchange_sent_of_target?_eq_some operate htarget,
      exchange_sent_of_target?_eq_some operate htarget']
    exact congrArg (Reply.returned maneuver wait) halike.reply

theorem call_append_respond (past : Ledger) (maneuver : Maneuver) {id : Nat}
    (hid : id < past.nextId) (success : Bool) (before after : List ServerAction) :
    (past.exchange.call maneuver operate wait (before ++ .respond id success :: after)).2
      = (past.exchange.call maneuver operate wait (before ++ after)).2 := by
  cases htarget : past.target? maneuver with
  | none => rw [call_of_target?_eq_none htarget, call_of_target?_eq_none htarget]
  | some queue =>
    rw [call_of_target?_eq_some htarget, call_of_target?_eq_some htarget, exchange_serving,
      exchange_serving, List.foldl_append, List.foldl_append, List.foldl_cons]
    exact congrArg (Reply.returned maneuver wait)
      ((AlikeFor.respond hid.ne _ success).foldl_serve after).reply

/-- **Every call has a request and a reply of its own**, whatever has happened. -/
theorem hasOwnReply (past : Ledger) (maneuver : Maneuver) :
    past.HasOwnReply maneuver operate wait during where
  placed := placed_enter_call operate wait during past maneuver
  waiting := waitingOn_call operate wait past maneuver
  answered success := by
    cases htarget : past.target? maneuver with
    | none => simp [call_of_target?_eq_none htarget]
    | some queue =>
      rw [call_eq_ok_iff operate wait during htarget, Option.isSome_some, eq_self, true_and]
  timedOut := by
    cases htarget : past.target? maneuver with
    | none => simp [call_of_target?_eq_none htarget]
    | some queue =>
      rw [call_eq_timeout_iff operate wait during htarget, Option.isSome_some, eq_self, true_and]
  disconnected := by
    rw [← or_assoc, ← target?_eq_none_iff]
    cases htarget : past.target? maneuver with
    | none => simp [call_of_target?_eq_none htarget]
    | some queue =>
      rw [call_eq_disconnected_iff operate wait during htarget]
      simp only [reduceCtorEq, Option.some.injEq, false_or, exists_and_left, exists_eq_left']
  late request hrequest success := by
    have hid : request.2.id < past.nextId := id_lt_of_mem_placed hrequest
    refine ⟨call_served_respond operate wait during past maneuver hid success, ?_⟩
    rintro before after rfl
    exact call_append_respond operate wait past maneuver hid success before after

end Ledger

/-- **No reply is taken for another's.**  Whatever a caller connects and calls, and whatever is done
with its requests meanwhile or later: the queues are those handed out, in that order; what is taken
from a queue is what was placed on it, in the order of the calls, and the rest is waiting as long as
the queue is served; no two requests are the same; and the next call, whichever it is, has a request
and a reply of its own. -/
theorem replies_are_own (moves : List Move) :
    let past := Ledger.of moves
    Exchange.after {} moves = past.exchange
      ∧ past.exchange.queues.length = past.handedOut
      ∧ (∀ n, past.taken n <+: past.placedOn n
        ∧ (past.isGivenUp n = false →
          past.taken n ++ past.exchange.waitingOn n = past.placedOn n))
      ∧ past.placed.map (·.2.id) = List.range past.placed.length
      ∧ ∀ maneuver operate wait during, past.HasOwnReply maneuver operate wait during := by
  intro past
  exact ⟨(Ledger.exchange_of moves).symm, past.length_queues,
    fun n => ⟨past.taken_isPrefix n, past.taken_append_waitingOn n⟩, past.ids_placed,
    fun maneuver operate wait during => past.hasOwnReply operate wait during maneuver⟩

/-- A call is given up, its maneuver is connected anew, and the next call is refused by the new
queue; that the old request is granted in the meantime changes nothing. -/
theorem late_answer_unheard :
    let wait := Duration.ofSeconds 1
    let past := Ledger.of [.connect .emergencyStop, .call .emergencyStop true wait [],
      .connect .emergencyStop]
    let during := [.take 0, .respond 0 true, .take 1, .respond 1 false]
    past.placed = [(0, ⟨0, true⟩)]
      ∧ past.target? .emergencyStop = some 1
      ∧ (past.exchange.call .emergencyStop false wait during).2 = .ok false
      ∧ (past.exchange.call .emergencyStop false wait during).2
        = (past.exchange.call .emergencyStop false wait (during.eraseIdx 1)).2 := by
  intro wait past during
  have hplaced : past.placed = [(0, ⟨0, true⟩)] := by decide
  obtain ⟨-, -, -, -, hown⟩ := replies_are_own [.connect .emergencyStop,
    .call .emergencyStop true wait [], .connect .emergencyStop]
  have hlate := (hown .emergencyStop false wait during).late (0, ⟨0, true⟩)
    (hplaced ▸ List.mem_singleton_self _) true
  exact ⟨hplaced, by decide, rfl, hlate.2 [.take 0] [.take 1, .respond 1 false] rfl⟩

end DriveDecision
