import DriveDecision.Host.Session
import DriveDecision.Proofs.Failsafe.Published

/-!
# Proofs/Host/Supervision — the interface does what a supervisor does

    host          code, flag, word ──▸ interface ──▸ number, bytes        seen by its callback
                                           ‖                                    ‖
    supervisor    message, state, time ──▸ handler ──▸ output, record     calls made

A host speaks in bytes and words and is told numbers; a supervisor hands the handler times, messages
and states, and ticks it.  Call by call the two leave the same system behind
(`agrees_interaction`), as long as the record carries a time that fits in a word and somebody is
there to answer (`IsHosted`), which every call keeps.
-/

namespace DriveDecision

/-! ## The answer to the call after so many others -/

namespace Responder

variable (r : Responder) (calls : List Call) (i : Nat)

/-- The answer to the call that comes after `i` others. -/
def nth : Answer := r.listed[i]?.getD r.further

theorem next_fst : r.next.1 = r.nth 0 := by
  obtain ⟨_ | ⟨a, rest⟩, further⟩ := r <;> rfl

theorem nth_next : r.next.2.nth i = r.nth (i + 1) := by
  obtain ⟨_ | ⟨a, rest⟩, further⟩ := r <;> rfl

/-- **Each call has the answer of its place.** -/
theorem getElem?_answer : (r.answer calls).1[i]? = calls[i]?.map fun call => (call, r.nth i) := by
  induction calls generalizing r i with
  | nil => rfl
  | cons call calls ih =>
    cases i with
    | zero => exact congrArg (fun a => some (call, a)) r.next_fst
    | succ i =>
      rw [← r.nth_next i]
      exact ih r.next.2 i

/-- …and the next one starts behind them. -/
theorem nth_answer : (r.answer calls).2.nth i = r.nth (calls.length + i) := by
  induction calls generalizing r with
  | nil => rw [List.length_nil, Nat.zero_add, answer_nil]
  | cons call calls ih =>
    rw [List.length_cons, Nat.add_right_comm, ← r.nth_next]
    exact ih r.next.2

end Responder

/-- What a tick calls is answered by the responder. -/
theorem System.tick_answers (system : System) : ∃ calls,
    system.tick.2.issued = (system.responder.answer calls).1
      ∧ system.tick.1.responder = (system.responder.answer calls).2 := by
  simp only [System.tick, System.tickResult, Handler.tick]
  cases system.store.ready system.settings with
  | error notice => exact ⟨[], rfl, rfl⟩
  | ok report => exact ⟨_, rfl, rfl⟩

namespace Host

/-! ## The supervisor -/

/-- A supervisor takes in a message; one that cannot be decoded changes nothing. -/
def deliver (system : System) (message : Inbound) : System :=
  match system.store.receive system.now message with
  | .ok store => { system with store := store }
  | .error _ => system

/-- The status message of the module of a maneuver, given by its code. -/
def statusMessage? (maneuver status : UInt8) : Option Inbound :=
  if maneuver = WireCode.code Maneuver.comfortableStop then some (.comfortableStop status)
  else if maneuver = WireCode.code Maneuver.emergencyStop then some (.emergencyStop status)
  else none

namespace Request

/-- The message a producer sends to say the same. -/
def message? : Request → Option Inbound
  | setHazard level emergency holding => some (.hazard level (emergency != 0) (holding != 0))
  | setSpeed speed => some (.odometry speed)
  | setMode code => some (.mode code)
  | setStatus maneuver status => statusMessage? maneuver status
  | setTime _ | restore _ | tick _ | state => none

/-- **What a supervisor does** for a call. -/
def supervise (system : System) : Request → System × Reaction
  | setTime nanos => system.step (.setTime (.ofWord nanos))
  | tick _ => system.step .tick
  | restore given =>
    match given.toMessage.toState with
    | .ok recorded => (system.restore ⟨recorded, []⟩, {})
    | .error _ => (system, {})
  | state => (system, {})
  | request => (request.message?.elim system (deliver system), {})

/-- **A state to take over has codes that stand for something**, as a host promises. -/
def IsSound : Request → Prop
  | restore given => ∃ (phase : Phase) (maneuver : Maneuver),
      given.phase = WireCode.code phase ∧ given.maneuver = WireCode.code maneuver
  | _ => True

end Request

/-- A call as a supervisor sees it. -/
structure Stage where
  request : Request
  before : System
  after : System
  reaction : Reaction

/-- What a supervisor does for one call. -/
def Request.stage (system : System) (request : Request) : Stage :=
  ⟨request, system, (request.supervise system).1, (request.supervise system).2⟩

/-- **What a supervisor does** for one call after another. -/
def supervised (system : System) : List Request → List Stage
  | [] => []
  | request :: requests =>
    request.stage system :: supervised (request.supervise system).1 requests

/-- The calls made for a host, each with its answer. -/
def issued (stages : List Stage) : List (Call × Answer) := stages.flatMap (·.reaction.issued)

/-! ## What agreement is -/

/-- What a number returned by the host's callback means. -/
def Means (number : Int) : Answer → Prop
  | .granted => number = 1
  | .refused => number = 0
  | .silent => number ≠ 1 ∧ number ≠ 0
  | .disconnected => False

/-- A call as the host's callback sees it. -/
def inCode (call : Call) : UInt8 × UInt8 :=
  (WireCode.code call.maneuver, if call.operate then 1 else 0)

/-- The messages in an output of the interface. -/
def Output.toMessages (output : Output) : HandlerMessages :=
  ⟨output.hazardLights, output.gear, output.state.toMessage⟩

/-- **What a host may be told**, given what a supervisor does. -/
inductive Stage.Answers (stage : Stage) : Request → Reply → Prop where
  | timed {nanos} : Answers stage (.setTime nanos) (.returned 0)
  /-- The message is taken in. -/
  | taken {request message store} (sent : request.message? = some message)
      (received : stage.before.store.receive stage.before.now message = .ok store) :
      Answers stage request (.returned 0)
  /-- The message cannot be decoded. -/
  | badCode {request message error} (sent : request.message? = some message)
      (received : stage.before.store.receive stage.before.now message = .error error) :
      Answers stage request (.returned (-2))
  /-- There is no such module, nor such a status. -/
  | badStatus {maneuver status error} (unsent : statusMessage? maneuver status = none)
      (code : (WireCode.ofCode status : Except DecodeError ModuleStatus) = .error error) :
      Answers stage (.setStatus maneuver status) (.returned (-2))
  /-- There is no such module. -/
  | badManeuver {maneuver status value} (unsent : statusMessage? maneuver status = none)
      (code : (WireCode.ofCode status : Except DecodeError ModuleStatus) = .ok value) :
      Answers stage (.setStatus maneuver status) (.returned (-3))
  | restored {given} : Answers stage (.restore given) (.returned 0)
  /-- The host finds the messages of the output, if it wants them. -/
  | published {wanted found : Option Output} {output}
      (emitted : stage.reaction.output = some output)
      (filled : found.map Output.toMessages = wanted.map fun _ => output.messages) :
      Answers stage (.tick wanted) (.ticked 1 found (stage.reaction.calls.map inCode))
  /-- The host finds what stood there before. -/
  | skipped {wanted} (silent : stage.reaction.output = none)
      (uncalled : stage.reaction.calls = []) :
      Answers stage (.tick wanted) (.ticked 0 wanted [])
  /-- The record, stamp and all. -/
  | told {s} (decoded : s.toMessage.toState = .ok stage.after.handler.state) :
      Answers stage .state (.told s)

/-- **One call of the interface agrees with what a supervisor does.** -/
structure Agrees (interaction : Interaction) (stage : Stage) : Prop where
  request : interaction.request = stage.request
  after : interaction.after = some stage.after
  reply : stage.Answers stage.request interaction.reply
  /-- A call that fails changes nothing. -/
  untouched : ∀ number < 0, interaction.reply.number? = some number → stage.after = stage.before

/-- A call that succeeds may change anything. -/
theorem Agrees.of_success {interaction : Interaction} {stage : Stage} {number : Int}
    (request : interaction.request = stage.request) (after : interaction.after = some stage.after)
    (reply : stage.Answers stage.request interaction.reply)
    (hnumber : interaction.reply.number? = some number) (hsuccess : 0 ≤ number) :
    Agrees interaction stage := by
  refine ⟨request, after, reply, fun number' hfails hnumber' => ?_⟩
  rw [hnumber, Option.some.injEq] at hnumber'
  omega

/-! ## Taking in messages -/

section Messages

variable {system : System} {request : Request} {message : Inbound}

theorem deliver_of_read_error {e : DecodeError} (h : message.read = .error e) :
    deliver system message = system := by
  rw [deliver, Store.receive, h]
  rfl

theorem deliver_of_read_ok {reading : Reading} (h : message.read = .ok reading) :
    deliver system message = system.write reading := by
  rw [deliver, Store.receive, h]
  rfl

theorem Request.supervise_of_message (h : request.message? = some message) :
    request.supervise system = (deliver system message, {}) := by
  cases request with
  | setTime _ | restore _ | tick _ | state => cases h
  | setHazard _ _ _ | setSpeed _ | setMode _ | setStatus _ _ =>
    exact congrArg (fun sent : Option Inbound =>
      (sent.elim system (deliver system), ({} : Reaction))) h

/-- A message that can be decoded is taken in. -/
theorem agrees_taken {reading : Reading} (hsent : request.message? = some message)
    (hread : message.read = .ok reading) :
    Agrees ⟨request, .returned 0, some (system.write reading)⟩ (request.stage system) := by
  have hreceived : system.store.receive system.now message
      = .ok (system.store.record system.now reading) := by
    rw [Store.receive, hread]
    rfl
  refine .of_success rfl ?_ (.taken hsent hreceived) rfl (Int.le_refl 0)
  rw [Request.stage, Request.supervise_of_message hsent, deliver_of_read_ok hread]

/-- A message that cannot changes nothing. -/
theorem agrees_badCode {e : DecodeError} (hsent : request.message? = some message)
    (hread : message.read = .error e) :
    Agrees ⟨request, .returned (-2), some system⟩ (request.stage system) := by
  have hreceived : system.store.receive system.now message = .error e := by
    rw [Store.receive, hread]
    rfl
  have hafter : (request.stage system).after = system := by
    rw [Request.stage, Request.supervise_of_message hsent, deliver_of_read_error hread]
  exact ⟨rfl, congrArg some hafter.symm, .badCode hsent hreceived, fun _ _ _ => hafter⟩

/-- **A setter that reads a code** takes in the message with that code. -/
theorem agrees_writeCode {τ : Type} [WireCode τ] {code : UInt8} {reading : τ → Reading}
    (hperform : request.perform (some system)
      = Reply.ofResult (writeCode code reading (some system)))
    (hsent : request.message? = some message)
    (hread : message.read = (WireCode.ofCode code).map reading) :
    Agrees (request.interaction (some system)) (request.stage system) := by
  rw [Request.interaction, hperform]
  rcases hcode : (WireCode.ofCode code : Except DecodeError τ) with e | value
  · rw [hcode] at hread
    simp only [writeCode, hcode]
    exact agrees_badCode hsent hread
  · rw [hcode] at hread
    simp only [writeCode, hcode]
    exact agrees_taken hsent hread

end Messages

/-! ## The status of a module -/

theorem statusMessage?_eq (maneuver status : UInt8) :
    statusMessage? maneuver status
      = match (WireCode.ofCode maneuver : Except DecodeError Maneuver) with
        | .ok .comfortableStop => some (.comfortableStop status)
        | .ok .emergencyStop => some (.emergencyStop status)
        | _ => none := by
  by_cases hcomfortable : maneuver = WireCode.code Maneuver.comfortableStop
  · rw [hcomfortable]
    rfl
  · by_cases hemergency : maneuver = WireCode.code Maneuver.emergencyStop
    · rw [hemergency]
      rfl
    · rw [statusMessage?, if_neg hcomfortable, if_neg hemergency]
      split
      · rename_i hcode
        exact absurd (Maneuver.eq_code_of_ofCode hcode) hcomfortable
      · rename_i hcode
        exact absurd (Maneuver.eq_code_of_ofCode hcode) hemergency
      · rfl

section Status

variable {system : System} {maneuver status : UInt8}

/-- A status nobody takes in changes nothing. -/
theorem agrees_unsent {number : Int} (hunsent : statusMessage? maneuver status = none)
    (hreply : ((Request.setStatus maneuver status).stage system).Answers
      (.setStatus maneuver status) (.returned number)) :
    Agrees ⟨.setStatus maneuver status, .returned number, some system⟩
      ((Request.setStatus maneuver status).stage system) := by
  have hafter : ((Request.setStatus maneuver status).stage system).after = system := by
    simp only [Request.stage, Request.supervise, Request.message?, hunsent, Option.elim]
  exact ⟨rfl, congrArg some hafter.symm, hreply, fun _ _ _ => hafter⟩

/-- **A status** is taken in for the module of its maneuver. -/
theorem agrees_setStatus :
    Agrees ((Request.setStatus maneuver status).interaction (some system))
      ((Request.setStatus maneuver status).stage system) := by
  have hsent := statusMessage?_eq maneuver status
  rcases hstatus : (WireCode.ofCode status : Except DecodeError ModuleStatus) with e | value
  · have hread : (Inbound.comfortableStop status).read = .error e
        ∧ (Inbound.emergencyStop status).read = .error e := by
      simp only [Inbound.read, hstatus]
      exact ⟨rfl, rfl⟩
    simp only [Request.interaction, Request.perform, setStatus, hstatus]
    split at hsent
    · exact agrees_badCode hsent hread.1
    · exact agrees_badCode hsent hread.2
    · exact agrees_unsent hsent (.badStatus hsent hstatus)
  · have hread : (Inbound.comfortableStop status).read = .ok (.comfortableStop value)
        ∧ (Inbound.emergencyStop status).read = .ok (.emergencyStop value) := by
      simp only [Inbound.read, hstatus]
      exact ⟨rfl, rfl⟩
    simp only [Request.interaction, Request.perform, setStatus, hstatus]
    rcases hmaneuver : (WireCode.ofCode maneuver : Except DecodeError Maneuver)
      with e | _ | _ | _ <;> simp only [hmaneuver] at hsent ⊢
    · exact agrees_unsent hsent (.badManeuver hsent hstatus)
    · exact agrees_unsent hsent (.badManeuver hsent hstatus)
    · exact agrees_taken hsent hread.1
    · exact agrees_taken hsent hread.2

end Status

/-! ## Who answers -/

theorem means_answerOf (number : Int) : Means number (answerOf number) := by
  unfold answerOf
  split
  · assumption
  · split
    · assumption
    · exact ⟨‹_›, ‹_›⟩

/-- A callback answers with what it returns, and in the end with success. -/
theorem nth_responder (returned : List Int) (i : Nat) :
    (responder true returned).nth i = answerOf (returned[i]?.getD 1) := by
  simp only [Responder.nth, responder, if_true, List.getElem?_map]
  cases returned[i]? <;> rfl

section Answering

variable (system : System) (request : Request)

theorem deliver_keeps (sent : Option Inbound) :
    (sent.elim system (deliver system)).handler = system.handler
      ∧ (sent.elim system (deliver system)).responder = system.responder := by
  rcases sent with _ | message
  · exact ⟨rfl, rfl⟩
  · simp only [Option.elim, deliver]
    split <;> exact ⟨rfl, rfl⟩

/-- Whatever a call makes of calls is answered by the responder. -/
theorem supervise_answers : ∃ calls,
    (request.supervise system).2.issued = (system.responder.answer calls).1
      ∧ (request.supervise system).1.responder = (system.responder.answer calls).2 := by
  cases request with
  | setHazard _ _ _ | setSpeed _ | setMode _ | setStatus _ _ =>
    exact ⟨[], rfl, (deliver_keeps system _).2⟩
  | setTime nanos => exact ⟨[], rfl, rfl⟩
  | tick wanted => exact system.tick_answers
  | restore given =>
    refine ⟨[], ?_⟩
    simp only [Request.supervise]
    cases given.toMessage.toState <;> exact ⟨rfl, rfl⟩
  | state => exact ⟨[], rfl, rfl⟩

variable {system request}

/-- Each call has the answer of its place. -/
theorem answer_of_issued {i : Nat} {call : Call} {answer : Answer}
    (h : (request.supervise system).2.issued[i]? = some (call, answer)) :
    answer = system.responder.nth i := by
  obtain ⟨calls, hissued, -⟩ := supervise_answers system request
  rw [hissued, Responder.getElem?_answer, Option.map_eq_some_iff] at h
  obtain ⟨call', -, heq⟩ := h
  exact (congrArg Prod.snd heq).symm

/-- …and the next one starts behind them. -/
theorem nth_supervise (i : Nat) :
    (request.supervise system).1.responder.nth i
      = system.responder.nth ((request.supervise system).2.issued.length + i) := by
  obtain ⟨calls, hissued, hresponder⟩ := supervise_answers system request
  have hlength := congrArg List.length (system.responder.map_fst_answer calls)
  rw [List.length_map] at hlength
  rw [hissued, hresponder, Responder.nth_answer, hlength]

/-- **Every call of a session has the answer of its place.** -/
theorem answer_of_supervised {system : System} {requests : List Request} {i : Nat} {call : Call}
    {answer : Answer} (h : (issued (supervised system requests))[i]? = some (call, answer)) :
    answer = system.responder.nth i := by
  induction requests generalizing system i with
  | nil => cases h
  | cons request requests ih =>
    have hcons : issued (supervised system (request :: requests))
        = (request.supervise system).2.issued
          ++ issued (supervised (request.supervise system).1 requests) := List.flatMap_cons ..
    rw [hcons, List.getElem?_append] at h
    split at h
    · exact answer_of_issued h
    · rename_i hle
      rw [ih h, nth_supervise, Nat.add_sub_cancel' (Nat.le_of_not_lt hle)]

end Answering

/-! ## What every call keeps -/

/-- **The system of a host**: the record carries a time that fits in a word, and somebody is there
to answer every call. -/
structure IsHosted (system : System) : Prop where
  isWord : ∃ nanos, system.handler.state.stamp = .ofWord nanos
  isAnswered : ∀ i, system.responder.nth i ≠ .disconnected

namespace IsHosted

variable {system : System}

/-- A new handler, whatever the callback of its host returns. -/
theorem create (settings : Settings) (startNanos : UInt64) (returned : List Int) :
    IsHosted (Host.create settings startNanos (responder true returned)) where
  isWord := ⟨_, rfl⟩
  isAnswered := by
    intro i hnone
    have hmeans := means_answerOf (returned[i]?.getD 1)
    rw [← nth_responder returned i, show (responder true returned).nth i = .disconnected from hnone]
      at hmeans
    exact hmeans

/-- **Every call keeps it**: a tick records the time of a clock that counts in a word, and a state
that is taken over came in a word. -/
theorem supervise (h : IsHosted system) (request : Request) :
    IsHosted (request.supervise system).1 where
  isWord := by
    cases request with
    | setHazard _ _ _ | setSpeed _ | setMode _ | setStatus _ _ =>
      refine h.isWord.imp fun nanos hstamp => ?_
      rw [← hstamp]
      exact congrArg (·.state.stamp) (deliver_keeps system _).1
    | setTime _ | state => exact h.isWord
    | tick wanted =>
      rcases system.step_publishes .tick with ⟨-, -, hstate⟩ | ⟨input, -, -, -, hstate⟩
      · exact h.isWord.imp fun nanos hstamp => (congrArg (·.stamp) hstate).trans hstamp
      · exact ⟨system.clock.nanos, congrArg (·.stamp) hstate⟩
    | restore given =>
      simp only [Request.supervise]
      rcases hgiven : given.toMessage.toState with _ | recorded
      · exact h.isWord
      · exact ⟨given.stampNanos, StateMessage.stamp_of_toState hgiven⟩
  isAnswered := fun i => by
    rw [nth_supervise]
    exact h.isAnswered _

/-- A stamp that fits in a word is read back as it is. -/
theorem toState_state (h : IsHosted system) :
    (Host.state (some system)).toMessage.toState = .ok system.handler.state := by
  obtain ⟨nanos, hstamp⟩ := h.isWord
  refine (StateMessage.toState_ofState system.handler.state).trans ?_
  rw [hstamp, Duration.toWord_ofWord, ← hstamp]

/-- **The callback sees every call.** -/
theorem callsSeen_tick (h : IsHosted system) :
    callsSeen system.tick.2 = system.tick.2.calls.map inCode := by
  have hall : system.tick.2.issued.filter (·.2 != .disconnected) = system.tick.2.issued := by
    refine List.filter_eq_self.2 fun a hmem => bne_iff_ne.2 ?_
    obtain ⟨i, hi⟩ := List.mem_iff_getElem?.1 hmem
    have hanswer : a.2 = system.responder.nth i := answer_of_issued (show
      ((Request.tick none).supervise system).2.issued[i]? = some a from hi)
    rw [hanswer]
    exact h.isAnswered i
  rw [callsSeen, hall, Reaction.calls, List.map_map]
  rfl

end IsHosted

/-! ## One call -/

section Perform

variable {system : System} {request : Request}

theorem agrees_tick (h : IsHosted system) (wanted : Option Output) :
    Agrees ((Request.tick wanted).interaction (some system))
      ((Request.tick wanted).stage system) := by
  have hreply : ((Request.tick wanted).interaction (some system)).reply
      = .ticked (if system.tick.2.output.isSome then Status.published else .done).number
        (found wanted system.tick.2) (system.tick.2.calls.map inCode) := by
    rw [← h.callsSeen_tick]
    rfl
  rcases system.step_moved .tick with ⟨-, -, hnone, hissued⟩ | ⟨⟨out, hout, -⟩, -, -⟩
  · have hnone : system.tick.2.output = none := hnone
    have hcalls : system.tick.2.calls = [] := congrArg (List.map Prod.fst) hissued
    have hfound : found wanted system.tick.2 = wanted := by
      rw [found, hnone]
      exact Option.map_id'
    rw [hnone, hfound, hcalls] at hreply
    exact .of_success rfl rfl (hreply ▸ .skipped hnone hcalls) (congrArg Reply.number? hreply)
      (Int.le_refl 0)
  · have hout : system.tick.2.output = some out := hout
    rw [hout] at hreply
    have hfilled : (found wanted system.tick.2).map Output.toMessages
        = wanted.map fun _ => out.messages := by
      rw [found, hout, Option.map_map]
      rfl
    exact .of_success rfl rfl (hreply ▸ .published hout hfilled) (congrArg Reply.number? hreply)
      (show (0 : Int) ≤ 1 by decide)

/-- **A call of the interface agrees with what a supervisor does.** -/
theorem agrees_interaction (h : IsHosted system) (hsound : request.IsSound) :
    Agrees (request.interaction (some system)) (request.stage system) := by
  cases request with
  | setHazard level emergency holding => exact agrees_writeCode rfl rfl rfl
  | setSpeed speed => exact agrees_taken rfl rfl
  | setMode code => exact agrees_writeCode rfl rfl rfl
  | setStatus maneuver status => exact agrees_setStatus
  | setTime nanos => exact .of_success rfl rfl .timed rfl (Int.le_refl 0)
  | tick wanted => exact agrees_tick h wanted
  | restore given =>
    obtain ⟨phase, maneuver, hphase, hmaneuver⟩ := hsound
    have hgiven : given.toMessage.toState = .ok ⟨phase, maneuver, .ofWord given.stampNanos⟩ := by
      simp only [State.toMessage, StateMessage.toState, hphase, hmaneuver, Phase.ofCode_code,
        Maneuver.ofCode_code]
      rfl
    have hperform : (Request.restore given).perform (some system)
        = (.returned 0, some ((Request.restore given).supervise system).1) := by
      simp only [Request.perform, Host.restore, Request.supervise, hgiven]
      rfl
    rw [Request.interaction, hperform]
    exact .of_success rfl rfl .restored rfl (Int.le_refl 0)
  | state => exact ⟨rfl, rfl, .told h.toState_state, by rintro number - ⟨⟩⟩

end Perform

/-! ## One call after another -/

/-- A session goes on unless the process ends. -/
theorem session_cons {held : Option System} {request : Request} {requests : List Request}
    (h : (request.interaction held).reply ≠ .aborted) :
    session held (request :: requests)
      = request.interaction held :: session (request.interaction held).after requests := by
  rw [session]
  cases hreply : (request.interaction held).reply with
  | aborted => exact absurd hreply h
  | returned _ | ticked _ _ _ | told _ => rfl

theorem Stage.Answers.ne_aborted {stage : Stage} {request : Request} {reply : Reply}
    (h : stage.Answers request reply) : reply ≠ .aborted := by
  rintro rfl
  cases h

/-- **A session agrees with what a supervisor does**, call by call. -/
theorem agrees_session {system : System} (h : IsHosted system) {requests : List Request}
    (hsound : ∀ request ∈ requests, request.IsSound) :
    List.Forall₂ Agrees (session (some system) requests) (supervised system requests) := by
  induction requests generalizing system with
  | nil => exact .nil
  | cons request requests ih =>
    have hagrees := agrees_interaction h (hsound request (List.mem_cons_self ..))
    rw [session_cons hagrees.reply.ne_aborted, hagrees.after]
    exact .cons hagrees (ih (h.supervise request) fun request hmem =>
      hsound request (List.mem_cons_of_mem _ hmem))

end Host

/-- **A host that calls the interface has a supervisor.**  Whatever settings a host gives and
whatever its callback returns, every session agrees call by call with a supervisor of a new handler
that has the settings the host means, as long as a state to take over has codes that stand for
something.  The two leave the same clock, store, record and queue behind, the callback sees the
calls as they are made, the host is told what is published and recorded, and a call that fails
changes nothing.  The answer to each call is what the callback means by the number it returns. -/
theorem session_has_supervisor (settings : Host.Settings) (startNanos : UInt64)
    (returned : List Int) (requests : List Host.Request)
    (hsound : ∀ request ∈ requests, request.IsSound) :
    let held := Host.create settings startNanos (Host.responder true returned)
    let stages := Host.supervised
      (.fresh settings.resolve (.showing (.ofWord startNanos)) {}
        ⟨returned.map Host.answerOf, .granted⟩) requests
    List.Forall₂ Host.Agrees (Host.session (some held) requests) stages
      ∧ ∀ (i : Nat) call answer, (Host.issued stages)[i]? = some (call, answer) →
          Host.Means (returned[i]?.getD 1) answer := by
  intro held stages
  refine ⟨Host.agrees_session (.create settings startNanos returned) hsound, ?_⟩
  intro i call answer hissued
  rw [Host.answer_of_supervised hissued]
  exact Host.nth_responder returned i ▸ Host.means_answerOf _

/-- A host that gets codes wrong, sets flags by odd bytes, does not answer, and restarts in the
middle of an emergency stop. -/
def Host.careless : List Host.Request :=
  [.setHazard 9 1 0, .setHazard 2 255 0, .setSpeed 10.0, .setMode 1, .setStatus 3 1, .setStatus 2 1,
    .setStatus 1 1, .setStatus 1 9, .tick none, .setTime 7, .restore ⟨2, 2, 5⟩, .state,
    .tick (some {})]

theorem careless_has_supervisor :
    let settings := { Host.Settings.standard with useComfortableStop := 2 }
    let held := Host.create settings 0 (Host.responder true [-1])
    let interactions := Host.session (some held) Host.careless
    let stages := Host.supervised
      (.fresh settings.resolve (.showing (.ofWord 0)) {} ⟨[-1].map Host.answerOf, .granted⟩)
      Host.careless
    interactions.map (·.reply)
        = [.returned (-2), .returned 0, .returned 0, .returned 0, .returned 0, .returned 0,
          .returned (-3), .returned (-2), .ticked 1 none [(3, 1)], .returned 0, .returned 0,
          .told ⟨2, 2, 5⟩, .ticked 1 (some ⟨2, 2, ⟨2, 2, 7⟩⟩) []]
      ∧ List.Forall₂ Host.Agrees interactions stages
      ∧ Host.Means (-1) .silent := by
  intro settings held interactions stages
  have hsound : ∀ request ∈ Host.careless, request.IsSound := by
    simp only [Host.careless, List.forall_mem_cons, Host.Request.IsSound]
    exact ⟨trivial, trivial, trivial, trivial, trivial, trivial, trivial, trivial, trivial, trivial,
      ⟨.operating, .emergencyStop, rfl, rfl⟩, trivial, trivial, fun _ h => nomatch h⟩
  have hissued : (Host.issued stages)[0]? = some (⟨.comfortableStop, true⟩, .silent) := by
    decide +kernel
  obtain ⟨hagrees, hmeans⟩ := session_has_supervisor settings 0 [-1] Host.careless hsound
  exact ⟨by decide +kernel, hagrees, hmeans 0 _ _ hissued⟩

end DriveDecision
