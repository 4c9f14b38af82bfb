import DriveDecision.Proofs.Failsafe.History

/-!
# Proofs/Failsafe/Answers — what the modules answer is never published

    store, clock, settings ──▸ step of the maneuver ──▸ record, output
                                      │
                                      ▾
    open calls ◂── answers ◂── calls of the tick

The record and the queue of open calls change in the same tick, but only the record counts for the
next one: two systems that differ in the queue and in the answers stay alike (`Alike`), event by
event.
-/

namespace DriveDecision

/-- **Two systems are alike** if they differ at most in the open calls, in the answers to come and
in the notices written. -/
structure Alike (first second : System) : Prop where
  settings : first.settings = second.settings
  clock : first.clock = second.clock
  store : first.store = second.store
  state : first.handler.state = second.handler.state

namespace Alike

variable {first second : System}

/-- **An event shows the same of systems that are alike**, and leaves them alike; the notices they
will still write stay the same as well. -/
theorem step (h : Alike first second) (event : Event) :
    (first.step event).2.output = (second.step event).2.output
      ∧ Alike (first.step event).1 (second.step event).1
      ∧ (first.handler.throttle = second.handler.throttle →
        (first.step event).1.handler.throttle = (second.step event).1.handler.throttle) := by
  obtain ⟨settings, clock, store, ⟨state, pending, throttle⟩, responder⟩ := first
  obtain ⟨settings', clock', store', ⟨state', pending', throttle'⟩, responder'⟩ := second
  obtain ⟨rfl, rfl, rfl, rfl⟩ := h
  cases event with
  | write reading => exact ⟨rfl, ⟨rfl, rfl, rfl, rfl⟩, id⟩
  | advance dt => exact ⟨rfl, ⟨rfl, rfl, rfl, rfl⟩, id⟩
  | setTime t => exact ⟨rfl, ⟨rfl, rfl, rfl, rfl⟩, id⟩
  | tick =>
    simp only [System.step, System.tick, System.tickResult, Handler.tick]
    -- whether anything is missing is read off the store alone
    cases store.ready settings with
    | error notice =>
      refine ⟨rfl, ⟨rfl, rfl, rfl, rfl⟩, ?_⟩
      rintro rfl
      rfl
    | ok report =>
      refine ⟨rfl, ⟨rfl, rfl, rfl, rfl⟩, ?_⟩
      rintro rfl
      rfl

/-- **So does a run.** -/
theorem run (h : Alike first second) (events : List Event) :
    (first.run events).2.map (·.output) = (second.run events).2.map (·.output)
      ∧ Alike (first.after events) (second.after events)
      ∧ (first.handler.throttle = second.handler.throttle →
        (first.after events).handler.throttle = (second.after events).handler.throttle) := by
  induction events generalizing first second with
  | nil => exact ⟨rfl, h, id⟩
  | cons event events ih =>
    obtain ⟨hout, hnext, hthrottle⟩ := h.step event
    obtain ⟨houts, hlast, hthrottles⟩ := ih hnext
    refine ⟨?_, hlast, fun hsame => hthrottles (hthrottle hsame)⟩
    rw [System.run_cons_snd, System.run_cons_snd, List.map_cons, List.map_cons, hout, houts]

end Alike

/-- **What is published does not depend on the answers.**  Two systems with the same settings,
clock, store and record, whatever calls are open and whatever the modules answer, publish the same
at every tick or both nothing, and have the same record, settings, clock and store after every
event.  Started with the same notices they also keep the same ones: only the calls made, the calls
open and the log differ. -/
theorem published_regardless_of_answers (settings : FailsafeSettings) (clock : Clock)
    (store : Store) (state : ManeuverState) (pending pending' : List Call)
    (throttle throttle' : Throttle) (responder responder' : Responder) (events : List Event) :
    let first : System := ⟨settings, clock, store, ⟨state, pending, throttle⟩, responder⟩
    let second : System := ⟨settings, clock, store, ⟨state, pending', throttle'⟩, responder'⟩
    (first.run events).2.map (·.output) = (second.run events).2.map (·.output)
      ∧ Alike (first.after events) (second.after events)
      ∧ (throttle = throttle' →
        (first.after events).handler.throttle = (second.after events).handler.throttle) := by
  intro first second
  have halike : Alike first second := ⟨rfl, rfl, rfl, rfl⟩
  exact halike.run events

/-- One module does not answer and the other has a call open; in another system both answer and no
call is open.  The calls differ, the outputs do not. -/
theorem latentFault_answered :
    let events := [.tick] ++ System.worseAfterOutage ++ [.tick]
    let silent : System := { System.latentFault with
      handler := { System.latentFault.handler with pending := [⟨.emergencyStop, false⟩] } }
    let answered : System := { System.latentFault with responder := {} }
    silent.handler.throttle = answered.handler.throttle
      ∧ silent.calls events ≠ answered.calls events
      ∧ (silent.run events).2.map (·.output) = (answered.run events).2.map (·.output)
      ∧ (silent.after events).handler.throttle = (answered.after events).handler.throttle := by
  intro events silent answered
  have hcalls : silent.calls events ≠ answered.calls events := by decide +kernel
  -- from here on it does not matter which events they are
  clear_value events
  have hsame := published_regardless_of_answers silent.settings silent.clock silent.store
    silent.handler.state silent.handler.pending answered.handler.pending silent.handler.throttle
    answered.handler.throttle silent.responder answered.responder events
  exact ⟨rfl, hcalls, hsame.1, hsame.2.2 rfl⟩

end DriveDecision
