import DriveDecision.Failsafe.System
import DriveDecision.Proofs.Failsafe.TickCalls

/-!
# Proofs/Failsafe/History — what a run does to the record and the calls

Of all a step does, the calls only depend on `Moved`: either nothing is published and no call made,
or a tick publishes a new record and calls toward it.  `run_induction` carries a fact about the
system and what it has shown so far through a run of any length.
-/

namespace DriveDecision

/-- The calls made, without their answers. -/
def Reaction.calls (reaction : Reaction) : List Call := reaction.issued.map (·.1)

/-- The calls of a list that were not answered. -/
def unanswered (issued : List (Call × Answer)) : List Call :=
  (issued.filter (·.2.isOpen)).map (·.1)

theorem mem_unanswered {issued : List (Call × Answer)} {call : Call} :
    call ∈ unanswered issued ↔ ∃ answer, (call, answer) ∈ issued ∧ answer.isOpen = true := by
  simp [unanswered]

/-- **What a step can do** to a handler, as far as its calls are concerned. -/
inductive Moved (before after : Handler) (reaction : Reaction) : Prop where
  /-- The handler does not tick, or the tick is skipped. -/
  | quiet (state : after.state = before.state) (pending : after.pending = before.pending)
      (output : reaction.output = none) (issued : reaction.issued = [])
  /-- A tick publishes what it records, and calls the modules toward it. -/
  | published (output : ∃ out, reaction.output = some out ∧ out.state = after.state)
      (calls : reaction.calls
        = callsToward before.pending before.state.maneuver after.state.maneuver)
      (pending : after.pending = unanswered reaction.issued)

namespace System

/-- **A new handler** over whatever its clock and its store hold. -/
def fresh (settings : FailsafeSettings) (clock : Clock) (store : Store) (responder : Responder) :
    System where
  settings := settings
  clock := clock
  store := store
  handler := .starting clock.now
  responder := responder

/-- Where a run ends. -/
def after (system : System) (events : List Event) : System := (system.run events).1

/-- The calls of a run, in the order they were made, each with its answer. -/
def issued (system : System) (events : List Event) : List (Call × Answer) :=
  (system.run events).2.flatMap (·.issued)

/-- The calls alone. -/
def calls (system : System) (events : List Event) : List Call :=
  (system.run events).2.flatMap (·.calls)

theorem run_cons_snd (system : System) (event : Event) (events : List Event) :
    (system.run (event :: events)).2
      = (system.step event).2 :: ((system.step event).1.run events).2 := rfl

theorem after_concat (system : System) (events : List Event) (event : Event) :
    system.after (events ++ [event]) = ((system.after events).step event).1 := by
  rw [after, run_append]
  rfl

theorem issued_concat (system : System) (events : List Event) (event : Event) :
    system.issued (events ++ [event])
      = system.issued events ++ ((system.after events).step event).2.issued := by
  rw [issued, run_append, List.flatMap_append]
  exact congrArg _ (List.flatMap_singleton ..)

/-! ## One step -/

/-- A tick that publishes calls toward what it records. -/
theorem moved_act (handler : Handler) (settings : FailsafeSettings) (input : FailsafeInput)
    (age now : Duration) (responder : Responder) :
    let result := handler.act settings input age now responder
    Moved handler result.handler ⟨result.output, result.issued, result.entries⟩ :=
  .published ⟨_, rfl, rfl⟩ (Responder.map_fst_answer _ _) rfl

/-- **Every step is one of the two kinds.** -/
theorem step_moved (system : System) (event : Event) :
    Moved system.handler (system.step event).1.handler (system.step event).2 := by
  cases event with
  | write reading => exact .quiet rfl rfl rfl rfl
  | advance dt => exact .quiet rfl rfl rfl rfl
  | setTime t => exact .quiet rfl rfl rfl rfl
  | tick =>
    simp only [step, tick, tickResult, Handler.tick]
    cases system.store.ready system.settings with
    | error notice => exact .quiet rfl rfl rfl rfl
    | ok report => exact moved_act ..

/-- A step that publishes nothing leaves the record and the queue alone. -/
theorem step_eq_of_output_eq_none {system : System} {event : Event}
    (h : (system.step event).2.output = none) :
    (system.step event).1.handler.state = system.handler.state
      ∧ (system.step event).1.handler.pending = system.handler.pending := by
  rcases system.step_moved event with ⟨hstate, hpending, -, -⟩ | ⟨⟨out, hout, -⟩, -, -⟩
  · exact ⟨hstate, hpending⟩
  · rw [h] at hout
    cases hout

/-! ## Whole runs -/

/-- **Run induction.**  What holds at the start and is kept by every step holds after a run, of the
system it ends in and everything that became visible on the way. -/
theorem run_induction {motive : System → List Reaction → Prop} {system : System}
    (start : motive system [])
    (step : ∀ (system : System) (reactions : List Reaction) (event : Event),
      motive system reactions →
        motive (system.step event).1 (reactions ++ [(system.step event).2]))
    (events : List Event) : motive (system.after events) (system.run events).2 := by
  -- what became visible before the events at hand goes along with the system
  suffices h : ∀ (events : List Event) (system : System) (reactions : List Reaction),
      motive system reactions → motive (system.after events) (reactions ++ (system.run events).2) by
    simpa using h events system [] start
  intro events
  induction events with
  | nil =>
    intro system reactions h
    rw [show (system.run []).2 = [] from rfl, List.append_nil]
    exact h
  | cons event events ih =>
    intro system reactions h
    rw [run_cons_snd, List.append_cons]
    exact ih _ _ (step system reactions event h)

/-- A run that publishes nothing leaves the record and the queue alone. -/
theorem after_eq_of_output_eq_none {system : System} {events : List Event}
    (h : ∀ reaction ∈ (system.run events).2, reaction.output = none) :
    (system.after events).handler.state = system.handler.state
      ∧ (system.after events).handler.pending = system.handler.pending := by
  induction events generalizing system with
  | nil => exact ⟨rfl, rfl⟩
  | cons event events ih =>
    have hfirst : (system.step event).2.output = none := h _ (List.mem_cons_self ..)
    obtain ⟨hstate, hpending⟩ := step_eq_of_output_eq_none hfirst
    obtain ⟨hstate', hpending'⟩ := ih fun reaction hmem => h reaction (List.mem_cons_of_mem _ hmem)
    exact ⟨hstate'.trans hstate, hpending'.trans hpending⟩

/-! ## A run with a call that is not answered -/

/-- An emergency of a moving autonomous vehicle that stops comfortably if it can; the first call to
a module is not answered. -/
def latentFault : System :=
  .fresh { FailsafeSettings.standard with useComfortableStop := true } ⟨0⟩
    { hazard := some ⟨.zero, ⟨.latentFault, true, false⟩⟩
      speed := some 10.0
      mode := some .autonomous
      comfortableStop := some .available
      emergencyStop := some .available }
    { listed := [.silent] }

/-- A tick is skipped for want of a module, and then the fault gets worse. -/
def worseAfterOutage : List Event :=
  [.write (.emergencyStop .notAvailable), .tick, .write (.emergencyStop .available),
    .write (.hazard ⟨.singlePointFault, true, false⟩)]

end System

end DriveDecision
