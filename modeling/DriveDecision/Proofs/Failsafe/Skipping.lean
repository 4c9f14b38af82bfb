import DriveDecision.Proofs.Failsafe.Answers
import DriveDecision.Proofs.Failsafe.Published

/-!
# Proofs/Failsafe/Skipping — a tick that is skipped was never there

    tick   write   tick   advance   tick   tick        skipped: a module is not available
     │       │      ╳        │       ╳      │
     ▾       ▾               ▾              ▾
    tick   write          advance          tick        the same shown, the same left behind

A tick that misses an input only marks when it last complained.  Two systems that differ in nothing
else are `Interchangeable`, and stay so: whatever is left out of the skipped ticks of a run
(`Thinned`), the rest shows what it showed.
-/

namespace DriveDecision

/-! ## Systems that differ in their notices alone -/

/-- **Two systems are interchangeable** if they differ at most in the notices written. -/
structure Interchangeable (first second : System) : Prop extends Alike first second where
  pending : first.handler.pending = second.handler.pending
  responder : first.responder = second.responder

/-- What shows of an event but for the log. -/
structure Moment where
  event : Event
  output : Option HandlerOutput
  issued : List (Call × Answer)

/-- A tick that publishes nothing. -/
def Moment.IsSkipped (moment : Moment) : Prop := moment.event = .tick ∧ moment.output = none

namespace System

def moment (system : System) (event : Event) : Moment :=
  ⟨event, (system.step event).2.output, (system.step event).2.issued⟩

/-- **What shows of a run**, event by event. -/
def history (system : System) : List Event → List Moment
  | [] => []
  | event :: events => system.moment event :: history (system.step event).1 events

theorem filterMap_output_history (system : System) (events : List Event) :
    (system.history events).filterMap (·.output) = (system.run events).2.filterMap (·.output) := by
  induction events generalizing system with
  | nil => rfl
  | cons event events ih =>
    rw [history, run_cons_snd, List.filterMap_cons, List.filterMap_cons, ih]
    rfl

theorem flatMap_issued_history (system : System) (events : List Event) :
    (system.history events).flatMap (·.issued) = system.issued events := by
  induction events generalizing system with
  | nil => rfl
  | cons event events ih =>
    rw [history, issued, run_cons_snd, List.flatMap_cons, List.flatMap_cons, ih]
    rfl

/-- What publishes nothing calls nobody. -/
theorem issued_eq_nil_of_mem_history {system : System} {events : List Event} {moment : Moment}
    (h : moment ∈ system.history events) (hnone : moment.output = none) : moment.issued = [] := by
  induction events generalizing system with
  | nil => cases h
  | cons event events ih =>
    rcases List.mem_cons.1 h with rfl | h
    · rcases system.step_moved event with ⟨-, -, -, hissued⟩ | ⟨⟨out, hout, -⟩, -, -⟩
      · exact hissued
      · rw [moment, hout] at hnone
        cases hnone
    · exact ih h

end System

namespace Interchangeable

variable {first second third : System}

theorem refl (system : System) : Interchangeable system system := ⟨⟨rfl, rfl, rfl, rfl⟩, rfl, rfl⟩

theorem symm (h : Interchangeable first second) : Interchangeable second first where
  settings := h.settings.symm
  clock := h.clock.symm
  store := h.store.symm
  state := h.state.symm
  pending := h.pending.symm
  responder := h.responder.symm

theorem trans (h : Interchangeable first second) (h' : Interchangeable second third) :
    Interchangeable first third where
  settings := h.settings.trans h'.settings
  clock := h.clock.trans h'.clock
  store := h.store.trans h'.store
  state := h.state.trans h'.state
  pending := h.pending.trans h'.pending
  responder := h.responder.trans h'.responder

/-- **An event shows the same of interchangeable systems**, and leaves them interchangeable. -/
theorem step (h : Interchangeable first second) (event : Event) :
    first.moment event = second.moment event
      ∧ Interchangeable (first.step event).1 (second.step event).1 := by
  obtain ⟨settings, clock, store, ⟨state, pending, throttle⟩, responder⟩ := first
  obtain ⟨settings', clock', store', ⟨state', pending', throttle'⟩, responder'⟩ := second
  obtain ⟨⟨rfl, rfl, rfl, rfl⟩, rfl, rfl⟩ := h
  cases event with
  | write reading => exact ⟨rfl, ⟨⟨rfl, rfl, rfl, rfl⟩, rfl, rfl⟩⟩
  | advance dt => exact ⟨rfl, ⟨⟨rfl, rfl, rfl, rfl⟩, rfl, rfl⟩⟩
  | setTime t => exact ⟨rfl, ⟨⟨rfl, rfl, rfl, rfl⟩, rfl, rfl⟩⟩
  | tick =>
    simp only [System.moment, System.step, System.tick, System.tickResult, Handler.tick]
    -- whether anything is missing is read off the store alone
    cases store.ready settings with
    | error notice => exact ⟨rfl, ⟨⟨rfl, rfl, rfl, rfl⟩, rfl, rfl⟩⟩
    | ok report => exact ⟨rfl, ⟨⟨rfl, rfl, rfl, rfl⟩, rfl, rfl⟩⟩

/-- **So does a run.** -/
theorem history (h : Interchangeable first second) (events : List Event) :
    first.history events = second.history events
      ∧ Interchangeable (first.after events) (second.after events) := by
  induction events generalizing first second with
  | nil => exact ⟨rfl, h⟩
  | cons event events ih =>
    obtain ⟨hmoment, hnext⟩ := h.step event
    obtain ⟨hrest, hlast⟩ := ih hnext
    refine ⟨?_, hlast⟩
    rw [System.history, System.history, hmoment, hrest]

end Interchangeable

/-! ## When a tick is skipped -/

/-- A hazard report comes in. -/
inductive Event.IsReport : Event → Prop
  | received (report : HazardReport) : IsReport (.write (.hazard report))
  | stamped (report : StampedReport) : IsReport (.write (.hazardAt report))

/-- A module that never said it is there, or said last that it is not. -/
def IsUnavailable (status : Option ModuleStatus) : Prop :=
  status = none ∨ status = some .notAvailable

instance (status : Option ModuleStatus) : Decidable (IsUnavailable status) :=
  inferInstanceAs (Decidable (status = none ∨ status = some .notAvailable))

theorem isUnavailable_iff {status : Option ModuleStatus} :
    IsUnavailable status ↔ (status.getD default).isAvailable = false := by
  rcases status with _ | status
  · simp [IsUnavailable, ModuleStatus.isAvailable]
    rfl
  · simp [IsUnavailable, ModuleStatus.isAvailable]

/-- **What a tick can miss.** -/
theorem Store.ready_eq_error_iff {store : Store} {settings : FailsafeSettings} :
    (∃ notice, store.ready settings = .error notice)
      ↔ store.hazard = none
        ∨ (settings.useComfortableStop = true ∧ IsUnavailable store.comfortableStop)
        ∨ IsUnavailable store.emergencyStop := by
  rw [isUnavailable_iff, isUnavailable_iff]
  change _ ↔ _ ∨ (_ ∧ store.comfortableStopStatus.isAvailable = false)
    ∨ store.emergencyStopStatus.isAvailable = false
  rw [ready]
  cases store.hazard with
  | none => simp
  | some report =>
    cases settings.useComfortableStop <;> cases store.comfortableStopStatus.isAvailable
      <;> cases store.emergencyStopStatus.isAvailable <;> simp

namespace System

/-- **A tick that is skipped** misses an input and leaves everything but the notices alone. -/
theorem output_tick_eq_none_iff {system : System} :
    system.tick.2.output = none ↔ ∃ notice, system.store.ready system.settings = .error notice := by
  simp only [tick, tickResult, Handler.tick]
  cases system.store.ready system.settings with
  | error notice => exact ⟨fun _ => ⟨notice, rfl⟩, fun _ => rfl⟩
  | ok report => simp [Handler.act]

theorem interchangeable_of_skipped {system : System} (h : system.tick.2.output = none) :
    system.tick.2.issued = [] ∧ Interchangeable system.tick.1 system := by
  obtain ⟨notice, hready⟩ := output_tick_eq_none_iff.1 h
  simp only [tick, tickResult, Handler.tick, hready]
  exact ⟨rfl, ⟨⟨rfl, rfl, rfl, rfl⟩, rfl, rfl⟩⟩

theorem hazard_step_eq_none_iff {system : System} {event : Event} :
    (system.step event).1.store.hazard = none ↔ system.store.hazard = none ∧ ¬ event.IsReport := by
  cases event with
  | write reading =>
    cases reading with
    | hazard report => exact ⟨nofun, fun h => absurd (.received report) h.2⟩
    | hazardAt report => exact ⟨nofun, fun h => absurd (.stamped report) h.2⟩
    | speed _ | mode _ | comfortableStop _ | emergencyStop _ =>
      exact ⟨fun h => ⟨h, nofun⟩, fun h => h.1⟩
  | advance _ | setTime _ | tick => exact ⟨fun h => ⟨h, nofun⟩, fun h => h.1⟩

/-- There is no report if none ever came in. -/
theorem hazard_after_eq_none_iff {system : System} {events : List Event} :
    (system.after events).store.hazard = none
      ↔ system.store.hazard = none ∧ ∀ event ∈ events, ¬ event.IsReport := by
  induction events generalizing system with
  | nil => exact ⟨fun h => ⟨h, nofun⟩, fun h => h.1⟩
  | cons event events ih =>
    rw [List.forall_mem_cons, ← and_assoc, ← hazard_step_eq_none_iff]
    exact ih

end System

/-! ## Leaving them out -/

/-- **Some of the skipped ticks are left out.** -/
inductive Thinned : List Moment → List Moment → Prop
  | nil : Thinned [] []
  | keep {moment : Moment} {all kept : List Moment} (rest : Thinned all kept) :
      Thinned (moment :: all) (moment :: kept)
  | leaveOut {moment : Moment} {all kept : List Moment} (skipped : moment.IsSkipped)
      (rest : Thinned all kept) : Thinned (moment :: all) kept

namespace Thinned

variable {all kept : List Moment}

/-- All that is published is kept. -/
theorem filterMap_output (h : Thinned all kept) :
    kept.filterMap (·.output) = all.filterMap (·.output) := by
  induction h with
  | nil => rfl
  | keep rest ih => rw [List.filterMap_cons, List.filterMap_cons, ih]
  | leaveOut skipped rest ih => rw [ih, List.filterMap_cons, skipped.2]

/-- …and all the calls. -/
theorem flatMap_issued (h : Thinned all kept)
    (hquiet : ∀ moment ∈ all, moment.output = none → moment.issued = []) :
    kept.flatMap (·.issued) = all.flatMap (·.issued) := by
  induction h with
  | nil => rfl
  | keep rest ih =>
    rw [List.flatMap_cons, List.flatMap_cons, ih fun m hm => hquiet m (List.mem_cons_of_mem _ hm)]
  | leaveOut skipped rest ih =>
    rw [ih fun m hm => hquiet m (List.mem_cons_of_mem _ hm), List.flatMap_cons,
      hquiet _ (List.mem_cons_self ..) skipped.2, List.nil_append]

/-- **What is left of a run is a run of its own**, also of a system that differs in its notices. -/
theorem history {system other : System} {events : List Event}
    (h : Thinned (system.history events) kept) (hsame : Interchangeable other system) :
    other.history (kept.map (·.event)) = kept
      ∧ Interchangeable (other.after (kept.map (·.event))) (system.after events) := by
  induction events generalizing system other kept with
  | nil =>
    cases h
    exact ⟨rfl, hsame⟩
  | cons event events ih =>
    cases h with
    | keep rest =>
      obtain ⟨hmoment, hnext⟩ := hsame.step event
      obtain ⟨hkept, hlast⟩ := ih rest hnext
      exact ⟨congrArg₂ List.cons hmoment hkept, hlast⟩
    | leaveOut skipped rest =>
      obtain ⟨rfl, hnone⟩ : event = .tick ∧ (system.step event).2.output = none := skipped
      -- the other system does not tick, and still differs in its notices alone
      exact ih rest (hsame.trans (System.interchangeable_of_skipped hnone).2.symm)

end Thinned

/-- **A tick that is skipped was never there.**  In every run of any handler a tick is skipped
exactly if no hazard report ever came in, or the comfortable stop is to be used and its module is
not available, or the module of the emergency stop is not; such a tick calls nobody and leaves
everything but the notices alone.  Whichever of the skipped ticks are left out of a run, all that is
left shows what it showed, event by event, and so the run publishes the same, makes the same calls
with the same answers, and ends with the same record and the same open calls. -/
theorem skipped_ticks_invisible (system : System) (events : List Event) :
    let reached := system.after events
    (reached.tick.2.output = none
        ↔ (system.store.hazard = none ∧ ∀ event ∈ events, ¬ event.IsReport)
          ∨ (system.settings.useComfortableStop = true
            ∧ IsUnavailable reached.store.comfortableStop)
          ∨ IsUnavailable reached.store.emergencyStop)
      ∧ (reached.tick.2.output = none →
        reached.tick.2.issued = [] ∧ Interchangeable reached.tick.1 reached)
      ∧ ∀ kept, Thinned (system.history events) kept →
        let rest := kept.map (·.event)
        system.history rest = kept
          ∧ (system.run rest).2.filterMap (·.output) = (system.run events).2.filterMap (·.output)
          ∧ system.issued rest = system.issued events
          ∧ Interchangeable (system.after rest) reached := by
  intro reached
  refine ⟨?_, System.interchangeable_of_skipped, fun kept hthinned => ?_⟩
  · rw [System.output_tick_eq_none_iff, Store.ready_eq_error_iff, System.hazard_after_eq_none_iff,
      System.settings_after]
  · obtain ⟨hkept, hlast⟩ := hthinned.history (.refl system)
    refine ⟨hkept, ?_, ?_, hlast⟩
    · rw [← System.filterMap_output_history, ← System.filterMap_output_history, hkept]
      exact hthinned.filterMap_output
    · rw [← System.flatMap_issued_history, ← System.flatMap_issued_history, hkept]
      exact hthinned.flatMap_issued fun moment => System.issued_eq_nil_of_mem_history

/-- A module drops out in the middle of an emergency, with a call open; the tick that is skipped for
it can be left out. -/
theorem latentFault_thinned :
    let events := [.tick] ++ System.worseAfterOutage ++ [.tick]
    let all := System.latentFault.history events
    let kept := all.eraseIdx 2
    (System.latentFault.after (events.take 2)).handler.pending = [⟨.comfortableStop, true⟩]
      ∧ Thinned all kept
      ∧ System.latentFault.history (kept.map (·.event)) = kept
      ∧ System.latentFault.issued (kept.map (·.event)) = System.latentFault.issued events := by
  intro events all kept
  have hthinned : Thinned all kept :=
    .keep (.keep (.leaveOut ⟨rfl, by decide +kernel⟩ (.keep (.keep (.keep .nil)))))
  have hopen : (System.latentFault.after (events.take 2)).handler.pending
      = [⟨.comfortableStop, true⟩] := by decide +kernel
  obtain ⟨-, -, hleft⟩ := skipped_ticks_invisible System.latentFault events
  obtain ⟨hkept, -, hissued, -⟩ := hleft kept hthinned
  exact ⟨hopen, hthinned, hkept, hissued⟩

end DriveDecision
