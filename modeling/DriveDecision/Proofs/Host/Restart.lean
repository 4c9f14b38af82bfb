import DriveDecision.Host.Session
import DriveDecision.Proofs.Failsafe.Skipping

/-!
# Proofs/Host/Restart — a restart shows in the log alone

    handler      ──▸ snapshot ─────────┐
    new handler  ──────────────────▸ restore ──▸ goes on as the first would have

Of what a handler remembers a snapshot leaves out only when notices were written, so taking it over
makes any handler interchangeable with the one it was taken of.  A host passes the record in codes
and a word and the open calls not at all: its restart goes on in the same way if no call is open
(`interchangeable_restore_state`), over a store it can fill again by itself (`held_retell`).
-/

namespace DriveDecision

/-- **A snapshot is all that counts**: whatever handler takes it over. -/
theorem System.interchangeable_restore_snapshot (system : System) (built : Handler) :
    Interchangeable ({ system with handler := built }.restore system.snapshot) system :=
  ⟨⟨rfl, rfl, rfl, rfl⟩, rfl, rfl⟩

namespace Host

/-! ## What a host can reach -/

/-- **What one call leaves** of the handler. -/
inductive Left (before after : System) : Prop where
  | kept (same : after = before)
  | timed (nanos : UInt64) (set : after = { before with clock := ⟨nanos⟩ })
  | wrote (reading : Reading) (unstamped : ∀ report, reading ≠ .hazardAt report)
      (written : after = before.write reading)
  | ticked (ticked : after = before.tick.1)
  | restored (state : ManeuverState) (nanos : UInt64) (stamp : state.stamp = .ofWord nanos)
      (restored : after = before.restore ⟨state, []⟩)

theorem left_writeCode {τ : Type} [WireCode τ] (system : System) (code : UInt8)
    {reading : τ → Reading} (h : ∀ value report, reading value ≠ .hazardAt report) :
    ∃ after, (writeCode code reading (some system)).2 = some after ∧ Left system after := by
  simp only [writeCode]
  cases (WireCode.ofCode code : Except DecodeError τ) with
  | error _ => exact ⟨_, rfl, .kept rfl⟩
  | ok value => exact ⟨_, rfl, .wrote (reading value) (h value) rfl⟩

/-- **Every call leaves a handler in one of these ways.** -/
theorem Request.left (system : System) (request : Request) :
    ∃ after, (request.perform (some system)).2 = some after ∧ Left system after := by
  cases request with
  | setTime nanos =>
    refine ⟨_, rfl, .timed nanos ?_⟩
    simp only [System.step, Clock.showing, Duration.toWord_ofWord]
  | setHazard level emergency holding => exact left_writeCode system level (by simp)
  | setSpeed speed => exact ⟨_, rfl, .wrote (.speed speed) (by simp) rfl⟩
  | setMode code => exact left_writeCode system code (by simp)
  | setStatus maneuver status =>
    simp only [Request.perform, Reply.ofResult, Host.setStatus]
    split
    · exact ⟨_, rfl, .kept rfl⟩
    · exact ⟨_, rfl, .wrote (.comfortableStop _) (by simp) rfl⟩
    · exact ⟨_, rfl, .wrote (.emergencyStop _) (by simp) rfl⟩
    · exact ⟨_, rfl, .kept rfl⟩
  | tick wanted => exact ⟨_, rfl, .ticked rfl⟩
  | restore given =>
    simp only [Request.perform, Host.restore]
    rcases hgiven : given.toMessage.toState with _ | state
    · exact ⟨_, rfl, .kept rfl⟩
    · exact ⟨_, rfl, .restored state _ (StateMessage.stamp_of_toState hgiven) rfl⟩
  | state => exact ⟨_, rfl, .kept rfl⟩

/-- **What a host holds** after some calls. -/
def held (handler : Option System) (requests : List Request) : Option System :=
  requests.foldl (fun handler request => (request.perform handler).2) handler

theorem held_append (handler : Option System) (first second : List Request) :
    held handler (first ++ second) = held (held handler first) second :=
  List.foldl_append

/-- **The handler of a host**: it has the settings it was made with, and the times in its record and
its store fit in a word. -/
structure IsOf (settings : FailsafeSettings) (system : System) : Prop where
  settings : system.settings = settings
  record : ∃ nanos, system.handler.state.stamp = .ofWord nanos
  report : ∀ report ∈ system.store.hazard, ∃ nanos, report.stamp = .ofWord nanos

namespace IsOf

variable {settings : FailsafeSettings} {before after system : System}

theorem create (settings : Settings) (startNanos : UInt64) (responder : Responder) :
    IsOf settings.resolve (Host.create settings startNanos responder) :=
  ⟨rfl, ⟨_, rfl⟩, nofun⟩

/-- Every call keeps it. -/
theorem left (h : IsOf settings before) (hleft : Left before after) : IsOf settings after := by
  cases hleft with
  | kept same => exact same ▸ h
  | timed nanos set => exact set ▸ ⟨h.settings, h.record, h.report⟩
  | wrote reading unstamped written =>
    subst written
    refine ⟨h.settings, h.record, ?_⟩
    cases reading with
    | hazard report =>
      rintro _ ⟨⟩
      exact ⟨before.clock.nanos, rfl⟩
    | hazardAt report => exact absurd rfl (unstamped report)
    | speed _ | mode _ | comfortableStop _ | emergencyStop _ => exact h.report
  | ticked ticked =>
    subst ticked
    refine ⟨h.settings, ?_, h.report⟩
    rcases before.step_publishes .tick with ⟨-, -, hstate⟩ | ⟨input, -, -, -, hstate⟩
    · exact h.record.imp fun nanos hstamp => (congrArg (·.stamp) hstate).trans hstamp
    · exact ⟨before.clock.nanos, congrArg (·.stamp) hstate⟩
  | restored state nanos stamp restored => exact restored ▸ ⟨h.settings, ⟨nanos, stamp⟩, h.report⟩

theorem held (h : IsOf settings before) {requests : List Request}
    (hheld : held (some before) requests = some after) : IsOf settings after := by
  induction requests generalizing before with
  | nil =>
    cases hheld
    exact h
  | cons request requests ih =>
    obtain ⟨next, hnext, hleft⟩ := request.left before
    rw [Host.held, List.foldl_cons, hnext] at hheld
    exact ih (h.left hleft) hheld

/-- **The record passes through the interface**: taken over by any handler it makes one that is
interchangeable with the first, unless a call was open. -/
theorem interchangeable_restore_state (h : IsOf settings system)
    (hpending : system.handler.pending = []) (built : Handler) :
    ∃ again, Host.restore (Host.state (some system)) (some { system with handler := built })
        = (.returned .done, some again) ∧ Interchangeable again system := by
  obtain ⟨nanos, hstamp⟩ := h.record
  have hread : (Host.state (some system)).toMessage.toState = .ok system.handler.state := by
    refine (StateMessage.toState_ofState system.handler.state).trans ?_
    rw [hstamp, Duration.toWord_ofWord, ← hstamp]
  rw [Host.restore, hread]
  exact ⟨_, rfl, ⟨⟨rfl, rfl, rfl, rfl⟩, hpending.symm, rfl⟩⟩

end IsOf

/-! ## Telling a new handler everything again -/

/-- **The calls that tell a new handler** all that was told to another one. -/
def retell (system : System) : List Request :=
  (system.store.hazard.toList.flatMap fun report =>
      [.setTime report.stamp.toWord, .setHazard (WireCode.code report.report.level)
        (flag report.report.emergency) (flag report.report.holding)])
    ++ system.store.speed.toList.map .setSpeed
    ++ system.store.mode.toList.map (.setMode <| WireCode.code ·)
    ++ system.store.comfortableStop.toList.map
      (.setStatus (WireCode.code Maneuver.comfortableStop) <| WireCode.code ·)
    ++ system.store.emergencyStop.toList.map
      (.setStatus (WireCode.code Maneuver.emergencyStop) <| WireCode.code ·)
    ++ [.setTime system.clock.nanos]

section Retell

variable (system : System)

theorem flag_ne_zero (b : Bool) : (flag b != 0) = b := by
  cases b <;> rfl

/-- The report is told at its own time. -/
theorem held_setHazard {hazard : Option StampedReport}
    (hstamp : ∀ report ∈ hazard, ∃ nanos, report.stamp = .ofWord nanos) :
    held (some system) (hazard.toList.flatMap fun report =>
        [.setTime report.stamp.toWord, .setHazard (WireCode.code report.report.level)
          (flag report.report.emergency) (flag report.report.holding)])
      = some { system with
          clock := hazard.elim system.clock fun report => ⟨report.stamp.toWord⟩
          store := { system.store with hazard := hazard.or system.store.hazard } } := by
  cases hazard with
  | none => rfl
  | some report =>
    obtain ⟨stamp, level, emergency, holding⟩ := report
    obtain ⟨nanos, rfl⟩ := hstamp _ rfl
    simp only [Option.toList_some, List.flatMap_cons, List.flatMap_nil, List.append_nil, held,
      List.foldl_cons, List.foldl_nil, Request.perform, Reply.ofResult, setTime, setHazard,
      writeCode, FaultLevel.ofCode_code, flag_ne_zero, System.step, System.write, System.now,
      Clock.showing, Clock.now, Store.record, Duration.toWord_ofWord, Option.elim_some,
      Option.some_or]

theorem held_setSpeed (speed : Option Float) :
    held (some system) (speed.toList.map .setSpeed)
      = some { system with
          store := { system.store with speed := speed.or system.store.speed } } := by
  cases speed <;> rfl

theorem held_setMode (mode : Option ControlMode) :
    held (some system) (mode.toList.map (.setMode <| WireCode.code ·))
      = some { system with
          store := { system.store with mode := mode.or system.store.mode } } := by
  cases mode with
  | none => rfl
  | some mode =>
    simp only [Option.toList_some, List.map_cons, List.map_nil, held, List.foldl_cons,
      List.foldl_nil, Request.perform, Reply.ofResult, setMode, writeCode, ControlMode.ofCode_code]
    rfl

theorem held_setComfortableStop (status : Option ModuleStatus) :
    held (some system) (status.toList.map
        (.setStatus (WireCode.code Maneuver.comfortableStop) <| WireCode.code ·))
      = some { system with
          store := { system.store with
            comfortableStop := status.or system.store.comfortableStop } } := by
  cases status with
  | none => rfl
  | some status =>
    simp only [Option.toList_some, List.map_cons, List.map_nil, held, List.foldl_cons,
      List.foldl_nil, Request.perform, Reply.ofResult, setStatus, ModuleStatus.ofCode_code,
      Maneuver.ofCode_code]
    rfl

theorem held_setEmergencyStop (status : Option ModuleStatus) :
    held (some system) (status.toList.map
        (.setStatus (WireCode.code Maneuver.emergencyStop) <| WireCode.code ·))
      = some { system with
          store := { system.store with
            emergencyStop := status.or system.store.emergencyStop } } := by
  cases status with
  | none => rfl
  | some status =>
    simp only [Option.toList_some, List.map_cons, List.map_nil, held, List.foldl_cons,
      List.foldl_nil, Request.perform, Reply.ofResult, setStatus, ModuleStatus.ofCode_code,
      Maneuver.ofCode_code]
    rfl

variable {system}

/-- **A new handler can be told everything again**, at whatever time it was made. -/
theorem held_retell {settings : Settings} (h : IsOf settings.resolve system)
    (startNanos : UInt64) :
    held (some (create settings startNanos system.responder)) (retell system)
      = some { system with handler := .starting (.ofWord startNanos) } := by
  simp only [retell, held_append, held_setHazard _ h.report, held_setSpeed, held_setMode,
    held_setComfortableStop, held_setEmergencyStop]
  simp only [held, List.foldl_cons, List.foldl_nil, Request.perform, Reply.ofResult, setTime,
    System.step, create, System.starting, Clock.showing, Clock.now, Duration.toWord_ofWord,
    Option.or_none, h.settings]

end Retell

/-! ## What the host is told from then on -/

/-- **Two calls tell the same**, and leave interchangeable handlers. -/
structure Matches (first second : Interaction) : Prop where
  request : first.request = second.request
  reply : first.reply = second.reply
  after : Option.Rel Interchangeable first.after second.after

section Matching

variable {first second : System}

theorem matches_writeCode {τ : Type} [WireCode τ] (h : Interchangeable first second) (code : UInt8)
    (reading : τ → Reading) :
    (writeCode code reading (some first)).1 = (writeCode code reading (some second)).1
      ∧ Option.Rel Interchangeable (writeCode code reading (some first)).2
        (writeCode code reading (some second)).2 := by
  simp only [writeCode]
  cases (WireCode.ofCode code : Except DecodeError τ) with
  | error _ => exact ⟨rfl, .some h⟩
  | ok value => exact ⟨rfl, .some (h.step (.write (reading value))).2⟩

theorem matches_setStatus (h : Interchangeable first second) (maneuver status : UInt8) :
    (setStatus maneuver status (some first)).1 = (setStatus maneuver status (some second)).1
      ∧ Option.Rel Interchangeable (setStatus maneuver status (some first)).2
        (setStatus maneuver status (some second)).2 := by
  simp only [setStatus]
  split
  · exact ⟨rfl, .some h⟩
  · exact ⟨rfl, .some (h.step (.write (.comfortableStop _))).2⟩
  · exact ⟨rfl, .some (h.step (.write (.emergencyStop _))).2⟩
  · exact ⟨rfl, .some h⟩

/-- **A call tells the same of interchangeable handlers.** -/
theorem matches_interaction (h : Interchangeable first second) (request : Request) :
    Matches (request.interaction (some first)) (request.interaction (some second)) := by
  cases request with
  | setTime nanos => exact ⟨rfl, rfl, .some (h.step (.setTime (.ofWord nanos))).2⟩
  | setHazard level emergency holding =>
    obtain ⟨hstatus, hafter⟩ := matches_writeCode h level
      (fun level => Reading.hazard ⟨level, emergency != 0, holding != 0⟩)
    exact ⟨rfl, congrArg (fun status : Status => Reply.returned status.number) hstatus, hafter⟩
  | setSpeed speed => exact ⟨rfl, rfl, .some (h.step (.write (.speed speed))).2⟩
  | setMode code =>
    obtain ⟨hstatus, hafter⟩ := matches_writeCode h code Reading.mode
    exact ⟨rfl, congrArg (fun status : Status => Reply.returned status.number) hstatus, hafter⟩
  | setStatus maneuver status =>
    obtain ⟨hstatus, hafter⟩ := matches_setStatus h maneuver status
    exact ⟨rfl, congrArg (fun status : Status => Reply.returned status.number) hstatus, hafter⟩
  | tick wanted =>
    obtain ⟨hmoment, hnext⟩ := h.step .tick
    have houtput : first.tick.2.output = second.tick.2.output := congrArg (·.output) hmoment
    have hissued : first.tick.2.issued = second.tick.2.issued := congrArg (·.issued) hmoment
    refine ⟨rfl, ?_, .some hnext⟩
    simp only [Request.interaction, Request.perform, Host.tick, found, callsSeen]
    rw [houtput, hissued]
  | restore given =>
    simp only [Request.interaction, Request.perform, Host.restore]
    cases given.toMessage.toState with
    | error _ => exact ⟨rfl, rfl, .some h⟩
    | ok state =>
      exact ⟨rfl, rfl, .some ⟨⟨h.settings, h.clock, h.store, rfl⟩, rfl, h.responder⟩⟩
  | state =>
    exact ⟨rfl, congrArg (fun state => Reply.told (.ofMessage (.ofState state))) h.state, .some h⟩

/-- **So does a session.** -/
theorem matches_session (h : Interchangeable first second) (requests : List Request) :
    List.Forall₂ Matches (session (some first) requests) (session (some second) requests) := by
  induction requests generalizing first second with
  | nil => exact .nil
  | cons request requests ih =>
    have hmatches := matches_interaction h request
    obtain ⟨next, hnext, -⟩ := request.left first
    obtain ⟨next', hnext', -⟩ := request.left second
    have hafter : Interchangeable next next' := by
      have hrel := hmatches.after
      rw [Request.interaction, Request.interaction, hnext, hnext'] at hrel
      cases hrel with
      | some hafter => exact hafter
    rw [session, session, hmatches.reply]
    cases (request.interaction (some second)).reply with
    | aborted => exact .cons hmatches .nil
    | returned _ | ticked _ _ _ | told _ =>
      refine .cons hmatches ?_
      rw [Request.interaction, Request.interaction, hnext, hnext']
      exact ih hafter

end Matching

end Host

/-- **A restart shows in the log alone.**  A new handler over the same clock and store, built at any
time, that takes over the snapshot of a handler shows at every further event what the other would
have shown: the same outputs, the same calls in the same order; and after each it has the same
record and the same open calls.  Through the interface the record alone is passed on.  Whatever a
host has done so far, it can tell a new handler with the same settings everything again, and if no
call is open and any handler that knows the same takes over the state the host was told, every
further call of the interface tells the host what it would have been told. -/
theorem restart_unnoticed :
    (∀ (system : System) (builtAt : Duration) (events : List Event),
      let again := { system with handler := .starting builtAt }.restore system.snapshot
      again.history events = system.history events
        ∧ Interchangeable (again.after events) (system.after events))
      ∧ ∀ (settings : Host.Settings) (startNanos : UInt64) (responder : Responder)
          (past : List Host.Request) (system : System),
        Host.held (some (Host.create settings startNanos responder)) past = some system →
        (∀ againNanos,
          Host.held (some (Host.create settings againNanos system.responder))
              (Host.retell system)
            = some { system with handler := .starting (.ofWord againNanos) })
        ∧ (system.handler.pending = [] → ∀ built : Handler, ∃ again,
          Host.restore (Host.state (some system)) (some { system with handler := built })
              = (.returned .done, some again)
            ∧ Interchangeable again system
            ∧ ∀ requests, List.Forall₂ Host.Matches (Host.session (some again) requests)
              (Host.session (some system) requests)) := by
  refine ⟨fun system builtAt events => ?_,
    fun settings startNanos responder past system hheld => ?_⟩
  · exact (system.interchangeable_restore_snapshot (.starting builtAt)).history events
  · have hof := (Host.IsOf.create settings startNanos responder).held hheld
    refine ⟨Host.held_retell hof, fun hpending built => ?_⟩
    obtain ⟨again, hrestore, hsame⟩ := hof.interchangeable_restore_state hpending built
    exact ⟨again, hrestore, hsame, Host.matches_session hsame⟩

/-- The calls up to a comfortable stop. -/
def Host.stoppingComfortably : List Host.Request :=
  [.setHazard 2 1 0, .setSpeed 10.0, .setMode 1, .setStatus 3 1, .setStatus 2 1, .tick none,
    .setTime 7]

/-- A host restarts in the middle of a comfortable stop, and then the fault gets worse. -/
theorem comfortableStop_resumed :
    let settings := { Host.Settings.standard with useComfortableStop := 1 }
    let made := Host.create settings 3 (Host.responder true [])
    let further : List Host.Request := [.setHazard 3 1 0, .tick (some {}), .state]
    ∃ system again, Host.held (some made) Host.stoppingComfortably = some system
      ∧ system.handler.pending = []
      ∧ Host.held (some (Host.create settings 9 system.responder)) (Host.retell system)
        = some { system with handler := .starting (.ofWord 9) }
      ∧ Host.restore (Host.state (some system))
          (some { system with handler := .starting (.ofWord 9) }) = (.returned .done, some again)
      ∧ List.Forall₂ Host.Matches (Host.session (some again) further)
        (Host.session (some system) further)
      ∧ (Host.session (some system) further).map (·.reply)
        = [.returned 0, .ticked 1 (some ⟨2, 2, ⟨2, 2, 7⟩⟩) [(3, 0), (2, 1)], .told ⟨2, 2, 7⟩] := by
  intro settings made further
  let system := (Host.held (some made) Host.stoppingComfortably).getD made
  have hheld : Host.held (some made) Host.stoppingComfortably = some system := rfl
  have hpending : system.handler.pending = [] := by decide +kernel
  have hreplies : (Host.session (some system) further).map (·.reply)
      = [.returned 0, .ticked 1 (some ⟨2, 2, ⟨2, 2, 7⟩⟩) [(3, 0), (2, 1)], .told ⟨2, 2, 7⟩] := by
    decide +kernel
  obtain ⟨hretold, hresumed⟩ := restart_unnoticed.2 settings 3 (Host.responder true [])
    Host.stoppingComfortably system hheld
  obtain ⟨again, hrestore, -, hmatches⟩ := hresumed hpending (.starting (.ofWord 9))
  exact ⟨system, again, hheld, hpending, hretold 9, hrestore, hmatches further, hreplies⟩

end DriveDecision
