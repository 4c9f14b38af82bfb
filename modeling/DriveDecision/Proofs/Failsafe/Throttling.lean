import DriveDecision.Proofs.Failsafe.Skipping
import Mathlib.Data.List.Chain

/-!
# Proofs/Failsafe/Throttling — a notice is written again only after its period

    time           0s    2s    4s    5s    1s    9s    10s
    occasion for   wait  wait  old   wait  wait  wait  wait      wait: for a module, 5s
    written        wait        old   wait              wait      old: a stale report, 1s

A tick has occasion for at most one notice: what it misses, or that its report is stale.  It writes
the notice if that is due (`Handler.notice?`), and nothing else that reads like one.  So what the
throttle remembers of a kind is the last time it stands in the log (`Handler.live_notes`), whatever
else happens to the handler and however the clock is set.
-/

namespace DriveDecision

variable {settings : FailsafeSettings} {store : Store} {now : Duration} {notice : Notice}
  {handler : Handler}

/-! ## Kinds of entries -/

namespace Notice

/-- What the entries of a kind say. -/
def message (notice : Notice) : String := (notice.entry .zero .zero).message

@[simp] theorem message_entry (notice : Notice) (age timeout : Duration) :
    (notice.entry age timeout).message = notice.message := by
  cases notice <;> rfl

theorem message_injective : Function.Injective message := by
  intro a b
  cases a <;> cases b <;> decide

/-- Every kind has a period. -/
theorem period_pos (notice : Notice) : 0 < notice.period.nanos := by
  cases notice <;> decide

end Notice

/-- A step of the maneuver writes no notice. -/
theorem FailsafeStep.message_ne {step : FailsafeStep} {entry : LogEntry Float}
    (h : entry ∈ step.entries) (notice : Notice) : entry.message ≠ notice.message := by
  obtain ⟨⟨old, new⟩, -, rfl⟩ := List.mem_map.1 h
  cases old <;> cases new <;> cases notice <;> decide

/-- Nor does a call, however long its answer was waited for. -/
theorem Call.message_entry_ne (call : Call) (answer : Answer) (wait : Duration) (notice : Notice) :
    (call.entry answer wait).message ≠ notice.message := by
  have hwait : (call.entry answer wait).message = (call.entry answer .zero).message := by
    cases answer <;> rfl
  obtain ⟨maneuver, operate⟩ := call
  rw [hwait]
  cases maneuver <;> cases operate <;> cases answer <;> cases notice <;> decide

/-! ## What there is occasion for -/

namespace Store

/-- The comfortable stop is to be used and is not there. -/
def LacksComfortableStop (store : Store) (settings : FailsafeSettings) : Prop :=
  settings.useComfortableStop = true ∧ IsUnavailable store.comfortableStop

instance (store : Store) (settings : FailsafeSettings) :
    Decidable (store.LacksComfortableStop settings) :=
  inferInstanceAs (Decidable (_ ∧ _))

/-- **When there is occasion for a notice**: what it tells of is the first thing that a tick
misses, or nothing is missing and the report is too old. -/
inductive HasOccasion (store : Store) (settings : FailsafeSettings) (now : Duration) : Notice → Prop
  | noReport (hazard : store.hazard = none) : HasOccasion store settings now .awaitingReport
  | noComfortableStop (report : StampedReport) (hazard : store.hazard = some report)
      (comfortableStop : store.LacksComfortableStop settings) :
      HasOccasion store settings now .awaitingComfortableStop
  | noEmergencyStop (report : StampedReport) (hazard : store.hazard = some report)
      (comfortableStop : ¬ store.LacksComfortableStop settings)
      (emergencyStop : IsUnavailable store.emergencyStop) :
      HasOccasion store settings now .awaitingEmergencyStop
  | stale (report : StampedReport) (hazard : store.hazard = some report)
      (comfortableStop : ¬ store.LacksComfortableStop settings)
      (emergencyStop : ¬ IsUnavailable store.emergencyStop)
      (old : report.stamp.nanos + settings.staleAfter.nanos < now.nanos) :
      HasOccasion store settings now .staleReport

/-- The notice that a tick has occasion for. -/
def occasion? (store : Store) (settings : FailsafeSettings) (now : Duration) : Option Notice :=
  match store.ready settings with
  | .error notice => some notice
  | .ok report => if report.isStale now settings.staleAfter then some .staleReport else none

theorem occasion?_of_hazard {report : StampedReport} (h : store.hazard = some report) :
    store.occasion? settings now
      = if store.LacksComfortableStop settings then some .awaitingComfortableStop
        else if IsUnavailable store.emergencyStop then some .awaitingEmergencyStop
        else if report.stamp.nanos + settings.staleAfter.nanos < now.nanos then some .staleReport
        else none := by
  have hcomfortable : (settings.useComfortableStop && !store.comfortableStopStatus.isAvailable)
      = decide (store.LacksComfortableStop settings) := by
    rw [Bool.eq_iff_iff, decide_eq_true_eq, LacksComfortableStop, isUnavailable_iff,
      Bool.and_eq_true, Bool.not_eq_true']
    rfl
  have hemergency : (!store.emergencyStopStatus.isAvailable)
      = decide (IsUnavailable store.emergencyStop) := by
    rw [Bool.eq_iff_iff, decide_eq_true_eq, isUnavailable_iff, Bool.not_eq_true']
    rfl
  simp only [occasion?, ready, h, hcomfortable, hemergency, decide_eq_true_eq,
    ← StampedReport.isStale_iff]
  split_ifs with _ _ hstale
  exacts [rfl, rfl, if_pos hstale, if_neg hstale]

/-- **There is occasion for one notice at most.** -/
theorem hasOccasion_iff :
    store.HasOccasion settings now notice ↔ store.occasion? settings now = some notice := by
  constructor
  · rintro (hazard | ⟨report, hazard, hcomfortable⟩ | ⟨report, hazard, hcomfortable, hemergency⟩ |
      ⟨report, hazard, hcomfortable, hemergency, hold⟩)
    · rw [occasion?, ready, hazard]
    · rw [occasion?_of_hazard hazard, if_pos hcomfortable]
    · rw [occasion?_of_hazard hazard, if_neg hcomfortable, if_pos hemergency]
    · rw [occasion?_of_hazard hazard, if_neg hcomfortable, if_neg hemergency, if_pos hold]
  · intro h
    cases hazard : store.hazard with
    | none =>
      rw [occasion?, ready, hazard] at h
      cases h
      exact .noReport hazard
    | some report =>
      rw [occasion?_of_hazard hazard] at h
      split_ifs at h with hcomfortable hemergency hold
      · cases h
        exact .noComfortableStop report hazard hcomfortable
      · cases h
        exact .noEmergencyStop report hazard hcomfortable hemergency
      · cases h
        exact .stale report hazard hcomfortable hemergency hold

end Store

/-! ## One tick -/

/-- **A notice is due** if its period has passed since it was last written, in unbounded
nanoseconds; a clock that was set back makes no exception. -/
theorem Throttle.isDue_iff {throttle : Throttle} : throttle.isDue notice now = true
    ↔ ∀ last ∈ throttle.last? notice, last.nanos + notice.period.nanos ≤ now.nanos := by
  have hpos := notice.period_pos
  rw [isDue]
  cases throttle.last? notice with
  | none => simp
  | some last =>
    simp only [Option.all_some, decide_eq_true_eq, Duration.le_def, Duration.nanos_since,
      Option.mem_def, Option.some.injEq, forall_eq']
    omega

namespace Handler

/-- The notice that a tick writes. -/
def notice? (handler : Handler) (settings : FailsafeSettings) (store : Store) (now : Duration) :
    Option Notice :=
  (store.occasion? settings now).filter (handler.throttle.isDue · now)

theorem notice?_eq_some_iff : handler.notice? settings store now = some notice
    ↔ store.HasOccasion settings now notice
      ∧ ∀ last ∈ handler.throttle.last? notice,
        last.nanos + notice.period.nanos ≤ now.nanos := by
  rw [notice?, Option.filter_eq_some_iff, Store.hasOccasion_iff, Throttle.isDue_iff]

theorem notice?_of_error (h : store.ready settings = .error notice) :
    handler.notice? settings store now
      = if handler.throttle.isDue notice now then some notice else none := by
  simp [notice?, Store.occasion?, h, Option.filter]

theorem notice?_of_ok {report : StampedReport} (h : store.ready settings = .ok report) :
    handler.notice? settings store now
      = if report.isStale now settings.staleAfter && handler.throttle.isDue .staleReport now
        then some .staleReport else none := by
  simp only [notice?, Store.occasion?, h]
  cases report.isStale now settings.staleAfter <;> simp [Option.filter]

/-- **A tick writes its notice**, and else nothing that reads like one. -/
theorem entries_tick (handler : Handler) (settings : FailsafeSettings) (store : Store)
    (now : Duration) (responder : Responder) :
    ∃ (age timeout : Duration) (others : List (LogEntry Float)),
      (handler.tick settings store now responder).entries
          = (handler.notice? settings store now).toList.map (·.entry age timeout) ++ others
        ∧ ∀ entry ∈ others, ∀ notice : Notice, entry.message ≠ notice.message := by
  rw [tick]
  cases hready : store.ready settings with
  | error missing =>
    rw [notice?_of_error hready]
    refine ⟨.zero, .zero, [], ?_, fun entry hentry => absurd hentry List.not_mem_nil⟩
    simp only [skip]
    split_ifs <;> rfl
  | ok report =>
    rw [notice?_of_ok hready]
    simp only [act, List.append_assoc]
    refine ⟨now.since report.stamp, settings.staleAfter, _, congrArg (· ++ _) ?_, ?_⟩
    · change (if report.isStale now settings.staleAfter && _ then _ else _) = _
      split_ifs <;> rfl
    · intro entry hentry notice
      rcases List.mem_append.1 hentry with hstep | hcall
      · exact FailsafeStep.message_ne hstep notice
      · obtain ⟨⟨call, answer⟩, -, rfl⟩ := List.mem_map.1 hcall
        exact call.message_entry_ne answer _ notice

/-- **…and remembers that it did**, and nothing else. -/
theorem throttle_tick (handler : Handler) (settings : FailsafeSettings) (store : Store)
    (now : Duration) (responder : Responder) :
    (handler.tick settings store now responder).handler.throttle
      = (handler.notice? settings store now).elim handler.throttle
        (handler.throttle.mark · now) := by
  rw [tick]
  cases hready : store.ready settings with
  | error missing =>
    rw [notice?_of_error hready]
    simp only [skip]
    split_ifs <;> rfl
  | ok report =>
    rw [notice?_of_ok hready]
    change (if report.isStale now settings.staleAfter && _ then _ else _) = _
    split_ifs <;> rfl

end Handler

/-! ## Whatever happens -/

/-- An entry of the log, with the time of the tick that wrote it. -/
structure LogLine where
  time : Duration
  entry : LogEntry Float

namespace Notice

/-- **When a notice was written**, in order. -/
def times (notice : Notice) (log : List LogLine) : List Duration :=
  (log.filter fun line => line.entry.message = notice.message).map (·.time)

theorem times_append (notice : Notice) (first second : List LogLine) :
    notice.times (first ++ second) = notice.times first ++ notice.times second := by
  simp only [times, List.filter_append, List.map_append]

theorem times_stamped (notice : Notice) (now : Duration) (entries : List (LogEntry Float)) :
    notice.times (entries.map (⟨now, ·⟩))
      = (entries.filter fun entry => entry.message = notice.message).map fun _ => now := by
  simp only [times, List.filter_map, List.map_map]
  rfl

/-- **Two notices of a kind are apart** by its period, in unbounded nanoseconds. -/
def Apart (notice : Notice) (earlier later : Duration) : Prop :=
  earlier.nanos + notice.period.nanos ≤ later.nanos

end Notice

/-- **What can happen to a handler.** -/
inductive Happening where
  /-- A tick, over whatever is reported by then, at whatever time, and whoever answers. -/
  | tick (store : Store) (now : Duration) (responder : Responder)
  /-- A snapshot is taken over, as a restart of the system does (`System.restore`). -/
  | restored (snap : HandlerSnapshot)

/-- There is occasion for a notice in a tick. -/
def Happening.HasOccasion (settings : FailsafeSettings) (notice : Notice) : Happening → Prop
  | tick store now _ => store.HasOccasion settings now notice
  | restored _ => False

namespace Handler

/-- What becomes of a handler, and what it writes. -/
def meet (handler : Handler) (settings : FailsafeSettings) : Happening → Handler × List LogLine
  | .tick store now responder =>
    let result := handler.tick settings store now responder
    (result.handler, result.entries.map (⟨now, ·⟩))
  | .restored snap => ({ handler with state := snap.state, pending := snap.pending }, [])

/-- **A handler's life**: what becomes of it over all that happens, and the whole log. -/
def live (handler : Handler) (settings : FailsafeSettings) :
    List Happening → Handler × List LogLine
  | [] => (handler, [])
  | happening :: happenings =>
    let (next, lines) := handler.meet settings happening
    let (last, log) := next.live settings happenings
    (last, lines ++ log)

/-- **A tick writes a notice once or not at all.** -/
theorem times_meet_tick (handler : Handler) (settings : FailsafeSettings) (store : Store)
    (now : Duration) (responder : Responder) (notice : Notice) :
    notice.times (handler.meet settings (.tick store now responder)).2
      = if handler.notice? settings store now = some notice then [now] else [] := by
  obtain ⟨age, timeout, others, hentries, hothers⟩ :=
    handler.entries_tick settings store now responder
  have hnone : others.filter (fun entry => entry.message = notice.message) = [] := by
    simpa [List.filter_eq_nil_iff] using fun entry hentry => hothers entry hentry notice
  rw [meet, Notice.times_stamped, hentries, List.filter_append, hnone, List.append_nil]
  cases handler.notice? settings store now with
  | none => rfl
  | some written =>
    by_cases h : written = notice
    · simp [h]
    · simp [h, Notice.message_injective.ne h]

end Handler

/-- **What a happening does about a kind of notice.** -/
inductive Noted (settings : FailsafeSettings) (notice : Notice) (happening : Happening)
    (before : Handler) (met : Handler × List LogLine) : Prop
  /-- It writes none, and nothing new is remembered. -/
  | silent (times : notice.times met.2 = [])
      (last : met.1.throttle.last? notice = before.throttle.last? notice)
  /-- A tick with occasion for it writes one that is due, and remembers when. -/
  | written (now : Duration) (times : notice.times met.2 = [now])
      (last : met.1.throttle.last? notice = some now)
      (occasion : happening.HasOccasion settings notice)
      (due : ∀ last ∈ before.throttle.last? notice, notice.Apart last now)

namespace Handler

/-- **Whatever happens is of one of the two kinds.** -/
theorem noted (handler : Handler) (settings : FailsafeSettings) (happening : Happening)
    (notice : Notice) :
    Noted settings notice happening handler (handler.meet settings happening) := by
  cases happening with
  | restored snap => exact .silent rfl rfl
  | tick store now responder =>
    have htimes := handler.times_meet_tick settings store now responder notice
    have hthrottle := handler.throttle_tick settings store now responder
    cases hnotice : handler.notice? settings store now with
    | none =>
      rw [hnotice] at htimes hthrottle
      exact .silent htimes (congrArg (·.last? notice) hthrottle)
    | some written =>
      rw [hnotice] at htimes hthrottle
      have hlast := (congrArg (·.last? notice) hthrottle).trans (Throttle.last?_mark ..)
      by_cases h : written = notice
      · subst h
        obtain ⟨hoccasion, hdue⟩ := notice?_eq_some_iff.1 hnotice
        exact .written now (htimes.trans (if_pos rfl)) (hlast.trans (if_pos rfl)) hoccasion hdue
      · exact .silent (htimes.trans (if_neg fun heq => h (Option.some.inj heq)))
          (hlast.trans (if_neg (Ne.symm h)))

theorem live_cons (handler : Handler) (settings : FailsafeSettings) (happening : Happening)
    (happenings : List Happening) :
    handler.live settings (happening :: happenings)
      = (((handler.meet settings happening).1.live settings happenings).1,
        (handler.meet settings happening).2
          ++ ((handler.meet settings happening).1.live settings happenings).2) := rfl

/-- **The throttle remembers the last notice of a kind**, and each one written is its period after
the one before, counting what the handler remembered at first. -/
theorem live_notes (handler : Handler) (settings : FailsafeSettings) (happenings : List Happening)
    (notice : Notice) :
    let lived := handler.live settings happenings
    let times := (handler.throttle.last? notice).toList ++ notice.times lived.2
    lived.1.throttle.last? notice = times.getLast? ∧ times.IsChain notice.Apart := by
  induction happenings generalizing handler with
  | nil =>
    simp only [live, Notice.times, List.filter_nil, List.map_nil, List.append_nil]
    cases handler.throttle.last? notice <;> simp
  | cons happening happenings ih =>
    obtain ⟨hlast, hchain⟩ := ih (handler.meet settings happening).1
    simp only [live_cons, Notice.times_append]
    rcases handler.noted settings happening notice with
      ⟨htimes, hkept⟩ | ⟨now, htimes, hnow, -, hdue⟩
    · rw [hkept] at hlast hchain
      rw [htimes, List.nil_append]
      exact ⟨hlast, hchain⟩
    · rw [hnow] at hlast hchain
      rw [htimes]
      cases hbefore : handler.throttle.last? notice with
      | none => exact ⟨hlast, hchain⟩
      | some last =>
        refine ⟨hlast.trans ?_, List.isChain_cons_cons.2 ⟨hdue last hbefore, hchain⟩⟩
        simp

/-- Without occasion for it a notice is never written. -/
theorem times_eq_nil_of_forall_not {handler : Handler} {settings : FailsafeSettings}
    {happenings : List Happening} {notice : Notice}
    (h : ∀ happening ∈ happenings, ¬ happening.HasOccasion settings notice) :
    notice.times (handler.live settings happenings).2 = [] := by
  induction happenings generalizing handler with
  | nil => rfl
  | cons happening happenings ih =>
    obtain ⟨hfirst, hrest⟩ := List.forall_mem_cons.1 h
    rw [live_cons, Notice.times_append, ih hrest, List.append_nil]
    rcases handler.noted settings happening notice with ⟨htimes, -⟩ | ⟨now, -, -, hoccasion, -⟩
    · exact htimes
    · exact absurd hoccasion hfirst

end Handler

/-- **Notices keep their spacing.**  Whatever happens to a new handler, at whatever times: of any
two notices of a kind that are written one after the other the second is written at least five
seconds after the first, or one second if they tell of a stale report.  A tick writes a notice,
once, exactly if there is occasion for it and this time has passed since the last one of its kind;
the first one there is occasion for is always written. -/
theorem notices_keep_spacing (settings : FailsafeSettings) (start : Duration)
    (happenings : List Happening) (notice : Notice) :
    let lived := (Handler.starting start).live settings happenings
    let times := notice.times lived.2
    let period := if notice = .staleReport then 1000000000 else 5000000000
    (times.IsChain fun earlier later => earlier < later ∧ earlier.nanos + period ≤ later.nanos)
      ∧ ∀ (store : Store) (now : Duration) (responder : Responder),
        let written := notice.times (lived.1.meet settings (.tick store now responder)).2
        (written = [now] ↔ store.HasOccasion settings now notice
            ∧ ∀ last ∈ times.getLast?, last.nanos + period ≤ now.nanos)
          ∧ (store.HasOccasion settings now notice →
            (∀ happening ∈ happenings, ¬ happening.HasOccasion settings notice) →
              written = [now]) := by
  intro lived times period
  have hperiod : period = notice.period.nanos := by
    cases notice <;> rfl
  obtain ⟨hlast, hchain⟩ : lived.1.throttle.last? notice = times.getLast?
      ∧ times.IsChain notice.Apart := by
    have hnew : (Handler.starting start).throttle.last? notice = none := by
      cases notice <;> rfl
    have hnotes := (Handler.starting start).live_notes settings happenings notice
    rwa [hnew] at hnotes
  have hwritten (store : Store) (now : Duration) (responder : Responder) :
      notice.times (lived.1.meet settings (.tick store now responder)).2 = [now]
        ↔ store.HasOccasion settings now notice
          ∧ ∀ last ∈ times.getLast?, last.nanos + period ≤ now.nanos := by
    rw [Handler.times_meet_tick, hperiod, ← hlast, ← Handler.notice?_eq_some_iff]
    simp
  refine ⟨hchain.imp fun earlier later h => ?_,
    fun store now responder => ⟨hwritten store now responder, ?_⟩⟩
  · have hpos := notice.period_pos
    have hapart : earlier.nanos + notice.period.nanos ≤ later.nanos := h
    rw [hperiod, Duration.lt_def]
    exact ⟨by omega, hapart⟩
  · intro hoccasion hnever
    have hnone : times = [] := Handler.times_eq_nil_of_forall_not hnever
    refine (hwritten store now responder).2 ⟨hoccasion, fun last hmem => ?_⟩
    rw [hnone] at hmem
    cases hmem

/-! ## In a system -/

namespace System

/-- What an event is to the handler of a system. -/
def happening? (system : System) : Event → Option Happening
  | .tick => some (.tick system.store system.now system.responder)
  | .write _ | .advance _ | .setTime _ => none

/-- What happens to the handler in a run of the system. -/
def happenings (system : System) : List Event → List Happening
  | [] => []
  | event :: events => (system.happening? event).toList ++ happenings (system.step event).1 events

/-- **A run of a system is a life of its handler**, with the same log. -/
theorem live_happenings (system : System) (events : List Event) :
    let lived := system.handler.live system.settings (system.happenings events)
    lived.1 = (system.after events).handler
      ∧ lived.2.map (·.entry) = (system.run events).2.flatMap (·.entries) := by
  induction events generalizing system with
  | nil => exact ⟨rfl, rfl⟩
  | cons event events ih =>
    obtain ⟨hlast, hlog⟩ := ih (system.step event).1
    rw [settings_step] at hlast hlog
    rw [run_cons_snd, List.flatMap_cons, ← hlog]
    cases event with
    | write _ | advance _ | setTime _ => exact ⟨hlast, rfl⟩
    | tick =>
      have hstamped (entries : List (LogEntry Float)) :
          (entries.map (LogLine.mk system.now)).map (·.entry) = entries := by
        rw [List.map_map]
        exact List.map_id entries
      refine ⟨hlast, ?_⟩
      rw [happenings, happening?, Option.toList_some, List.singleton_append, Handler.live_cons,
        List.map_append]
      exact congrArg (· ++ _) (hstamped _)

end System

/-- The report is old from half a second on, and the module of the emergency stop is out for a
while; the clock is set back before a last tick. -/
theorem latentFault_notices_spaced :
    let events := [.advance ⟨600000000, by decide⟩, .tick, .write (.emergencyStop .notAvailable),
      .tick, .advance (.ofSeconds 1), .tick, .write (.emergencyStop .available), .tick,
      .setTime ⟨700000000, by decide⟩, .tick]
    let settings := System.latentFault.settings
    let lived := (Handler.starting .zero).live settings (System.latentFault.happenings events)
    let store := { System.latentFault.store with emergencyStop := none }
    let now := ⟨5600000000, by decide⟩
    lived.2.map (·.entry) = (System.latentFault.run events).2.flatMap (·.entries)
      ∧ Notice.staleReport.times lived.2 = [⟨600000000, by decide⟩, ⟨1600000000, by decide⟩]
      ∧ (Notice.staleReport.times lived.2).IsChain (fun earlier later =>
        earlier < later ∧ earlier.nanos + 1000000000 ≤ later.nanos)
      ∧ Notice.awaitingEmergencyStop.times lived.2 = [⟨600000000, by decide⟩]
      ∧ store.HasOccasion settings now .awaitingEmergencyStop
      ∧ Notice.awaitingEmergencyStop.times
        (lived.1.meet settings (.tick store now {})).2 = [now] := by
  intro events settings lived store now
  have hlog : lived.2.map (·.entry) = (System.latentFault.run events).2.flatMap (·.entries) :=
    (System.latentFault.live_happenings events).2
  have hstale : Notice.staleReport.times lived.2
      = [⟨600000000, by decide⟩, ⟨1600000000, by decide⟩] := by decide +kernel
  have hawaiting : Notice.awaitingEmergencyStop.times lived.2 = [⟨600000000, by decide⟩] := by
    decide +kernel
  have hoccasion : store.HasOccasion settings now .awaitingEmergencyStop :=
    .noEmergencyStop _ rfl (by decide) (by decide)
  obtain ⟨hchain, -⟩ := notices_keep_spacing settings .zero
    (System.latentFault.happenings events) .staleReport
  obtain ⟨-, hwritten⟩ := notices_keep_spacing settings .zero
    (System.latentFault.happenings events) .awaitingEmergencyStop
  refine ⟨hlog, hstale, hchain, hawaiting, hoccasion,
    (hwritten store now {}).1.2 ⟨hoccasion, ?_⟩⟩
  intro last hlast
  obtain rfl : ⟨600000000, by decide⟩ = last := by
    rw [hawaiting] at hlast
    exact Option.some.inj hlast
  decide

end DriveDecision
