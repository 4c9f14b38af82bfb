import DriveDecision.Proofs.Failsafe.History

/-!
# Proofs/Failsafe/OpenCalls — the queue mirrors the calls made

The queue of open calls is no memory of its own.  After any run of a new handler it holds, for each
maneuver, the last call made if that was not answered, and nothing else (`Mirrors`); and each last
call agrees with the record.  So no call is lost, none comes back, and none is made twice.
-/

namespace DriveDecision

variable {pending : List Call} {issued made : List (Call × Answer)} {old new m : Maneuver}
  {call : Call} {a : Call × Answer}

/-! ## The last call to a module -/

/-- The calls of one maneuver. -/
def callsTo (m : Maneuver) (issued : List (Call × Answer)) : List (Call × Answer) :=
  issued.filter fun a => a.1.maneuver = m

/-- **The last call of a maneuver**, with its answer. -/
def lastCall (m : Maneuver) (issued : List (Call × Answer)) : Option (Call × Answer) :=
  (callsTo m issued).getLast?

/-- A later call replaces an earlier one. -/
theorem lastCall_append_eq_some_iff {first second : List (Call × Answer)} :
    lastCall m (first ++ second) = some a
      ↔ lastCall m second = some a ∨ (lastCall m second = none ∧ lastCall m first = some a) := by
  rw [lastCall, callsTo, List.filter_append, List.getLast?_append, Option.or_eq_some_iff]
  rfl

theorem lastCall_eq_none_iff : lastCall m issued = none ↔ ∀ a ∈ issued, a.1.maneuver ≠ m := by
  simp [lastCall, callsTo]

theorem mem_of_lastCall (h : lastCall m issued = some a) : a ∈ issued ∧ a.1.maneuver = m := by
  simpa [callsTo] using List.mem_of_getLast? h

/-- Where no maneuver is called twice, a call is the last of its maneuver. -/
theorem lastCall_eq_some_iff (hnodup : (issued.map (·.1.maneuver)).Nodup) :
    lastCall m issued = some a ↔ a ∈ issued ∧ a.1.maneuver = m := by
  refine ⟨mem_of_lastCall, fun ⟨hmem, hm⟩ => ?_⟩
  rcases hlast : lastCall m issued with _ | b
  · exact absurd hm (lastCall_eq_none_iff.1 hlast a hmem)
  · obtain ⟨hbmem, hbm⟩ := mem_of_lastCall hlast
    exact congrArg some (List.inj_on_of_nodup_map hnodup hbmem hmem (hbm.trans hm.symm))

/-! ## The calls a tick makes

`made` are the calls of one tick with their answers. -/

section Made

variable (hmade : made.map (·.1) = callsToward pending old new)
include hmade

theorem mem_callsToward_of_made (ha : a ∈ made) : a.1 ∈ callsToward pending old new :=
  hmade ▸ List.mem_map_of_mem ha

/-- Every call of a tick is the last of its maneuver. -/
theorem lastCall_made_iff : lastCall m made = some a ↔ a ∈ made ∧ a.1.maneuver = m := by
  have hnodup : ((callsToward pending old new).map (·.maneuver)).Nodup :=
    nodup_map_maneuver_callsToward
  rw [← hmade, List.map_map] at hnodup
  exact lastCall_eq_some_iff hnodup

theorem not_called_of_lastCall_made (h : lastCall m made = none) :
    ∀ c ∈ callsToward pending old new, c.maneuver ≠ m := by
  intro c hc
  rw [← hmade] at hc
  obtain ⟨a, ha, rfl⟩ := List.mem_map.1 hc
  exact lastCall_eq_none_iff.1 h a ha

theorem nodup_unanswered : (unanswered made).Nodup := by
  have hsub : (unanswered made).Sublist (made.map (·.1)) := List.filter_sublist.map _
  rw [hmade] at hsub
  exact nodup_callsToward.sublist hsub

end Made

/-! ## The invariant -/

/-- **The queue mirrors the calls made.** -/
structure Mirrors (recorded : Maneuver) (pending : List Call) (issued : List (Call × Answer)) :
    Prop where
  nodup : pending.Nodup
  /-- A call is open if it is the last of its maneuver and was not answered. -/
  mem_pending : ∀ call, call ∈ pending
    ↔ ∃ answer, lastCall call.maneuver issued = some (call, answer) ∧ answer.isOpen = true
  /-- The last calls agree with the record. -/
  isWanted : ∀ m a, lastCall m issued = some a → a.1.isWanted recorded
  /-- No module is called for no maneuver. -/
  uncalled_none : lastCall .none issued = none

namespace Mirrors

/-- Nothing recorded, nothing called, nothing open. -/
theorem start : Mirrors .none [] [] where
  nodup := List.nodup_nil
  mem_pending := fun call => by simp [lastCall, callsTo]
  isWanted := fun m a h => by simp [lastCall, callsTo] at h
  uncalled_none := rfl

/-- An open call agrees with the record. -/
theorem isWanted_of_mem (h : Mirrors old pending issued) (hmem : call ∈ pending) :
    call.isWanted old := by
  obtain ⟨answer, hlast, -⟩ := (h.mem_pending call).1 hmem
  exact h.isWanted _ _ hlast

/-- There is no open call for no maneuver. -/
theorem maneuver_ne_none (h : Mirrors old pending issued) : ∀ c ∈ pending, c.maneuver ≠ .none := by
  intro c hmem hnone
  obtain ⟨answer, hlast, -⟩ := (h.mem_pending c).1 hmem
  rw [hnone, h.uncalled_none] at hlast
  cases hlast

/-- No open call is left alone by a tick: it is made again, or its opposite is made. -/
theorem called_of_mem (h : Mirrors old pending issued) (hmem : call ∈ pending) :
    ∃ c ∈ callsToward pending old new, c.maneuver = call.maneuver := by
  by_contra! hnot
  have hm := h.maneuver_ne_none call hmem
  have hiff := eq_old_iff_eq_new_of_not_called hm hnot
  have hw : call.isWanted new := by
    rw [Call.isWanted_iff, ← hiff]
    exact Call.isWanted_iff.1 (h.isWanted_of_mem hmem)
  exact hnot call (mem_callsToward.2 (Or.inl ⟨hmem, hw⟩)) rfl

section Published

variable (h : Mirrors old pending issued) (hmade : made.map (·.1) = callsToward pending old new)
include h hmade

/-- After a tick the open calls are the unanswered ones of that tick: an earlier one would have been
called again. -/
theorem mem_unanswered_iff : call ∈ unanswered made
    ↔ ∃ answer, lastCall call.maneuver (issued ++ made) = some (call, answer)
      ∧ answer.isOpen = true := by
  rw [mem_unanswered]
  constructor
  · rintro ⟨answer, hmem, hopen⟩
    exact ⟨answer, lastCall_append_eq_some_iff.2
      (Or.inl ((lastCall_made_iff hmade).2 ⟨hmem, rfl⟩)), hopen⟩
  · rintro ⟨answer, hlast, hopen⟩
    rcases lastCall_append_eq_some_iff.1 hlast with hlast | ⟨hnone, hlast⟩
    · exact ⟨answer, ((lastCall_made_iff hmade).1 hlast).1, hopen⟩
    · have hmem : call ∈ pending := (h.mem_pending call).2 ⟨answer, hlast, hopen⟩
      obtain ⟨c, hc, hcm⟩ : ∃ c ∈ callsToward pending old new, c.maneuver = call.maneuver :=
        h.called_of_mem hmem
      exact absurd hcm (not_called_of_lastCall_made hmade hnone c hc)

/-- After a tick the last calls agree with the new record: a maneuver that is not called is recorded
after the tick as it was before. -/
theorem isWanted_published (hlast : lastCall m (issued ++ made) = some a) : a.1.isWanted new := by
  rcases lastCall_append_eq_some_iff.1 hlast with hlast | ⟨hnone, hlast⟩
  · exact isWanted_of_mem_callsToward
      (mem_callsToward_of_made hmade ((lastCall_made_iff hmade).1 hlast).1)
  · have hm : a.1.maneuver = m := (mem_of_lastCall hlast).2
    have hne : m ≠ .none := by
      rintro rfl
      rw [h.uncalled_none] at hlast
      cases hlast
    have hiff : m = old ↔ m = new :=
      eq_old_iff_eq_new_of_not_called hne (not_called_of_lastCall_made hmade hnone)
    rw [Call.isWanted_iff, hm, ← hiff, ← hm]
    exact Call.isWanted_iff.1 (h.isWanted m a hlast)

theorem uncalled_none_published : lastCall .none (issued ++ made) = none := by
  rw [lastCall_eq_none_iff]
  intro a ha
  rcases List.mem_append.1 ha with ha | ha
  · exact lastCall_eq_none_iff.1 h.uncalled_none a ha
  · exact maneuver_ne_none_of_mem_callsToward h.maneuver_ne_none (mem_callsToward_of_made hmade ha)

/-- **A tick keeps the mirror.** -/
theorem published : Mirrors new (unanswered made) (issued ++ made) where
  nodup := nodup_unanswered hmade
  mem_pending := fun _ => h.mem_unanswered_iff hmade
  isWanted := fun _ _ => h.isWanted_published hmade
  uncalled_none := h.uncalled_none_published hmade

end Published

/-- **An open call is made again**, unless the record has changed so that its opposite is made. -/
theorem reissued (h : Mirrors old pending issued) (hmem : call ∈ pending) :
    (call ∈ callsToward pending old new ∧ call.opposite ∉ callsToward pending old new)
      ∨ (new ≠ old ∧ call ∉ callsToward pending old new
        ∧ call.opposite ∈ callsToward pending old new) := by
  have hold := h.isWanted_of_mem hmem
  have hm := h.maneuver_ne_none call hmem
  by_cases hw : call.isWanted new
  · exact Or.inl ⟨mem_callsToward.2 (Or.inl ⟨hmem, hw⟩),
      fun hopp => Call.not_isWanted_opposite hw (isWanted_of_mem_callsToward hopp)⟩
  · have hne : new ≠ old := by
      rintro rfl
      exact hw hold
    refine Or.inr ⟨hne, fun hcall => hw (isWanted_of_mem_callsToward hcall), ?_⟩
    rw [Call.isWanted_iff] at hw hold
    obtain ⟨maneuver, operate⟩ := call
    cases operate with
    | true =>
      obtain rfl : maneuver = old := hold.1 rfl
      exact cancel_mem_callsToward hne.symm hm
    | false =>
      obtain rfl : maneuver = new := by simpa using hw
      exact activate_mem_callsToward hne.symm hm

/-- Of a maneuver that was called for, the last call is what may be open. -/
theorem of_lastCall {answer : Answer} (h : Mirrors old pending issued)
    (hlast : lastCall m issued = some (call, answer)) :
    m ≠ .none ∧ (call.operate = true ↔ m = old)
      ∧ ∀ queued, (queued ∈ pending ∧ queued.maneuver = m)
        ↔ (queued = call ∧ answer.isOpen = true) := by
  have hm : call.maneuver = m := (mem_of_lastCall hlast).2
  refine ⟨?_, ?_, fun queued => ⟨fun ⟨hmem, hqm⟩ => ?_, fun ⟨heq, hopen⟩ => ?_⟩⟩
  · rintro rfl
    rw [h.uncalled_none] at hlast
    cases hlast
  · rw [← hm]
    exact Call.isWanted_iff.1 (h.isWanted m _ hlast)
  · obtain ⟨answer', hlast', hopen⟩ := (h.mem_pending queued).1 hmem
    rw [hqm, hlast, Option.some.injEq, Prod.mk.injEq] at hlast'
    exact ⟨hlast'.1.symm, hlast'.2 ▸ hopen⟩
  · subst heq
    exact ⟨(h.mem_pending queued).2 ⟨answer, hm.symm ▸ hlast, hopen⟩, hm⟩

/-- …and of one that never was, nothing is. -/
theorem of_uncalled (h : Mirrors old pending issued) (hnone : lastCall m issued = none) :
    ∀ queued ∈ pending, queued.maneuver ≠ m := by
  intro queued hmem hm
  obtain ⟨answer, hlast, -⟩ := (h.mem_pending queued).1 hmem
  rw [hm, hnone] at hlast
  cases hlast

end Mirrors

namespace System

/-- **Every step keeps the mirror.** -/
theorem step_mirrors {system : System} {event : Event}
    (h : Mirrors system.handler.state.maneuver system.handler.pending issued) :
    Mirrors (system.step event).1.handler.state.maneuver (system.step event).1.handler.pending
      (issued ++ (system.step event).2.issued) := by
  rcases system.step_moved event with ⟨hstate, hpending, -, hissued⟩ | ⟨-, hcalls, hpending⟩
  · rwa [hstate, hpending, hissued, List.append_nil]
  · rw [hpending]
    exact h.published hcalls

/-- A tick that publishes makes every open call again, or the opposite one. -/
theorem step_reissues {system : System} {event : Event} {out : HandlerOutput}
    (h : Mirrors system.handler.state.maneuver system.handler.pending issued)
    (hout : (system.step event).2.output = some out) (hmem : call ∈ system.handler.pending) :
    (call ∈ (system.step event).2.calls ∧ call.opposite ∉ (system.step event).2.calls)
      ∨ (out.state.maneuver ≠ system.handler.state.maneuver
        ∧ call ∉ (system.step event).2.calls ∧ call.opposite ∈ (system.step event).2.calls) := by
  rcases system.step_moved event with ⟨-, -, hnone, -⟩ | ⟨⟨out', hout', hrec⟩, hcalls, -⟩
  · rw [hout] at hnone
    cases hnone
  · obtain rfl : out' = out := Option.some.inj (hout'.symm.trans hout)
    rw [hcalls, hrec]
    exact h.reissued hmem

/-- **The queue of a new handler mirrors its calls, after any run.** -/
theorem after_mirrors (settings : FailsafeSettings) (clock : Clock) (store : Store)
    (responder : Responder) (events : List Event) :
    let system := fresh settings clock store responder
    Mirrors (system.after events).handler.state.maneuver (system.after events).handler.pending
      (system.issued events) :=
  run_induction (motive := fun system reactions => Mirrors system.handler.state.maneuver
      system.handler.pending (reactions.flatMap (·.issued)))
    Mirrors.start
    (fun system reactions event h => by
      rw [List.flatMap_append, List.flatMap_singleton]
      exact step_mirrors h)
    events

end System

/-! ## What the queue holds -/

/-- **An open call is neither lost nor brought back.**  After any run of a new handler, of every
maneuver that was ever called for: the last call runs it exactly if it is recorded, and that call is
open, and no other one of the maneuver, exactly if it was not answered.  What was never called for
has no open call, and no call is open twice.  The next tick that publishes makes every open call
again, unless it changes the record so that the opposite call is made. -/
theorem queue_mirrors_history (settings : FailsafeSettings) (clock : Clock) (store : Store)
    (responder : Responder) (events : List Event) :
    let start := System.fresh settings clock store responder
    let system := start.after events
    (∀ m call answer, lastCall m (start.issued events) = some (call, answer) →
        m ≠ .none ∧ (call.operate = true ↔ m = system.handler.state.maneuver)
          ∧ ∀ queued, (queued ∈ system.handler.pending ∧ queued.maneuver = m)
              ↔ (queued = call ∧ answer.isOpen = true))
      ∧ (∀ m, lastCall m (start.issued events) = none →
          ∀ queued ∈ system.handler.pending, queued.maneuver ≠ m)
      ∧ system.handler.pending.Nodup
      ∧ ∀ idle next out, (∀ reaction ∈ (system.run idle).2, reaction.output = none) →
          ((system.after idle).step next).2.output = some out →
          ∀ queued ∈ system.handler.pending,
            let calls := ((system.after idle).step next).2.calls
            (queued ∈ calls ∧ queued.opposite ∉ calls)
              ∨ (out.state.maneuver ≠ system.handler.state.maneuver
                ∧ queued ∉ calls ∧ queued.opposite ∈ calls) := by
  intro start system
  have hmirrors : Mirrors system.handler.state.maneuver system.handler.pending
      (start.issued events) := System.after_mirrors settings clock store responder events
  refine ⟨fun m call answer => hmirrors.of_lastCall, fun m => hmirrors.of_uncalled,
    hmirrors.nodup, ?_⟩
  intro idle next out hidle hout queued hmem
  obtain ⟨hstate, hpending⟩ := System.after_eq_of_output_eq_none hidle
  rw [← hstate]
  rw [← hstate, ← hpending] at hmirrors
  exact System.step_reissues hmirrors hout (hpending ▸ hmem)

/-- The unanswered activation of the comfortable stop stays open over the skipped tick, and gives
way to its cancellation when the emergency stop takes over. -/
theorem latentFault_reissues :
    let system := System.latentFault.after [.tick]
    let next := (system.after System.worseAfterOutage).step .tick
    lastCall .comfortableStop (System.latentFault.issued [.tick])
        = some (⟨.comfortableStop, true⟩, .silent)
      ∧ lastCall .emergencyStop (System.latentFault.issued [.tick]) = none
      ∧ (∀ reaction ∈ (system.run System.worseAfterOutage).2, reaction.output = none)
      ∧ next.2.output = some ⟨.enable, .drive, ⟨.operating, .emergencyStop, .zero⟩⟩
      ∧ ⟨.comfortableStop, true⟩ ∈ system.handler.pending
      ∧ ⟨.emergencyStop, false⟩ ∉ system.handler.pending
      ∧ ⟨.comfortableStop, false⟩ ∈ next.2.calls := by
  intro system next
  have hcall : lastCall .comfortableStop (System.latentFault.issued [.tick])
      = some (⟨.comfortableStop, true⟩, .silent) := by decide +kernel
  have hnone : lastCall .emergencyStop (System.latentFault.issued [.tick]) = none := by
    decide +kernel
  have hidle : ∀ reaction ∈ (system.run System.worseAfterOutage).2, reaction.output = none := by
    decide +kernel
  have hout : next.2.output = some ⟨.enable, .drive, ⟨.operating, .emergencyStop, .zero⟩⟩ := by
    decide +kernel
  obtain ⟨hlast, huncalled, -, hnext⟩ := queue_mirrors_history System.latentFault.settings
    System.latentFault.clock System.latentFault.store System.latentFault.responder [.tick]
  have hopen : ⟨.comfortableStop, true⟩ ∈ system.handler.pending :=
    (((hlast _ _ _ hcall).2.2 _).2 ⟨rfl, rfl⟩).1
  refine ⟨hcall, hnone, hidle, hout, hopen, fun hmem => huncalled _ hnone _ hmem rfl, ?_⟩
  rcases hnext System.worseAfterOutage .tick _ hidle hout _ hopen with ⟨hmem, -⟩ | ⟨-, -, hopposite⟩
  · exact absurd hmem (by decide +kernel)
  · exact hopposite

end DriveDecision
