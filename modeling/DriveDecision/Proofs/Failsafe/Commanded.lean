import DriveDecision.Proofs.Failsafe.History
import Mathlib.Logic.Function.Basic

/-!
# Proofs/Failsafe/Commanded — at most one maneuver is commanded on

Read as orders, answered or not, the calls made so far leave some modules on and the others off
(`commandedOn`).  Cancellations go first, so by the time a tick activates a module every other one
is off (`cancel_mem_of_activate_mem`): at most one is on at any moment, in the middle of a tick too,
and between ticks it is the recorded one (`Obeys`).
-/

namespace DriveDecision

variable {on : Maneuver → Bool} {pending calls sent made : List Call} {old new m m' : Maneuver}

/-! ## Replaying calls -/

/-- What is on after a call. -/
def Call.apply (on : Maneuver → Bool) (call : Call) : Maneuver → Bool :=
  Function.update on call.maneuver call.operate

/-- What is on after some calls. -/
def replay (on : Maneuver → Bool) (calls : List Call) : Maneuver → Bool := calls.foldl Call.apply on

/-- **What the calls made so far leave on**, with everything off before the first. -/
def commandedOn (calls : List Call) : Maneuver → Bool := replay (fun _ => false) calls

theorem replay_cons {call : Call} : replay on (call :: calls) = replay (call.apply on) calls := rfl

theorem commandedOn_append : commandedOn (calls ++ made) = replay (commandedOn calls) made :=
  List.foldl_append

/-- A module that is on was activated, or was on before and not cancelled. -/
theorem activated_or_kept (h : replay on calls m = true) :
    ⟨m, true⟩ ∈ calls ∨ (on m = true ∧ ⟨m, false⟩ ∉ calls) := by
  induction calls generalizing on with
  | nil => exact Or.inr ⟨h, List.not_mem_nil⟩
  | cons call calls ih =>
    rw [replay_cons] at h
    rcases ih h with hmem | ⟨hon, hnot⟩
    · exact Or.inl (List.mem_cons_of_mem _ hmem)
    · obtain ⟨maneuver, operate⟩ := call
      by_cases hm : m = maneuver
      · subst hm
        obtain rfl : operate = true := by simpa [Call.apply] using hon
        exact Or.inl (List.mem_cons_self ..)
      · refine Or.inr ⟨by simpa [Call.apply, hm] using hon, ?_⟩
        simpa [hm] using hnot

/-- A module that is not cancelled is on if it was on before or is activated. -/
theorem replay_of_not_cancelled (hnot : ⟨m, false⟩ ∉ calls)
    (h : on m = true ∨ ⟨m, true⟩ ∈ calls) : replay on calls m = true := by
  induction calls generalizing on with
  | nil => simpa [replay] using h
  | cons call calls ih =>
    obtain ⟨maneuver, operate⟩ := call
    refine ih (fun hmem => hnot (List.mem_cons_of_mem _ hmem)) ?_
    by_cases hm : m = maneuver
    · subst hm
      cases operate with
      | true => exact Or.inl (by simp [Call.apply])
      | false => exact absurd (List.mem_cons_self ..) hnot
    · rcases h with hon | hmem
      · exact Or.inl (by simpa [Call.apply, hm] using hon)
      · exact Or.inr (by simpa [hm] using hmem)

/-! ## The calls of a tick -/

/-- Exactly the recorded maneuver is on, and nothing if none is recorded. -/
def IsOnly (recorded : Maneuver) (on : Maneuver → Bool) : Prop :=
  ∀ m, on m = true ↔ m = recorded ∧ m ≠ .none

/-- **Once a tick activates a module, all its cancellations were sent.** -/
theorem cancel_mem_of_activate_mem (hsent : sent <+: callsToward pending old new)
    (hon : ⟨m, true⟩ ∈ sent) (hoff : ⟨m', false⟩ ∈ callsToward pending old new) :
    ⟨m', false⟩ ∈ sent := by
  obtain ⟨cancels, activations, happend, hcancels, hactivations⟩ :
    ∃ cancels activations : List Call, callsToward pending old new = cancels ++ activations ∧ _ :=
      callsToward_eq_append
  rw [happend] at hsent hoff
  rcases List.prefix_or_prefix_of_prefix hsent (List.prefix_append ..) with hpre | hpre
  · have := hcancels _ (hpre.subset hon)
    simp at this
  · rcases List.mem_append.1 hoff with hmem | hmem
    · exact hpre.subset hmem
    · have := hactivations _ hmem
      simp at this

/-- In the middle of a tick a module is on if it was activated for the new maneuver, or if it was on
for the old one and was not cancelled yet. -/
theorem on_of_sent (hsettled : IsOnly old on) (hsent : sent <+: callsToward pending old new)
    (h : replay on sent m = true) :
    (m = new ∧ ⟨m, true⟩ ∈ sent) ∨ (m = old ∧ m ≠ .none ∧ ⟨m, false⟩ ∉ sent) := by
  rcases activated_or_kept h with hmem | ⟨hon, hnot⟩
  · have hwanted := isWanted_of_mem_callsToward (hsent.subset hmem)
    exact Or.inl ⟨(Call.isWanted_iff.1 hwanted).1 rfl, hmem⟩
  · obtain ⟨hm, hne⟩ := (hsettled m).1 hon
    exact Or.inr ⟨hm, hne, hnot⟩

/-- The old maneuver is off before the new one is on. -/
theorem old_eq_new_of_sent (hsent : sent <+: callsToward pending old new)
    (hactivated : ⟨new, true⟩ ∈ sent) (hne : old ≠ .none) (hkept : ⟨old, false⟩ ∉ sent) :
    old = new := by
  by_contra hchange
  exact hkept (cancel_mem_of_activate_mem hsent hactivated (cancel_mem_callsToward hchange hne))

/-- **At every moment of a tick at most one module is on.** -/
theorem eq_of_on_of_sent (hsettled : IsOnly old on) (hsent : sent <+: callsToward pending old new)
    (h : replay on sent m = true) (h' : replay on sent m' = true) : m = m' := by
  rcases on_of_sent hsettled hsent h with ⟨rfl, hactivated⟩ | ⟨rfl, hne, hkept⟩
  · rcases on_of_sent hsettled hsent h' with ⟨rfl, -⟩ | ⟨rfl, hne, hkept⟩
    · rfl
    · exact (old_eq_new_of_sent hsent hactivated hne hkept).symm
  · rcases on_of_sent hsettled hsent h' with ⟨rfl, hactivated⟩ | ⟨rfl, -, -⟩
    · exact old_eq_new_of_sent hsent hactivated hne hkept
    · rfl

/-- **After a tick exactly the maneuver it records is on.** -/
theorem isOnly_replay (hsettled : IsOnly old on) (hp : ∀ c ∈ pending, c.maneuver ≠ .none) :
    IsOnly new (replay on (callsToward pending old new)) := by
  intro m
  constructor
  · intro h
    rcases on_of_sent hsettled List.prefix_rfl h with ⟨rfl, hactivated⟩ | ⟨rfl, hne, hkept⟩
    · exact ⟨rfl, maneuver_ne_none_of_mem_callsToward hp hactivated⟩
    · refine ⟨?_, hne⟩
      by_contra hchange
      exact hkept (cancel_mem_callsToward hchange hne)
  · rintro ⟨rfl, hne⟩
    -- a cancellation of the new maneuver would not be wanted
    refine replay_of_not_cancelled (fun hmem => ?_) ?_
    · simpa using Call.isWanted_iff.1 (isWanted_of_mem_callsToward hmem)
    · by_cases hchange : old = m
      · exact Or.inl ((hsettled m).2 ⟨hchange.symm, hne⟩)
      · exact Or.inr (activate_mem_callsToward hchange hne)

/-! ## Whole runs -/

/-- **What the calls of a run keep to.** -/
structure Obeys (recorded : Maneuver) (pending : List Call) (calls : List Call) : Prop where
  pending_ne_none : ∀ c ∈ pending, c.maneuver ≠ .none
  /-- Between ticks exactly the recorded maneuver is on. -/
  isOnly : IsOnly recorded (commandedOn calls)
  /-- At any moment at most one is. -/
  exclusive : ∀ sent, sent <+: calls → ∀ m m', commandedOn sent m = true →
    commandedOn sent m' = true → m = m'

namespace Obeys

theorem start : Obeys .none [] [] where
  pending_ne_none := fun c hmem => absurd hmem List.not_mem_nil
  isOnly := fun m => by simp [commandedOn, replay]
  exclusive := by
    rintro sent hsent m m' h -
    obtain rfl := List.prefix_nil.1 hsent
    simp [commandedOn, replay] at h

/-- A tick obeys. -/
theorem published {issued : List (Call × Answer)} (h : Obeys old pending calls)
    (hmade : issued.map (·.1) = callsToward pending old new) :
    Obeys new (unanswered issued) (calls ++ issued.map (·.1)) where
  pending_ne_none := by
    intro c hmem
    obtain ⟨answer, hissued, -⟩ := mem_unanswered.1 hmem
    have hcall : c ∈ issued.map (·.1) := List.mem_map_of_mem (f := (·.1)) hissued
    rw [hmade] at hcall
    exact maneuver_ne_none_of_mem_callsToward h.pending_ne_none hcall
  isOnly := by
    rw [commandedOn_append, hmade]
    exact isOnly_replay h.isOnly h.pending_ne_none
  exclusive := by
    intro sent hsent m m' hon hon'
    rw [hmade] at hsent
    -- what was sent ends before this tick, or in the middle of it
    rcases List.prefix_or_prefix_of_prefix hsent (List.prefix_append ..) with hpre | ⟨rest, rfl⟩
    · exact h.exclusive sent hpre m m' hon hon'
    · rw [commandedOn_append] at hon hon'
      exact eq_of_on_of_sent h.isOnly ((List.prefix_append_right_inj calls).1 hsent) hon hon'

end Obeys

namespace System

/-- **Every step obeys, and makes at most two calls.** -/
theorem step_obeys {system : System} {event : Event}
    (h : Obeys system.handler.state.maneuver system.handler.pending calls) :
    Obeys (system.step event).1.handler.state.maneuver (system.step event).1.handler.pending
        (calls ++ (system.step event).2.calls)
      ∧ (system.step event).2.calls.length ≤ 2 := by
  rcases system.step_moved event with ⟨hstate, hpending, -, hissued⟩ | ⟨-, hcalls, hpending⟩
  · have hcalls : (system.step event).2.calls = [] := by
      rw [Reaction.calls, hissued]
      rfl
    rw [hstate, hpending, hcalls, List.append_nil]
    exact ⟨h, Nat.zero_le _⟩
  · rw [hpending]
    refine ⟨h.published hcalls, ?_⟩
    rw [hcalls]
    exact length_callsToward_le h.pending_ne_none

/-- **A new handler obeys throughout any run.** -/
theorem after_obeys (settings : FailsafeSettings) (clock : Clock) (store : Store)
    (responder : Responder) (events : List Event) :
    let system := fresh settings clock store responder
    Obeys (system.after events).handler.state.maneuver (system.after events).handler.pending
        (system.calls events)
      ∧ ∀ reaction ∈ (system.run events).2, reaction.calls.length ≤ 2 := by
  refine run_induction (motive := fun system reactions =>
      Obeys system.handler.state.maneuver system.handler.pending (reactions.flatMap (·.calls))
        ∧ ∀ reaction ∈ reactions, reaction.calls.length ≤ 2)
    ?_ ?_ events
  · exact ⟨Obeys.start, fun reaction hmem => absurd hmem List.not_mem_nil⟩
  · rintro system reactions event ⟨hobeys, hlength⟩
    obtain ⟨hobeys', hlength'⟩ :
      Obeys _ _ (_ ++ (system.step event).2.calls) ∧ _ := step_obeys hobeys
    rw [List.flatMap_append, List.flatMap_singleton]
    refine ⟨hobeys', fun reaction hmem => ?_⟩
    rcases List.mem_append.1 hmem with hmem | hmem
    · exact hlength reaction hmem
    · obtain rfl := List.mem_singleton.1 hmem
      exact hlength'

end System

/-- **At most one maneuver is ever commanded on.**  Whatever a new handler is told and whatever the
modules answer: at every moment of a run, in the middle of a tick too, the calls made so far leave
at most one maneuver on; after the run they leave on the recorded maneuver and nothing else; and no
tick makes more than two calls. -/
theorem at_most_one_commanded (settings : FailsafeSettings) (clock : Clock) (store : Store)
    (responder : Responder) (events : List Event) :
    let start := System.fresh settings clock store responder
    (∀ sent, sent <+: start.calls events → ∀ m m', commandedOn sent m = true →
        commandedOn sent m' = true → m = m')
      ∧ (∀ m, commandedOn (start.calls events) m = true
          ↔ m = (start.after events).handler.state.maneuver ∧ m ≠ .none)
      ∧ ∀ reaction ∈ (start.run events).2, reaction.calls.length ≤ 2 := by
  intro start
  obtain ⟨hobeys, hlength⟩ := System.after_obeys settings clock store responder events
  exact ⟨hobeys.exclusive, hobeys.isOnly, hlength⟩

/-- When the emergency stop takes over, the comfortable stop is cancelled first: between the two
calls nothing is on. -/
theorem latentFault_hands_over :
    let events := [.tick] ++ System.worseAfterOutage ++ [.tick]
    let calls : List Call :=
      [⟨.comfortableStop, true⟩, ⟨.comfortableStop, false⟩, ⟨.emergencyStop, true⟩]
    System.latentFault.calls events = calls
      ∧ commandedOn (calls.take 1) .comfortableStop = true
      ∧ (∀ m, commandedOn (calls.take 1) m = true → m = .comfortableStop)
      ∧ commandedOn calls .emergencyStop = true := by
  intro events calls
  have hcalls : System.latentFault.calls events = calls := by decide +kernel
  have hon : commandedOn (calls.take 1) .comfortableStop = true := by decide +kernel
  have hrecorded : (System.latentFault.after events).handler.state.maneuver = .emergencyStop := by
    decide +kernel
  obtain ⟨hexclusive, honly, -⟩ := at_most_one_commanded System.latentFault.settings
    System.latentFault.clock System.latentFault.store System.latentFault.responder events
  have hsent : calls.take 1 <+: System.latentFault.calls events := by
    rw [hcalls]
    exact List.take_prefix 1 calls
  refine ⟨hcalls, hon, fun m hm => hexclusive _ hsent m _ hm hon, ?_⟩
  rw [← hcalls]
  exact (honly .emergencyStop).2 ⟨hrecorded.symm, by decide⟩

end DriveDecision
