import DriveDecision.Failsafe.Handler
import Mathlib.Data.List.Nodup
import Mathlib.Data.List.Perm.Subperm

/-!
# Proofs/Failsafe/TickCalls — the calls of one tick

    open calls ──still wanted──▸ ┐
                                 ├──▸ cancellations ──▸ activations
    change of maneuver ────────▸ ┘

Every call of a tick is wanted by the maneuver the tick records (`isWanted_of_mem_callsToward`), so
the maneuver a call is for decides the call: a tick never calls a module twice
(`nodup_map_maneuver_callsToward`).
-/

namespace DriveDecision

namespace Call

/-- The call that takes this one back. -/
def opposite (call : Call) : Call := { call with operate := !call.operate }

/-- **A call is wanted if it runs exactly the recorded maneuver.** -/
theorem isWanted_iff {call : Call} {recorded : Maneuver} :
    call.isWanted recorded = true ↔ (call.operate = true ↔ call.maneuver = recorded) := by
  unfold isWanted
  cases call.operate <;> simp

/-- Of the calls for one maneuver only one is wanted. -/
theorem eq_of_isWanted {a b : Call} {recorded : Maneuver} (ha : a.isWanted recorded)
    (hb : b.isWanted recorded) (h : a.maneuver = b.maneuver) : a = b := by
  obtain ⟨maneuver, operate⟩ := a
  obtain ⟨maneuver', operate'⟩ := b
  obtain rfl : maneuver = maneuver' := h
  obtain rfl : operate = operate' :=
    Bool.eq_iff_iff.2 ((isWanted_iff.1 ha).trans (isWanted_iff.1 hb).symm)
  rfl

/-- …and its opposite is not. -/
theorem not_isWanted_opposite {call : Call} {recorded : Maneuver} (h : call.isWanted recorded) :
    ¬ call.opposite.isWanted recorded := by
  intro h'
  have heq : call.operate = !call.operate := congrArg Call.operate (eq_of_isWanted h h' rfl)
  simp at heq

end Call

/-! ## What the calls are -/

/-- **The calls of a tick that moves the record from one maneuver to another.** -/
def callsToward (pending : List Call) (old new : Maneuver) : List Call :=
  callsFor pending (ManeuverChange.between old new) new

variable {pending : List Call} {old new : Maneuver} {call : Call}

theorem Maneuver.mem_some? {m m' : Maneuver} : m' ∈ m.some?.toList ↔ m' = m ∧ m ≠ .none := by
  cases m <;> simp [Maneuver.some?]

/-- A change cancels the old maneuver and activates the new one, and never calls for none. -/
theorem mem_calls_between :
    call ∈ (ManeuverChange.between old new).toList.flatMap (·.calls)
      ↔ old ≠ new ∧ call.maneuver ≠ .none ∧ (call = ⟨old, false⟩ ∨ call = ⟨new, true⟩) := by
  by_cases h : old = new
  · simp [ManeuverChange.between, h]
  · simp only [ManeuverChange.between, if_neg h, Option.toList_some, List.flatMap_cons,
      List.flatMap_nil, List.append_nil, ManeuverChange.calls, List.mem_append, List.mem_map,
      Maneuver.mem_some?]
    constructor
    · rintro (⟨m, ⟨rfl, hm⟩, rfl⟩ | ⟨m, ⟨rfl, hm⟩, rfl⟩)
      · exact ⟨h, hm, Or.inl rfl⟩
      · exact ⟨h, hm, Or.inr rfl⟩
    · rintro ⟨-, hm, rfl | rfl⟩
      · exact Or.inl ⟨old, ⟨rfl, hm⟩, rfl⟩
      · exact Or.inr ⟨new, ⟨rfl, hm⟩, rfl⟩

/-- **The calls of a tick**: the open ones still wanted, and those of the change. -/
theorem mem_callsToward :
    call ∈ callsToward pending old new
      ↔ (call ∈ pending ∧ call.isWanted new)
        ∨ (old ≠ new ∧ call.maneuver ≠ .none ∧ (call = ⟨old, false⟩ ∨ call = ⟨new, true⟩)) := by
  rw [← mem_calls_between]
  simp only [callsToward, callsFor, List.mem_append, List.mem_filter, List.mem_eraseDups,
    ← and_or_left]
  cases call.operate <;> simp

theorem isWanted_of_mem_callsToward (h : call ∈ callsToward pending old new) :
    call.isWanted new := by
  rw [Call.isWanted_iff]
  rcases mem_callsToward.1 h with ⟨-, hw⟩ | ⟨hne, -, rfl | rfl⟩
  · exact Call.isWanted_iff.1 hw
  · simp [hne]
  · simp

/-- The change is called for at once. -/
theorem cancel_mem_callsToward (hne : old ≠ new) (hold : old ≠ .none) :
    ⟨old, false⟩ ∈ callsToward pending old new :=
  mem_callsToward.2 (Or.inr ⟨hne, hold, Or.inl rfl⟩)

theorem activate_mem_callsToward (hne : old ≠ new) (hnew : new ≠ .none) :
    ⟨new, true⟩ ∈ callsToward pending old new :=
  mem_callsToward.2 (Or.inr ⟨hne, hnew, Or.inr rfl⟩)

/-- A module is left alone only if its maneuver is recorded before and after, or never was. -/
theorem eq_old_iff_eq_new_of_not_called {m : Maneuver} (hm : m ≠ .none)
    (h : ∀ c ∈ callsToward pending old new, c.maneuver ≠ m) : m = old ↔ m = new := by
  by_cases hne : old = new
  · rw [hne]
  · constructor
    · rintro rfl
      exact absurd rfl (h _ (cancel_mem_callsToward hne hm))
    · rintro rfl
      exact absurd rfl (h _ (activate_mem_callsToward hne hm))

/-- No module is called for no maneuver, unless such a call is open. -/
theorem maneuver_ne_none_of_mem_callsToward (hp : ∀ c ∈ pending, c.maneuver ≠ .none)
    (h : call ∈ callsToward pending old new) : call.maneuver ≠ .none := by
  rcases mem_callsToward.1 h with ⟨hmem, -⟩ | ⟨-, hm, -⟩
  · exact hp call hmem
  · exact hm

/-! ## How many there are, and in which order -/

/-- Dropping duplicates leaves none. -/
theorem nodup_eraseDups {β : Type} [BEq β] [LawfulBEq β] : ∀ bs : List β, bs.eraseDups.Nodup
  | [] => by simp
  | b :: bs => by
      have : (bs.filter fun c => !c == b).length < bs.length + 1 :=
        Nat.lt_succ_of_le (List.length_filter_le _ _)
      rw [List.eraseDups_cons, List.nodup_cons]
      refine ⟨fun hmem => ?_, nodup_eraseDups _⟩
      have := (List.mem_filter.1 (List.mem_eraseDups.1 hmem)).2
      simp at this
termination_by bs => bs.length

theorem nodup_callsToward : (callsToward pending old new).Nodup := by
  simp only [callsToward, callsFor]
  refine List.Nodup.append ((nodup_eraseDups _).filter _) ((nodup_eraseDups _).filter _) ?_
  intro c hcancel hactivate
  have hoff := (List.mem_filter.1 hcancel).2
  have hon := (List.mem_filter.1 hactivate).2
  simp [hon] at hoff

/-- **A tick never calls a module twice.** -/
theorem nodup_map_maneuver_callsToward :
    ((callsToward pending old new).map (·.maneuver)).Nodup :=
  nodup_callsToward.map_on fun _ ha _ hb h =>
    Call.eq_of_isWanted (isWanted_of_mem_callsToward ha) (isWanted_of_mem_callsToward hb) h

/-- …and so makes at most two calls: there are two modules. -/
theorem length_callsToward_le (hp : ∀ c ∈ pending, c.maneuver ≠ .none) :
    (callsToward pending old new).length ≤ 2 := by
  have hsub : (callsToward pending old new).map (·.maneuver)
      ⊆ [.comfortableStop, .emergencyStop] := by
    intro m hm
    obtain ⟨c, hc, rfl⟩ := List.mem_map.1 hm
    have hne := maneuver_ne_none_of_mem_callsToward hp hc
    cases hcm : c.maneuver <;> simp_all
  simpa using (List.Nodup.subperm nodup_map_maneuver_callsToward hsub).length_le

/-- **Cancellations come first**; each activation is of the maneuver recorded now. -/
theorem callsToward_eq_append : ∃ cancels activations : List Call,
    callsToward pending old new = cancels ++ activations
      ∧ (∀ c ∈ cancels, c.operate = false) ∧ ∀ c ∈ activations, c = ⟨new, true⟩ := by
  refine ⟨_, _, rfl, fun c hc => ?_, fun c hc => ?_⟩
  · simpa using (List.mem_filter.1 hc).2
  · have hon : c.operate = true := (List.mem_filter.1 hc).2
    have hmem : c ∈ callsToward pending old new := List.mem_append_right _ hc
    have hm := (Call.isWanted_iff.1 (isWanted_of_mem_callsToward hmem)).1 hon
    obtain ⟨maneuver, operate⟩ := c
    obtain rfl : maneuver = new := hm
    obtain rfl : operate = true := hon
    rfl

end DriveDecision
