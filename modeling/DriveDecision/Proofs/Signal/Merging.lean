import DriveDecision.Proofs.Signal.Arbitration

/-!
# Proofs/Signal/Merging — merging is arbitration with the newer candidate first

    merge old new  ──sides exchanged──  arbitrate new old
    merge old new  ═══ unless the required spans start together ═══  arbitrate old new

Both count as prior the candidate whose required span starts first; on equal starts arbitration
prefers its second candidate and merging its first one.  So a candidate merged into an older one is
weighed as arbitration weighs the newer one against the older (`merge_eq_swap_arbitrate`), and only
on equal starts does it matter which of the two is the older (`merge_eq_arbitrate`).
-/

namespace DriveDecision

variable {α : Type} [Scalar α]

/-! ## Choices -/

namespace Choice

/-- What is chosen of two candidates. -/
def pick (choice : Choice) (first second : Candidate α) : Candidate α :=
  match choice with
  | .neither => .none
  | .first => first
  | .second => second

/-- The source of a command chosen between an intersection and a behavior candidate. -/
def source : Choice → SignalSource
  | .neither => .neither
  | .first => .intersection
  | .second => .behavior

@[simp] theorem pick_swap (choice : Choice) (first second : Candidate α) :
    choice.swap.pick second first = choice.pick first second := by
  cases choice <;> rfl

end Choice

/-- **A merged candidate agrees with the source of a command**: it is the candidate that the source
names, and no other. -/
structure Candidate.AgreesWith (merged : Candidate α) (source : SignalSource)
    (inter beh : Candidate α) : Prop where
  intersection : merged = inter ↔ source = .intersection
  behavior : merged = beh ↔ source = .behavior
  neither : merged = .none ↔ source = .neither

/-- What is picked agrees with where it is from, if the candidates can be told apart. -/
theorem Choice.pick_agreesWith {inter beh : Candidate α} (h : [inter, beh, .none].Nodup)
    (choice : Choice) : (choice.pick inter beh).AgreesWith choice.source inter beh := by
  simp only [List.nodup_cons, List.mem_cons, List.not_mem_nil, or_false, not_or] at h
  obtain ⟨⟨hne, hinter⟩, hbeh, -⟩ := h
  cases choice with
  | neither => constructor <;> simp [pick, source, Ne.symm hinter, Ne.symm hbeh]
  | first => constructor <;> simp [pick, source, hne, hinter]
  | second => constructor <;> simp [pick, source, Ne.symm hne, hbeh]

namespace Ego

variable {ego : Ego α} {inter beh : Candidate α}

theorem source_resolve :
    (ego.resolve inter beh).2 = (arbitrate (ego.spanOf inter) (ego.spanOf beh)).source := by
  rw [resolve]
  cases arbitrate (ego.spanOf inter) (ego.spanOf beh) <;> rfl

theorem mergeCandidates_eq_pick (old new : Candidate α) :
    ego.mergeCandidates old new = (merge (ego.spanOf old) (ego.spanOf new)).pick old new := by
  rw [mergeCandidates]
  cases merge (ego.spanOf old) (ego.spanOf new) <;> rfl

end Ego

/-! ## Who counts as the prior one -/

theorem contest_congr {p q : Prop} [Decidable p] [Decidable q] {d e : SpanDistances α} (h : p ↔ q) :
    contest p d e = contest q d e := by
  simp only [contest, h]

section

variable [OrderedScalar α] {d e : SpanDistances α}

/-- **Merging exchanges the sides of arbitration.** -/
theorem merge_eq_swap_arbitrate (hd : Scalar.IsNumber d.requiredStart)
    (he : Scalar.IsNumber e.requiredStart) : merge e d = (arbitrate d e).swap := by
  rw [merge_eq_contest, arbitrate_eq_contest, swap_contest]
  exact contest_congr (hd.not_lt_iff he).symm

/-- **Unless the required spans start together**, it does not matter which candidate is older. -/
theorem merge_eq_arbitrate
    (h : d.requiredStart < e.requiredStart ∨ e.requiredStart < d.requiredStart) :
    merge d e = arbitrate d e := by
  rw [merge_eq_contest, arbitrate_eq_contest]
  refine contest_congr ⟨fun hle => ?_, fun hlt => (OrderedScalar.lt_iff.1 hlt).1⟩
  exact h.resolve_right (Scalar.not_lt_of_le hle)

end

/-! ## Two candidates -/

/-- **Merging and arbitration agree.**  With the intersection candidate as the newer one, what is
merged is the candidate arbitration takes the command from; with the behavior candidate as the newer
one it is so too, unless the two required spans start together. -/
theorem merged_agrees_with_arbitration {α : Type} [Scalar α] [OrderedScalar α] (ego : Ego α)
    (inter beh : Candidate α) (hdistinct : [inter, beh, .none].Nodup)
    (hinter : Scalar.IsNumber (ego.spanOf inter).requiredStart)
    (hbeh : Scalar.IsNumber (ego.spanOf beh).requiredStart) :
    (ego.mergeCandidates beh inter).AgreesWith (ego.resolve inter beh).2 inter beh
      ∧ ((ego.spanOf inter).requiredStart < (ego.spanOf beh).requiredStart
          ∨ (ego.spanOf beh).requiredStart < (ego.spanOf inter).requiredStart →
        (ego.mergeCandidates inter beh).AgreesWith (ego.resolve inter beh).2 inter beh) := by
  rw [Ego.source_resolve, Ego.mergeCandidates_eq_pick, Ego.mergeCandidates_eq_pick,
    merge_eq_swap_arbitrate hinter hbeh, Choice.pick_swap]
  refine ⟨Choice.pick_agreesWith hdistinct _, fun hstarts => ?_⟩
  rw [merge_eq_arbitrate hstarts]
  exact Choice.pick_agreesWith hdistinct _

/-- At seventeen meters, past a turn to the left from ten to sixteen and short of a shift to the
right from thirty on: the left one keeps the signal, whichever is the newer. -/
theorem leftTurn_merged :
    let ego := SignalArbiter.standard.egoOn (.onAxis 17 .none)
    let left : Candidate Float := .onAxis .left 10 16
    let right : Candidate Float := .onAxis .right 30 40
    [left, right, .none].Nodup
      ∧ (ego.spanOf left).IsMeasured ∧ (ego.spanOf right).IsMeasured
      ∧ (ego.spanOf left).requiredStart < (ego.spanOf right).requiredStart
      ∧ (ego.resolve left right).2 = .intersection
      ∧ ego.mergeCandidates right left = left ∧ ego.mergeCandidates left right = left := by
  intro ego left right
  have hdistinct : [left, right, .none].Nodup := by decide +kernel
  have hordered : (ego.spanOf left).IsOrdered ∧ (ego.spanOf right).IsOrdered := by decide +kernel
  have hstarts : (ego.spanOf left).requiredStart < (ego.spanOf right).requiredStart := by
    decide +kernel
  have hsource : (ego.resolve left right).2 = .intersection := by decide +kernel
  have hleft := hordered.1.isMeasured
  have hright := hordered.2.isMeasured
  obtain ⟨hnewer, holder⟩ := merged_agrees_with_arbitration ego left right hdistinct
    hleft.requiredStart hright.requiredStart
  exact ⟨hdistinct, hleft, hright, hstarts, hsource, hnewer.intersection.2 hsource,
    (holder (Or.inl hstarts)).intersection.2 hsource⟩

/-- On equal starts each has its own favorite. -/
example : let d : SpanDistances Float := ⟨-15, 15, -5, 5⟩
    arbitrate d d = .second ∧ merge d d = .first := by decide +kernel

end DriveDecision
