import DriveDecision.Proofs.Number.Order
import DriveDecision.Proofs.Signal.Cycles
import Mathlib.Order.Basic
import Mathlib.Tactic.Lift

/-!
# Proofs/Signal/Arbitration — which of two candidates is picked

    ego in both desired spans ──▸ the required spans decide
    in one of them ─────────────▸ that one
    in none ────────────────────▸ neither; but the one behind, if the other is ahead

Arbitration and merging are one cascade (`contest`); they differ in who counts as the prior
candidate on equal required starts.  The cascade asks what is ahead before it asks what is behind,
and between the two desired spans takes the one that ego has passed (`SpanDistances.IsBetween`).
-/

namespace DriveDecision

variable {α : Type} [Scalar α]

/-! ## Where ego stands -/

namespace SpanDistances

/-- Ego is within the desired span. -/
def withinDesired (d : SpanDistances α) : Bool := d.desiredStart ≤ 0 && 0 ≤ d.desiredEnd

/-- Every distance is a number. -/
structure IsMeasured (d : SpanDistances α) : Prop where
  desiredStart : Scalar.IsNumber d.desiredStart
  desiredEnd : Scalar.IsNumber d.desiredEnd
  requiredStart : Scalar.IsNumber d.requiredStart
  requiredEnd : Scalar.IsNumber d.requiredEnd

/-- **The required span lies in the desired one**, and both run forward. -/
structure IsOrdered (d : SpanDistances α) : Prop where
  starts : d.desiredStart ≤ d.requiredStart
  required : d.requiredStart ≤ d.requiredEnd
  ends : d.requiredEnd ≤ d.desiredEnd

/-- **Ego occupies one required span rather than another**: it is in the one, and if it is in the
other as well, then the one starts first. -/
def Outweighs (d e : SpanDistances α) : Prop :=
  d.withinRequired = true ∧ (e.withinRequired = true → d.requiredStart < e.requiredStart)

/-- **Ego is between two desired spans**: past the one, and short of the other. -/
structure IsBetween (d e : SpanDistances α) : Prop where
  reached : d.desiredStart ≤ 0
  passed : d.desiredEnd < 0
  ahead : 0 < e.desiredStart

instance (d : SpanDistances α) : Decidable d.IsOrdered :=
  decidable_of_iff (d.desiredStart ≤ d.requiredStart ∧ d.requiredStart ≤ d.requiredEnd
      ∧ d.requiredEnd ≤ d.desiredEnd)
    ⟨fun ⟨starts, required, ends⟩ => ⟨starts, required, ends⟩,
      fun ⟨starts, required, ends⟩ => ⟨starts, required, ends⟩⟩

instance (d e : SpanDistances α) : Decidable (d.Outweighs e) :=
  inferInstanceAs (Decidable (_ ∧ (_ → _)))

variable {d e : SpanDistances α}

theorem withinDesired_iff : d.withinDesired = true ↔ d.desiredStart ≤ 0 ∧ 0 ≤ d.desiredEnd := by
  simp [withinDesired]

theorem withinRequired_iff :
    d.withinRequired = true ↔ d.requiredStart ≤ 0 ∧ 0 ≤ d.requiredEnd := by
  simp [withinRequired]

variable [OrderedScalar α]

/-- What is ordered is measured. -/
theorem IsOrdered.isMeasured (h : d.IsOrdered) : d.IsMeasured where
  desiredStart := (OrderedScalar.isNumber_of_le h.starts).1
  desiredEnd := (OrderedScalar.isNumber_of_le h.ends).2
  requiredStart := (OrderedScalar.isNumber_of_le h.required).1
  requiredEnd := (OrderedScalar.isNumber_of_le h.required).2

/-- Within the required span, ego is within the desired one. -/
theorem IsOrdered.withinDesired (h : d.IsOrdered) (hd : d.withinRequired = true) :
    d.withinDesired = true := by
  obtain ⟨hstart, hend⟩ := withinRequired_iff.1 hd
  exact withinDesired_iff.2 ⟨OrderedScalar.le_trans h.starts hstart,
    OrderedScalar.le_trans hend h.ends⟩

namespace IsMeasured

/-- A desired span that is not ahead is reached… -/
theorem not_ahead_iff (h : d.IsMeasured) : ¬ 0 < d.desiredStart ↔ d.desiredStart ≤ 0 :=
  OrderedScalar.isNumber_zero.not_lt_iff h.desiredStart

/-- …and one that ego is not within is ahead or behind. -/
theorem withinDesired_eq_false_iff (h : d.IsMeasured) :
    d.withinDesired = false ↔ 0 < d.desiredStart ∨ d.desiredEnd < 0 := by
  have hend := h.desiredEnd.not_lt_iff OrderedScalar.isNumber_zero
  rw [← Bool.not_eq_true, SpanDistances.withinDesired_iff, ← h.not_ahead_iff, ← hend, ← not_or,
    not_not]

end IsMeasured

end SpanDistances

/-! ## The required spans -/

theorem priorPrevails_iff {priorStart priorEnd laterStart laterEnd : α} :
    priorPrevails priorStart priorEnd laterStart laterEnd = true ↔
      if priorStart < laterStart then
        laterEnd < priorEnd ∨ 0 < priorStart ∨ (priorStart < 0 ∧ 0 ≤ priorEnd) ∨ 0 < laterStart
      else if priorEnd < laterEnd then 0 < priorStart ∨ (priorStart < 0 ∧ 0 ≤ priorEnd)
      else ¬ 0 < priorStart := by
  simp only [priorPrevails]
  split_ifs <;> simp [or_assoc]

section

variable [OrderedScalar α] {priorStart priorEnd laterStart laterEnd : α}

/-- **The prior candidate keeps the signal within its required span**, unless ego is in both spans
and they start together. -/
theorem priorPrevails_of_within (hfirst : priorStart ≤ laterStart) (hlater : laterStart ≤ laterEnd)
    (hstart : priorStart ≤ 0) (hend : 0 ≤ priorEnd)
    (hboth : laterStart ≤ 0 → 0 ≤ laterEnd → priorStart < laterStart) :
    priorPrevails priorStart priorEnd laterStart laterEnd = true := by
  obtain ⟨hps, hls⟩ := OrderedScalar.isNumber_of_le hfirst
  have hpe := (OrderedScalar.isNumber_of_le hend).2
  have hle := (OrderedScalar.isNumber_of_le hlater).2
  rw [priorPrevails_iff]
  lift priorStart to Scalar.Number α using hps
  lift priorEnd to Scalar.Number α using hpe
  lift laterStart to Scalar.Number α using hls
  lift laterEnd to Scalar.Number α using hle
  norm_cast at *
  split_ifs with hstrict hends
  · -- past its start ego is inside; right at its start the later one is still ahead
    have hside : priorStart < 0 ∨ 0 < laterStart := by grind
    exact Or.inr (Or.inr (hside.imp (⟨·, hend⟩) id))
  · -- the spans start together, so ego is out of the later one, which has ended
    have hended : laterEnd < 0 := by grind
    grind
  · grind

/-- **…and has lost it to the later one**, when ego is in that and out of its own. -/
theorem priorPrevails_of_without (hfirst : priorStart ≤ laterStart) (hstart : laterStart ≤ 0)
    (hend : 0 ≤ laterEnd) (hpassed : priorEnd < 0) :
    priorPrevails priorStart priorEnd laterStart laterEnd = false := by
  obtain ⟨hps, hls⟩ := OrderedScalar.isNumber_of_le hfirst
  have hpe := (OrderedScalar.isNumber_of_le (OrderedScalar.lt_iff.1 hpassed).1).1
  have hle := (OrderedScalar.isNumber_of_le hend).2
  rw [← Bool.not_eq_true, priorPrevails_iff]
  lift priorStart to Scalar.Number α using hps
  lift priorEnd to Scalar.Number α using hpe
  lift laterStart to Scalar.Number α using hls
  lift laterEnd to Scalar.Number α using hle
  norm_cast at *
  have hnested : priorEnd < laterEnd := by grind
  split_ifs with hstrict
  · grind
  · grind

end

/-! ## One cascade for both -/

/-- The choice between the same two, named the other way round. -/
def Choice.swap : Choice → Choice
  | .neither => .neither
  | .first => .second
  | .second => .first

/-- **Weigh two candidates**, given whether the first counts as the prior one. -/
def contest (isPrior : Prop) [Decidable isPrior] (d e : SpanDistances α) : Choice :=
  if 0 < d.desiredStart ∧ 0 < e.desiredStart then .neither
  else if 0 < d.desiredStart then .second
  else if 0 < e.desiredStart then .first
  else if d.desiredEnd < 0 ∧ e.desiredEnd < 0 then .neither
  else if d.desiredEnd < 0 then .second
  else if e.desiredEnd < 0 then .first
  else if isPrior then
    if priorPrevails d.requiredStart d.requiredEnd e.requiredStart e.requiredEnd then .first
    else .second
  else if priorPrevails e.requiredStart e.requiredEnd d.requiredStart d.requiredEnd then .second
  else .first

theorem arbitrate_eq_contest (inter beh : SpanDistances α) :
    arbitrate inter beh = contest (inter.requiredStart < beh.requiredStart) inter beh := rfl

theorem merge_eq_contest (old new : SpanDistances α) :
    merge old new = contest (old.requiredStart ≤ new.requiredStart) old new := rfl

section

variable {p : Prop} [Decidable p] {d e : SpanDistances α}

/-- Two tests of which each has its own answer, and both together another, can be made in either
order. -/
theorem ite_and_comm {β : Type} (q r : Prop) [Decidable q] [Decidable r]
    (both left right none : β) :
    (if q ∧ r then both else if q then left else if r then right else none)
      = if r ∧ q then both else if r then right else if q then left else none := by
  by_cases hq : q <;> by_cases hr : r <;> simp [hq, hr]

/-- The cascade treats its candidates alike. -/
theorem swap_contest : (contest p d e).swap = contest (¬ p) e d := by
  simp only [contest, ite_not, apply_ite Choice.swap]
  rw [ite_and_comm (0 < d.desiredStart), ite_and_comm (d.desiredEnd < 0)]
  rfl

theorem contest_eq_second_iff : contest p d e = .second ↔ contest (¬ p) e d = .first := by
  rw [← swap_contest]
  cases contest p d e <;> simp [Choice.swap]

variable [OrderedScalar α]

/-- **Within both desired spans, the required spans decide.** -/
theorem contest_of_within (hd : d.withinDesired = true) (he : e.withinDesired = true) :
    contest p d e = if p then
        if priorPrevails d.requiredStart d.requiredEnd e.requiredStart e.requiredEnd then .first
        else .second
      else if priorPrevails e.requiredStart e.requiredEnd d.requiredStart d.requiredEnd then .second
      else .first := by
  obtain ⟨hdstart, hdend⟩ := SpanDistances.withinDesired_iff.1 hd
  obtain ⟨hestart, heend⟩ := SpanDistances.withinDesired_iff.1 he
  simp only [contest, Scalar.not_lt_of_le hdstart, Scalar.not_lt_of_le hdend,
    Scalar.not_lt_of_le hestart, Scalar.not_lt_of_le heend, and_self, if_false]

/-- Within one desired span only, its candidate is taken. -/
theorem contest_of_within_first (hd : d.withinDesired = true) (hmeasured : e.IsMeasured)
    (he : e.withinDesired = false) : contest p d e = .first := by
  obtain ⟨hdstart, hdend⟩ := SpanDistances.withinDesired_iff.1 hd
  have hout := hmeasured.withinDesired_eq_false_iff.1 he
  simp only [contest, Scalar.not_lt_of_le hdstart, Scalar.not_lt_of_le hdend, false_and, if_false]
  split_ifs with hahead hbehind
  · rfl
  · rfl
  all_goals exact absurd hout (not_or.2 ⟨hahead, hbehind⟩)

/-- **Within a desired span, a candidate is taken whose desired span ego is in.** -/
theorem within_of_contest (hd : d.IsMeasured) (he : e.IsMeasured)
    (h : d.withinDesired = true ∨ e.withinDesired = true) :
    contest p d e = .first ∧ d.withinDesired = true
      ∨ contest p d e = .second ∧ e.withinDesired = true := by
  rcases hdwithin : d.withinDesired with _ | _
  · have hewithin := h.resolve_left (hdwithin ▸ Bool.false_ne_true)
    exact Or.inr ⟨contest_eq_second_iff.2 (contest_of_within_first hewithin hd hdwithin), hewithin⟩
  · rcases hewithin : e.withinDesired with _ | _
    · exact Or.inl ⟨contest_of_within_first hdwithin he hewithin, rfl⟩
    · rw [contest_of_within hdwithin hewithin]
      split_ifs <;> simp

/-- **Between the two desired spans, the one behind is taken.** -/
theorem contest_of_isBetween (h : d.IsBetween e) : contest p d e = .first := by
  simp only [contest, Scalar.not_lt_of_le h.reached, h.ahead, false_and, if_false, if_true]

/-- Within no desired span and not between them, none is taken. -/
theorem contest_of_not_isBetween (hd : d.IsMeasured) (he : e.IsMeasured)
    (hdout : d.withinDesired = false) (heout : e.withinDesired = false)
    (hde : ¬ d.IsBetween e) (hed : ¬ e.IsBetween d) : contest p d e = .neither := by
  rw [hd.withinDesired_eq_false_iff] at hdout
  rw [he.withinDesired_eq_false_iff] at heout
  by_cases hdahead : 0 < d.desiredStart
  · have heahead : 0 < e.desiredStart := by
      by_contra hreached
      exact hed ⟨he.not_ahead_iff.1 hreached, heout.resolve_left hreached, hdahead⟩
    simp only [contest, hdahead, heahead, and_self, if_true]
  · have hdpassed := hdout.resolve_left hdahead
    have hereached : ¬ 0 < e.desiredStart := fun heahead =>
      hde ⟨hd.not_ahead_iff.1 hdahead, hdpassed, heahead⟩
    have hepassed := heout.resolve_left hereached
    simp only [contest, hdahead, hereached, hdpassed, hepassed, and_self, if_true, if_false]

/-- **Whose required span ego occupies is taken**, whoever counts as the prior one on equal
starts. -/
theorem contest_of_outweighs (hd : d.IsOrdered) (he : e.IsOrdered)
    (hprior : p → d.requiredStart ≤ e.requiredStart)
    (hlater : ¬ p → e.requiredStart ≤ d.requiredStart) (h : d.Outweighs e) :
    contest p d e = .first := by
  obtain ⟨hwithin, hboth⟩ := h
  have hdesired := hd.withinDesired hwithin
  rw [SpanDistances.withinRequired_iff] at hwithin hboth
  rcases hdesired' : e.withinDesired with _ | _
  · exact contest_of_within_first hdesired he.isMeasured hdesired'
  · rw [contest_of_within hdesired hdesired']
    split_ifs with hp hkept hlost
    · rfl
    · exact absurd (priorPrevails_of_within (hprior hp) he.required hwithin.1 hwithin.2
        fun hstart hend => hboth ⟨hstart, hend⟩) hkept
    · -- the other one starts no later, so ego is past it
      have hstart := hlater hp
      have hpassed : e.requiredEnd < 0 := by
        by_contra hahead
        have hend := (he.isMeasured.requiredEnd.not_lt_iff OrderedScalar.isNumber_zero).1 hahead
        exact Scalar.not_lt_of_le hstart
          (hboth ⟨OrderedScalar.le_trans hstart hwithin.1, hend⟩)
      rw [priorPrevails_of_without hstart hwithin.1 hwithin.2 hpassed] at hlost
      cases hlost
    · rfl

/-- So it is by arbitration and by merging, in either order of the two. -/
theorem arbitrate_of_outweighs (hd : d.IsOrdered) (he : e.IsOrdered) (h : d.Outweighs e) :
    arbitrate d e = .first ∧ arbitrate e d = .second
      ∧ merge d e = .first ∧ merge e d = .second := by
  have hdstart := hd.isMeasured.requiredStart
  have hestart := he.isMeasured.requiredStart
  have hle {a b : α} (hlt : a < b) : a ≤ b := (OrderedScalar.lt_iff.1 hlt).1
  have hge (hnot : ¬ d.requiredStart ≤ e.requiredStart) : e.requiredStart ≤ d.requiredStart :=
    (OrderedScalar.le_total hdstart hestart).resolve_left hnot
  have hge' (hnot : ¬ e.requiredStart ≤ d.requiredStart) : d.requiredStart ≤ e.requiredStart :=
    (OrderedScalar.le_total hestart hdstart).resolve_left hnot
  refine ⟨?_, ?_, ?_, ?_⟩
  · exact contest_of_outweighs hd he hle (hdstart.not_lt_iff hestart).1 h
  · exact contest_eq_second_iff.2 (contest_of_outweighs hd he (hestart.not_lt_iff hdstart).1
      (fun hnot => hle (not_not.1 hnot)) h)
  · exact contest_of_outweighs hd he id hge h
  · exact contest_eq_second_iff.2 (contest_of_outweighs hd he hge' not_not.1 h)

end

/-! ## Two candidates -/

/-- **Whoever's required span ego occupies is picked**, by arbitration and by merging, whichever of
the two is the newer.  Ego occupies the span it is in, and of two that it is in, the one that starts
first. -/
theorem occupied_span_prevails {α : Type} [Scalar α] [OrderedScalar α] (ego : Ego α)
    (inter beh : Candidate α) (hinter : (ego.spanOf inter).IsOrdered)
    (hbeh : (ego.spanOf beh).IsOrdered) :
    ((ego.spanOf inter).Outweighs (ego.spanOf beh) →
        ego.resolve inter beh = (inter.turn, .intersection)
          ∧ ego.mergeCandidates inter beh = inter ∧ ego.mergeCandidates beh inter = inter)
      ∧ ((ego.spanOf beh).Outweighs (ego.spanOf inter) →
        ego.resolve inter beh = (beh.turn, .behavior)
          ∧ ego.mergeCandidates inter beh = beh ∧ ego.mergeCandidates beh inter = beh) := by
  constructor
  · intro h
    obtain ⟨hpicked, -, hold, hnew⟩ := arbitrate_of_outweighs hinter hbeh h
    simp only [Ego.resolve, Ego.mergeCandidates, hpicked, hold, hnew, and_self]
  · intro h
    obtain ⟨-, hpicked, hold, hnew⟩ := arbitrate_of_outweighs hbeh hinter h
    simp only [Ego.resolve, Ego.mergeCandidates, hpicked, hold, hnew, and_self]

/-- At fifteen meters, in a shift to the left from ten to twenty and in one to the right from
fourteen to forty: the left one has started first. -/
theorem leftShift_prevails :
    let ego := SignalArbiter.standard.egoOn (.onAxis 15 .none)
    let left : Candidate Float := .onAxis .left 10 20
    let right : Candidate Float := .onAxis .right 14 40
    (ego.spanOf left).IsOrdered ∧ (ego.spanOf right).IsOrdered
      ∧ (ego.spanOf left).Outweighs (ego.spanOf right)
      ∧ (ego.spanOf right).withinRequired = true
      ∧ ego.resolve right left = (.left, .behavior)
      ∧ ego.mergeCandidates right left = left ∧ ego.mergeCandidates left right = left := by
  intro ego left right
  have hleft : (ego.spanOf left).IsOrdered := by decide +kernel
  have hright : (ego.spanOf right).IsOrdered := by decide +kernel
  have houtweighs : (ego.spanOf left).Outweighs (ego.spanOf right) := by decide +kernel
  exact ⟨hleft, hright, houtweighs, by decide +kernel,
    (occupied_span_prevails ego right left hright hleft).2 houtweighs⟩

/-- **Who is picked applies, unless ego is between the two.**  With ego in a desired span, a
candidate is picked whose desired span ego is in.  With ego in neither, none is picked, unless it is
past the one and short of the other: then the one it is past is picked. -/
theorem picked_candidate_applies {α : Type} [Scalar α] [OrderedScalar α] (ego : Ego α)
    (c d : Candidate α) (hc : (ego.spanOf c).IsMeasured) (hd : (ego.spanOf d).IsMeasured) :
    let C := ego.spanOf c
    let D := ego.spanOf d
    (C.withinDesired = true ∨ D.withinDesired = true →
        (ego.resolve c d = (c.turn, .intersection) ∧ C.withinDesired = true
            ∨ ego.resolve c d = (d.turn, .behavior) ∧ D.withinDesired = true)
          ∧ (ego.mergeCandidates c d = c ∧ C.withinDesired = true
            ∨ ego.mergeCandidates c d = d ∧ D.withinDesired = true))
      ∧ (C.withinDesired = false → D.withinDesired = false →
        (C.IsBetween D →
            ego.resolve c d = (c.turn, .intersection) ∧ ego.mergeCandidates c d = c)
          ∧ (D.IsBetween C →
            ego.resolve c d = (d.turn, .behavior) ∧ ego.mergeCandidates c d = d)
          ∧ (¬ C.IsBetween D → ¬ D.IsBetween C →
            ego.resolve c d = (.noCommand, .neither) ∧ ego.mergeCandidates c d = .none)) := by
  have hresolve := arbitrate_eq_contest (ego.spanOf c) (ego.spanOf d)
  have hmerge := merge_eq_contest (ego.spanOf c) (ego.spanOf d)
  refine ⟨fun hwithin => ⟨?_, ?_⟩, fun hcout hdout => ⟨fun h => ?_, fun h => ?_, fun hcd hdc => ?_⟩⟩
  · rw [Ego.resolve, hresolve]
    rcases within_of_contest (p := (ego.spanOf c).requiredStart < (ego.spanOf d).requiredStart)
      hc hd hwithin with ⟨hpicked, happlies⟩ | ⟨hpicked, happlies⟩
    · exact Or.inl ⟨by rw [hpicked], happlies⟩
    · exact Or.inr ⟨by rw [hpicked], happlies⟩
  · rw [Ego.mergeCandidates, hmerge]
    rcases within_of_contest (p := (ego.spanOf c).requiredStart ≤ (ego.spanOf d).requiredStart)
      hc hd hwithin with ⟨hpicked, happlies⟩ | ⟨hpicked, happlies⟩
    · exact Or.inl ⟨by rw [hpicked], happlies⟩
    · exact Or.inr ⟨by rw [hpicked], happlies⟩
  · rw [Ego.resolve, Ego.mergeCandidates, hresolve, hmerge, contest_of_isBetween h,
      contest_of_isBetween h]
    exact ⟨rfl, rfl⟩
  · rw [Ego.resolve, Ego.mergeCandidates, hresolve, hmerge,
      contest_eq_second_iff.2 (contest_of_isBetween h),
      contest_eq_second_iff.2 (contest_of_isBetween h)]
    exact ⟨rfl, rfl⟩
  · rw [Ego.resolve, Ego.mergeCandidates, hresolve, hmerge,
      contest_of_not_isBetween hc hd hcout hdout hcd hdc,
      contest_of_not_isBetween hc hd hcout hdout hcd hdc]
    exact ⟨rfl, rfl⟩

/-- A shift to the left and one to the right: at twenty-five meters the left one applies and is
picked, at two meters none applies and none is. -/
theorem leftShift_applies :
    let left : Candidate Float := .onAxis .left 20 25
    let right : Candidate Float := .onAxis .right 48 49
    let ego := SignalArbiter.standard.egoOn (.onAxis 25 .none)
    let before := SignalArbiter.standard.egoOn (.onAxis 2 .none)
    (ego.spanOf left).IsMeasured ∧ (ego.spanOf right).IsMeasured
      ∧ (ego.spanOf left).withinDesired = true ∧ (ego.spanOf right).withinDesired = false
      ∧ ego.resolve right left = (.left, .behavior) ∧ ego.mergeCandidates right left = left
      ∧ before.resolve right left = (.noCommand, .neither)
      ∧ before.mergeCandidates right left = .none := by
  intro left right ego before
  have hordered : ((ego.spanOf left).IsOrdered ∧ (ego.spanOf right).IsOrdered)
      ∧ (before.spanOf left).IsOrdered ∧ (before.spanOf right).IsOrdered := by decide +kernel
  have hleft := hordered.1.1.isMeasured
  have hright := hordered.1.2.isMeasured
  have hwithin : (ego.spanOf left).withinDesired = true := by decide +kernel
  have hwithout : (ego.spanOf right).withinDesired = false := by decide +kernel
  obtain ⟨hpicked, hmerged⟩ :=
    (picked_candidate_applies ego right left hright hleft).1 (Or.inr hwithin)
  have hnot : ¬ (ego.spanOf right).withinDesired = true := by simp [hwithout]
  have hahead : ¬ (before.spanOf left).desiredStart ≤ 0 := by decide +kernel
  have hahead' : ¬ (before.spanOf right).desiredStart ≤ 0 := by decide +kernel
  obtain ⟨-, -, hneither⟩ := (picked_candidate_applies before right left hordered.2.2.isMeasured
    hordered.2.1.isMeasured).2 (by decide +kernel) (by decide +kernel)
  obtain ⟨hnone, hnothing⟩ := hneither (fun h => hahead' h.reached) fun h => hahead h.reached
  exact ⟨hleft, hright, hwithin, hwithout, (hpicked.resolve_left fun h => hnot h.2).1,
    (hmerged.resolve_left fun h => hnot h.2).1, hnone, hnothing⟩

/-- At thirty meters, a shift to the right is over and one to the left not yet due; yet the right
one is picked. -/
theorem passed_shift_picked :
    let ego := SignalArbiter.standard.egoOn (.onAxis 30 .none)
    let passed : Candidate Float := .onAxis .right 5 10
    let ahead : Candidate Float := .onAxis .left 48 50
    (ego.spanOf passed).IsOrdered ∧ (ego.spanOf ahead).IsOrdered
      ∧ (ego.spanOf passed).withinDesired = false ∧ (ego.spanOf ahead).withinDesired = false
      ∧ ego.resolve ahead passed = (.right, .behavior)
      ∧ ego.mergeCandidates ahead passed = passed := by
  decide +kernel

end DriveDecision
