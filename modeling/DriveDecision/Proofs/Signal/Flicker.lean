import DriveDecision.Proofs.Number.Exact
import DriveDecision.Proofs.Signal.Arbitration

/-!
# Proofs/Signal/Flicker — the prior rule, as ego advances

    ─── ahead ───┬── prior span ──┬── behind ───▸
      keeps it   ·   keeps it     │   loses it

As ego advances along the path, every distance decreases by the same.  Over an exact scalar the
answer of the prior rule then changes once at most, unless the two spans start together and the
prior one ends first: right at the start, the prior span is neither ahead nor is ego inside it by
the strict comparisons of the rule, and for this one point it loses the signal
(`prevails_iff_of_isOutlastedBy`).
-/

namespace DriveDecision

/-! ## Signals along a line -/

section

variable {α : Type} [Preorder α] {f : α → Bool}

/-- **A signal flickers**: it goes back to what it was. -/
def Flickers {α : Type} [LT α] (f : α → Bool) : Prop :=
  ∃ before during after, before < during ∧ during < after ∧ f before = f after
    ∧ f during ≠ f before

theorem not_flickers_of_monotone (h : Monotone f) : ¬ Flickers f := by
  rintro ⟨before, during, after, hbefore, hafter, hsame, hother⟩
  have hle : f during ≤ f before := hsame ▸ h hafter.le
  exact hother (le_antisymm hle (h hbefore.le))

theorem not_flickers_of_antitone (h : Antitone f) : ¬ Flickers f := by
  rintro ⟨before, during, after, hbefore, hafter, hsame, hother⟩
  have hle : f before ≤ f during := hsame ▸ h hafter.le
  exact hother (le_antisymm (h hbefore.le) hle)

end

/-! ## The prior rule along the path -/

/-- A required span, by its distances to where ego sets out. -/
structure Stretch (α : Type) where
  start : α
  stop : α

namespace Stretch

/-- **The answer of the prior rule** once ego has advanced by `t`. -/
def prevails {α : Type} [Scalar α] (prior later : Stretch α) (t : α) : Bool :=
  priorPrevails (prior.start - t) (prior.stop - t) (later.start - t) (later.stop - t)

variable {α : Type} [ExactScalar α] {prior later : Stretch α} {t : α}

/-- The spans start together, and the prior one ends first. -/
structure IsOutlastedBy (prior later : Stretch α) : Prop where
  together : prior.start = later.start
  runs : prior.start < prior.stop
  ends : prior.stop < later.stop

theorem prevails_iff : prior.prevails later t = true ↔
    if prior.start < later.start then
      later.stop < prior.stop ∨ t < prior.start ∨ (prior.start < t ∧ t ≤ prior.stop)
        ∨ t < later.start
    else if prior.stop < later.stop then t < prior.start ∨ (prior.start < t ∧ t ≤ prior.stop)
    else prior.start ≤ t := by
  rw [prevails, priorPrevails_iff]
  simp only [sub_lt_sub_iff_right, sub_pos, sub_neg, sub_nonneg, not_lt]

/-- **If the prior span starts first**, it keeps the signal until ego is past its end and the later
one has begun; and for good if it also ends last. -/
theorem prevails_iff_of_lt (h : prior.start < later.start) : prior.prevails later t = true
    ↔ later.stop < prior.stop ∨ t < later.start ∨ t ≤ prior.stop := by
  rw [prevails_iff, if_pos h]
  grind

/-- **If it starts last and ends last**, it gets the signal at its start. -/
theorem prevails_iff_of_le (hstart : later.start ≤ prior.start) (hstop : later.stop ≤ prior.stop) :
    prior.prevails later t = true ↔ prior.start ≤ t := by
  rw [prevails_iff, if_neg hstart.not_gt, if_neg hstop.not_gt]

/-- **If it starts last and ends first**, it has the signal up to its end, but for its start. -/
theorem prevails_iff_of_inside (hstart : later.start ≤ prior.start)
    (hstop : prior.stop < later.stop) : prior.prevails later t = true
      ↔ t < prior.start ∨ (prior.start < t ∧ t ≤ prior.stop) := by
  rw [prevails_iff, if_neg hstart.not_gt, if_pos hstop]

theorem prevails_iff_of_isOutlastedBy (h : prior.IsOutlastedBy later) :
    prior.prevails later t = true ↔ t ≠ prior.start ∧ t ≤ prior.stop := by
  rw [prevails_iff_of_inside h.together.ge h.ends]
  constructor
  · rintro (hahead | ⟨hstarted, hend⟩)
    · exact ⟨hahead.ne, (hahead.trans h.runs).le⟩
    · exact ⟨hstarted.ne', hend⟩
  · rintro ⟨hstart, hend⟩
    exact hstart.lt_or_gt.imp_right (⟨·, hend⟩)

/-! ## One change at most -/

theorem antitone_prevails (h : prior.start < later.start) : Antitone (prior.prevails later) := by
  intro s t hst
  rw [Bool.le_iff_imp, prevails_iff_of_lt h, prevails_iff_of_lt h]
  exact Or.imp id (Or.imp hst.trans_lt hst.trans)

theorem monotone_prevails (hstart : later.start ≤ prior.start)
    (hstop : later.stop ≤ prior.stop) : Monotone (prior.prevails later) := by
  intro s t hst
  rw [Bool.le_iff_imp, prevails_iff_of_le hstart hstop, prevails_iff_of_le hstart hstop]
  exact fun hs => hs.trans hst

/-- A prior span without length is only ever ahead or behind. -/
theorem antitone_prevails_of_stop_le (hstart : later.start ≤ prior.start)
    (hstop : prior.stop < later.stop) (hshort : prior.stop ≤ prior.start) :
    Antitone (prior.prevails later) := by
  intro s t hst
  rw [Bool.le_iff_imp, prevails_iff_of_inside hstart hstop, prevails_iff_of_inside hstart hstop]
  rintro (hahead | ⟨hstarted, hend⟩)
  · exact Or.inl (hst.trans_lt hahead)
  · exact absurd (hstarted.trans_le (hend.trans hshort)) (lt_irrefl _)

theorem flickers_of_isOutlastedBy (h : prior.IsOutlastedBy later) :
    Flickers (prior.prevails later) := by
  have hbefore : prior.prevails later (prior.start - 1) = true :=
    (prevails_iff_of_isOutlastedBy h).2
      ⟨(sub_one_lt _).ne, ((sub_one_lt _).trans h.runs).le⟩
  have hduring : prior.prevails later prior.start ≠ true := fun hstart =>
    ((prevails_iff_of_isOutlastedBy h).1 hstart).1 rfl
  have hafter : prior.prevails later prior.stop = true :=
    (prevails_iff_of_isOutlastedBy h).2 ⟨h.runs.ne', le_rfl⟩
  exact ⟨_, _, _, sub_one_lt _, h.runs, hbefore.trans hafter.symm, hbefore ▸ hduring⟩

end Stretch

/-- **The prior rule does not flicker**, with the prior span starting no later, unless the spans
start together and the prior one ends first.  Then the prior candidate has the signal up to the end
of its span, except for the very start. -/
theorem prior_rule_flickers_iff {α : Type} [ExactScalar α] (prior later : Stretch α)
    (hfirst : prior.start ≤ later.start) :
    (Flickers (prior.prevails later) ↔ prior.IsOutlastedBy later)
      ∧ (prior.IsOutlastedBy later →
        ∀ t, prior.prevails later t = true ↔ t ≠ prior.start ∧ t ≤ prior.stop) := by
  refine ⟨⟨fun h => ?_, Stretch.flickers_of_isOutlastedBy⟩,
    fun h t => Stretch.prevails_iff_of_isOutlastedBy h⟩
  have hstart : prior.start = later.start := hfirst.eq_of_not_lt fun hlt =>
    not_flickers_of_antitone (Stretch.antitone_prevails hlt) h
  have hstop : prior.stop < later.stop := lt_of_not_ge fun hle =>
    not_flickers_of_monotone (Stretch.monotone_prevails hstart.ge hle) h
  have hruns : prior.start < prior.stop := lt_of_not_ge fun hshort =>
    not_flickers_of_antitone (Stretch.antitone_prevails_of_stop_le hstart.ge hstop hshort) h
  exact ⟨hstart, hruns, hstop⟩

/-- Five meters against ten from the same start flicker; from one meter on, they do not. -/
theorem fiveMeters_flicker :
    (Flickers (Stretch.prevails (⟨0, 5⟩ : Stretch ℝ) ⟨0, 10⟩)
        ∧ Stretch.prevails (⟨0, 5⟩ : Stretch ℝ) ⟨0, 10⟩ 5 = true)
      ∧ ¬ Flickers (Stretch.prevails (⟨0, 5⟩ : Stretch ℝ) ⟨1, 10⟩) := by
  have houtlasted : (⟨0, 5⟩ : Stretch ℝ).IsOutlastedBy ⟨0, 10⟩ :=
    ⟨rfl, by norm_num, by norm_num⟩
  obtain ⟨hflickers, hshape⟩ := prior_rule_flickers_iff (⟨0, 5⟩ : Stretch ℝ) ⟨0, 10⟩ le_rfl
  obtain ⟨hlater, -⟩ := prior_rule_flickers_iff (⟨0, 5⟩ : Stretch ℝ) ⟨1, 10⟩ (by norm_num)
  refine ⟨⟨hflickers.2 houtlasted, (hshape houtlasted 5).2 ⟨by norm_num, le_rfl⟩⟩, fun h => ?_⟩
  have htogether : (0 : ℝ) = 1 := (hlater.1 h).together
  norm_num at htogether

/-- **Ahead of its start the prior candidate has the signal, at its start not, and past it
again.** -/
theorem prior_rule_flickers :
    (-1 : ℝ) < 0 ∧ (0 : ℝ) < 1
      ∧ Stretch.prevails (⟨0, 5⟩ : Stretch ℝ) ⟨0, 10⟩ (-1) = true
      ∧ Stretch.prevails (⟨0, 5⟩ : Stretch ℝ) ⟨0, 10⟩ 0 = false
      ∧ Stretch.prevails (⟨0, 5⟩ : Stretch ℝ) ⟨0, 10⟩ 1 = true := by
  have houtlasted : (⟨0, 5⟩ : Stretch ℝ).IsOutlastedBy ⟨0, 10⟩ :=
    ⟨rfl, by norm_num, by norm_num⟩
  simp only [← Bool.not_eq_true, Stretch.prevails_iff_of_isOutlastedBy houtlasted]
  norm_num

/-- So it does on doubles. -/
example : [1, 0, -1].map (fun d : Float => priorPrevails d (d + 5) d (d + 10))
    = [true, false, true] := by decide +kernel

end DriveDecision
