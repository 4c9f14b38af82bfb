import DriveDecision.Proofs.Number.Negation
import DriveDecision.Signal.Shift

/-!
# Proofs/Signal/Mirroring — shifts seen in a mirror, and backward

    from ╲ to │ within   left    right
    ──────────┼────────────────────────
    within    │          avoid   avoid
    left      │ rejoin   left
    right     │ rejoin           right

A shift fits one kind at most (`ShiftKind.Fits.unique`), and that is the kind it is given
(`of_eq_iff_fits`).  The table is its own mirror image but for the names of the two sides, and its
own transpose but for those of going out and coming back.  So a blinker is vetoed for a shift
exactly where, with all lengths negated and the neighbors exchanged, it is vetoed for the mirrored
one.
-/

namespace DriveDecision

namespace ShiftKind

/-! ## The conditions of the kinds -/

section

variable {α : Type} [Scalar α]

/-- **What makes a shift of a kind**, from `start` to `stop`.  Nothing makes one of no kind. -/
inductive Fits (start stop threshold : α) : ShiftKind → Prop
  | avoid (within : Scalar.abs start < threshold) (beyond : threshold < Scalar.abs stop) :
    Fits start stop threshold .avoid
  | rejoin (beyond : threshold < Scalar.abs start) (within : Scalar.abs stop < threshold) :
    Fits start stop threshold .rejoin
  | leftMiddle (before : threshold < start) (after : threshold < stop) :
    Fits start stop threshold .leftMiddle
  | rightMiddle (before : start < -threshold) (after : stop < -threshold) :
    Fits start stop threshold .rightMiddle

/-- **Both ends of a shift are measured**, against a threshold that can be exceeded. -/
structure IsMeasured (start stop threshold : α) : Prop where
  threshold : 0 ≤ threshold
  start : Scalar.IsNumber start
  stop : Scalar.IsNumber stop

/-- The kind in a mirror: left and right change places. -/
def mirrored : ShiftKind → ShiftKind
  | leftMiddle => rightMiddle
  | rightMiddle => leftMiddle
  | none => none
  | avoid => avoid
  | rejoin => rejoin

/-- The kind of the way back: going out and coming back change places. -/
def reversed : ShiftKind → ShiftKind
  | avoid => rejoin
  | rejoin => avoid
  | none => none
  | leftMiddle => leftMiddle
  | rightMiddle => rightMiddle

variable {start stop threshold : α}

/-- A kind that is given fits. -/
theorem fits_of (hkind : of start stop threshold ≠ .none) :
    Fits start stop threshold (of start stop threshold) := by
  unfold of at hkind ⊢
  split_ifs at hkind ⊢ with havoid hrejoin hleft hright
  · exact .avoid havoid.1 havoid.2
  · exact .rejoin hrejoin.1 hrejoin.2
  · exact .leftMiddle hleft.1 hleft.2
  · exact .rightMiddle hright.1 hright.2
  · exact absurd rfl hkind

end

variable {α : Type} [Scalar α] [SignedScalar α] {start stop threshold start' stop' : α}
  {kind other : ShiftKind}

/-! ## One kind at most -/

/-- An offset to the left is beyond the threshold… -/
theorem beyond_of_left (h : Scalar.IsNumber start) (hleft : threshold < start) :
    threshold < Scalar.abs start := h.lt_abs_iff.2 (.inl hleft)

/-- …and so is one to the right. -/
theorem beyond_of_right (h : Scalar.IsNumber start) (hright : start < -threshold) :
    threshold < Scalar.abs start := h.lt_abs_iff.2 (.inr (Scalar.lt_neg_iff.1 hright))

/-- No offset is on both sides. -/
theorem not_right_of_left (hthreshold : 0 ≤ threshold) (hleft : threshold < start) :
    ¬ start < -threshold := fun hright =>
  Scalar.not_lt_of_le (Scalar.neg_le_self hthreshold)
    (Scalar.lt_of_lt_of_le hleft (Scalar.le_of_lt hright))

/-- Between two offsets only the sides are left to tell. -/
theorem of_of_beyond (hstart : threshold < Scalar.abs start) (hstop : threshold < Scalar.abs stop) :
    of start stop threshold
      = if threshold < start ∧ threshold < stop then .leftMiddle
        else if start < -threshold ∧ stop < -threshold then .rightMiddle
        else .none := by
  rw [of, if_neg fun havoid => Scalar.not_lt_of_lt hstart havoid.1,
    if_neg fun hrejoin => Scalar.not_lt_of_lt hstop hrejoin.2]

/-- **A kind that fits is the one given.** -/
theorem Fits.of_eq (h : Fits start stop threshold kind) (hm : IsMeasured start stop threshold) :
    of start stop threshold = kind := by
  cases h with
  | avoid within beyond => exact if_pos ⟨within, beyond⟩
  | rejoin beyond within =>
    rw [of, if_neg fun havoid => Scalar.not_lt_of_lt beyond havoid.1, if_pos ⟨beyond, within⟩]
  | leftMiddle before after =>
    rw [of_of_beyond (beyond_of_left hm.start before) (beyond_of_left hm.stop after),
      if_pos ⟨before, after⟩]
  | rightMiddle before after =>
    rw [of_of_beyond (beyond_of_right hm.start before) (beyond_of_right hm.stop after),
      if_neg fun hleft => not_right_of_left hm.threshold hleft.1 before, if_pos ⟨before, after⟩]

/-- **A shift fits one kind at most.** -/
theorem Fits.unique (h : Fits start stop threshold kind) (h' : Fits start stop threshold other)
    (hm : IsMeasured start stop threshold) : kind = other := (h.of_eq hm).symm.trans (h'.of_eq hm)

/-- **The kind given is the one that fits**… -/
theorem of_eq_iff_fits (hm : IsMeasured start stop threshold) (hkind : kind ≠ .none) :
    of start stop threshold = kind ↔ Fits start stop threshold kind := by
  refine ⟨?_, fun h => h.of_eq hm⟩
  rintro rfl
  exact fits_of hkind

/-- …and none if none does. -/
theorem of_eq_none_iff (hm : IsMeasured start stop threshold) :
    of start stop threshold = .none ↔ ∀ kind, ¬ Fits start stop threshold kind := by
  constructor
  · intro hnone kind h
    obtain rfl := hnone.symm.trans (h.of_eq hm)
    cases h
  · intro hnone
    by_contra hkind
    exact hnone _ (fits_of hkind)

/-- **Where the conditions of two shifts correspond, so do their kinds.** -/
theorem of_eq_of_fits {f : ShiftKind → ShiftKind} (hnone : f .none = .none)
    (hm : IsMeasured start stop threshold) (hm' : IsMeasured start' stop' threshold)
    (hfits : ∀ kind, Fits start stop threshold kind → Fits start' stop' threshold (f kind))
    (hback : ∀ kind, Fits start' stop' threshold kind → Fits start stop threshold (f kind)) :
    of start' stop' threshold = f (of start stop threshold) := by
  by_cases hkind : of start stop threshold = .none
  · rw [hkind, hnone, of_eq_none_iff hm']
    exact fun kind h => (of_eq_none_iff hm).1 hkind _ (hback kind h)
  · exact (hfits _ (fits_of hkind)).of_eq hm'

/-! ## Mirrored and reversed -/

theorem IsMeasured.mirrored (hm : IsMeasured start stop threshold) :
    IsMeasured (-start) (-stop) threshold where
  threshold := hm.threshold
  start := hm.start.neg
  stop := hm.stop.neg

/-- The mirrored shift fits the mirrored kind. -/
theorem Fits.mirrored (h : Fits start stop threshold kind) (hm : IsMeasured start stop threshold) :
    Fits (-start) (-stop) threshold kind.mirrored := by
  cases h with
  | avoid within beyond =>
    exact .avoid (hm.start.abs_neg_lt_iff.2 within) (hm.stop.lt_abs_neg_iff.2 beyond)
  | rejoin beyond within =>
    exact .rejoin (hm.start.lt_abs_neg_iff.2 beyond) (hm.stop.abs_neg_lt_iff.2 within)
  | leftMiddle before after =>
    exact .rightMiddle (Scalar.neg_lt_neg_iff.2 before) (Scalar.neg_lt_neg_iff.2 after)
  | rightMiddle before after =>
    exact .leftMiddle (Scalar.lt_neg_iff.1 before) (Scalar.lt_neg_iff.1 after)

/-- **Mirrored, a shift is of the mirrored kind.** -/
theorem of_mirrored (hm : IsMeasured start stop threshold) :
    of (-start) (-stop) threshold = (of start stop threshold).mirrored := by
  refine of_eq_of_fits rfl hm hm.mirrored (fun kind h => h.mirrored hm) fun kind h => ?_
  have hback := h.mirrored hm.mirrored
  rwa [SignedScalar.neg_neg, SignedScalar.neg_neg] at hback

omit [SignedScalar α] in
/-- The way back fits the reversed kind. -/
theorem Fits.reversed (h : Fits start stop threshold kind) :
    Fits stop start threshold kind.reversed := by
  cases h with
  | avoid within beyond => exact .rejoin beyond within
  | rejoin beyond within => exact .avoid within beyond
  | leftMiddle before after => exact .leftMiddle after before
  | rightMiddle before after => exact .rightMiddle after before

/-- **Reversed, a shift is of the reversed kind.** -/
theorem of_reversed (hm : IsMeasured start stop threshold) :
    of stop start threshold = (of start stop threshold).reversed :=
  of_eq_of_fits rfl hm ⟨hm.threshold, hm.stop, hm.start⟩ (fun _ => Fits.reversed)
    fun _ => Fits.reversed

/-- **The veto in the mirror**: what a kind and a direction ask of one side, their mirror images ask
of the other. -/
theorem hasSideLane_mirrored (kind : ShiftKind) (relative : α) (hasLeft hasRight : Bool) :
    kind.mirrored.hasSideLane (-relative) hasRight hasLeft
      = kind.hasSideLane relative hasLeft hasRight := by
  cases kind <;>
    simp only [mirrored, hasSideLane, Scalar.zero_lt_neg_iff, Scalar.neg_lt_zero_iff]
  case avoid | rejoin => rw [Bool.and_comm]
  case leftMiddle | rightMiddle => rw [Bool.or_comm]

end ShiftKind

/-- **Shifts are classified alike in a mirror and backward.**  For a threshold that is not negative
and ends that are numbers, a shift fits one kind at most, is given that kind, and none if it fits
none.  Negating both ends exchanges left and right, exchanging the ends exchanges going out and
coming back; and a blinker is vetoed for the mirrored shift exactly if, with the neighbors
exchanged, it is for the shift. -/
theorem shift_kinds_mirrored {α : Type} [Scalar α] [SignedScalar α] (start stop threshold : α)
    (hthreshold : 0 ≤ threshold) (hstart : Scalar.IsNumber start) (hstop : Scalar.IsNumber stop) :
    let kind := ShiftKind.of start stop threshold
    (∀ left right, ShiftKind.Fits start stop threshold left →
        ShiftKind.Fits start stop threshold right → left = right)
      ∧ (∀ given, given ≠ .none → (kind = given ↔ ShiftKind.Fits start stop threshold given))
      ∧ (kind = .none ↔ ∀ given, ¬ ShiftKind.Fits start stop threshold given)
      ∧ ShiftKind.of (-start) (-stop) threshold = kind.mirrored
      ∧ ShiftKind.of stop start threshold = kind.reversed
      ∧ ∀ hasLeft hasRight,
        (ShiftKind.of (-start) (-stop) threshold).hasSideLane (-(stop - start)) hasRight hasLeft
          = kind.hasSideLane (stop - start) hasLeft hasRight := by
  have hm : ShiftKind.IsMeasured start stop threshold := ⟨hthreshold, hstart, hstop⟩
  refine ⟨fun _ _ h h' => h.unique h' hm, fun _ => ShiftKind.of_eq_iff_fits hm,
    ShiftKind.of_eq_none_iff hm, ShiftKind.of_mirrored hm, ShiftKind.of_reversed hm,
    fun hasLeft hasRight => ?_⟩
  rw [ShiftKind.of_mirrored hm, ShiftKind.hasSideLane_mirrored]

/-- A shift between two offsets to the left, mirrored, needs the lane on the right. -/
theorem leftMiddle_mirrored :
    (0 : Float) ≤ 0.3 ∧ Scalar.IsNumber (1 : Float) ∧ Scalar.IsNumber (0.5 : Float)
      ∧ ShiftKind.Fits (1 : Float) 0.5 0.3 .leftMiddle
      ∧ ShiftKind.of (-1 : Float) (-0.5) 0.3 = .rightMiddle
      ∧ (ShiftKind.of (-1 : Float) (-0.5) 0.3).hasSideLane (-(0.5 - 1)) true false = false
      ∧ (ShiftKind.of (1 : Float) 0.5 0.3).hasSideLane (0.5 - 1) false true = false := by
  have hthreshold : (0 : Float) ≤ 0.3 := by decide +kernel
  have hone : Scalar.IsNumber (1 : Float) := Double.isNumber_iff.2 (by decide +kernel)
  have hhalf : Scalar.IsNumber (0.5 : Float) := Double.isNumber_iff.2 (by decide +kernel)
  have hkind : ShiftKind.of (1 : Float) 0.5 0.3 = .leftMiddle := by decide +kernel
  have hvetoed : (ShiftKind.of (1 : Float) 0.5 0.3).hasSideLane (0.5 - 1) false true = false := by
    decide +kernel
  obtain ⟨-, hfits, -, hmirrored, -, hveto⟩ := shift_kinds_mirrored 1 0.5 0.3 hthreshold hone hhalf
  refine ⟨hthreshold, hone, hhalf, (hfits _ (by decide)).1 hkind, ?_, ?_, hvetoed⟩
  · rw [hmirrored, hkind]
    rfl
  · rw [hveto, hvetoed]

end DriveDecision
