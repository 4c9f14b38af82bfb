import DriveDecision.Proofs.Number.Order
import DriveDecision.Road.Path
import Mathlib.Data.List.Induction

/-!
# Proofs/Number/Least — the least of some numbers

    keys      5   3   7   3   4
                  ▲       ·             the first of the least: less than all before it,
                                        no greater than any after it

Going through a list and keeping the least so far finds the first of the least elements
(`firstLeast?_eq_some_iff`), as long as all keys compare.  The smaller of two doubles is the one
that is a number when only one is; so whatever is folded into a number leaves a number
(`Double.isLeastNumber_foldl_min`).
-/

namespace DriveDecision

/-! ## The first of the least -/

/-- **The first of the least** of some elements: its key is less than all before it, and no greater
than any after it. -/
def IsFirstLeast {α β : Type} [Scalar α] (key : β → α) (bs : List β) (b : β) : Prop :=
  ∃ before after, bs = before ++ b :: after ∧ (∀ c ∈ before, key b < key c)
    ∧ ∀ c ∈ after, key b ≤ key c

/-- **The first of some elements** with a property. -/
def IsFirstWith {β : Type} (p : β → Bool) (bs : List β) (b : β) : Prop :=
  ∃ before after, bs = before ++ b :: after ∧ p b = true ∧ ∀ c ∈ before, p c = false

theorem find?_eq_some_iff_isFirstWith {β : Type} {p : β → Bool} {bs : List β} {b : β} :
    bs.find? p = some b ↔ IsFirstWith p bs b := by
  simp only [IsFirstWith, List.find?_eq_some_iff_append, Bool.not_eq_true']
  exact ⟨fun ⟨hb, before, after, hsplit, hbefore⟩ => ⟨before, after, hsplit, hb, hbefore⟩,
    fun ⟨before, after, hsplit, hb, hbefore⟩ => ⟨hb, before, after, hsplit, hbefore⟩⟩

/-- Of two places in a list, one comes before the other unless they are the same. -/
theorem eq_or_mem_of_split_eq {β : Type} {before after before' after' : List β} {b c : β}
    (h : before ++ b :: after = before' ++ c :: after') :
    b = c ∨ (b ∈ before' ∧ c ∈ after) ∨ (c ∈ before ∧ b ∈ after') := by
  rcases List.append_eq_append_iff.1 h with ⟨between, rfl, hrest⟩ | ⟨between, rfl, hrest⟩
  · cases between with
    | nil => exact .inl (List.cons.inj hrest).1
    | cons first between =>
      obtain ⟨rfl, rfl⟩ := List.cons.inj hrest
      exact .inr (.inl (by simp))
  · cases between with
    | nil => exact .inl (List.cons.inj hrest).1.symm
    | cons first between =>
      obtain ⟨rfl, rfl⟩ := List.cons.inj hrest
      exact .inr (.inr (by simp))

section

variable {α β : Type} [Scalar α] {key : β → α} {bs : List β} {b c : β}

/-- One more element is taken if its key is less than the least so far. -/
theorem firstLeast?_concat (key : β → α) (bs : List β) (c : β) :
    firstLeast? key (bs ++ [c])
      = some ((firstLeast? key bs).elim c fun best => if key c < key best then c else best) := by
  cases bs with
  | nil => rfl
  | cons b bs => simp [firstLeast?]

theorem mem_of_firstLeast? (h : firstLeast? key bs = some b) : b ∈ bs := by
  induction bs using List.reverseRecOn generalizing b with
  | nil => cases h
  | append_singleton bs c ih =>
    rw [firstLeast?_concat] at h
    obtain rfl := Option.some.inj h
    cases hleast : firstLeast? key bs with
    | none => exact List.mem_append_right bs List.mem_cons_self
    | some best =>
      simp only [Option.elim_some]
      split_ifs
      · exact List.mem_append_right bs List.mem_cons_self
      · exact List.mem_append_left [c] (ih hleast)

theorem IsFirstLeast.mem (h : IsFirstLeast key bs b) : b ∈ bs := by
  obtain ⟨before, after, rfl, -, -⟩ := h
  simp

variable [OrderedScalar α]

/-- It is least among all. -/
theorem IsFirstLeast.le (h : IsFirstLeast key bs b) (hb : Scalar.IsNumber (key b)) (hc : c ∈ bs) :
    key b ≤ key c := by
  obtain ⟨before, after, rfl, hbefore, hafter⟩ := h
  rcases List.mem_append.1 hc with hc | hc
  · exact Scalar.le_of_lt (hbefore c hc)
  · rcases List.mem_cons.1 hc with rfl | hc
    · exact hb
    · exact hafter c hc

/-- **There is one at most**: of two, the later one would be less than the earlier. -/
theorem IsFirstLeast.unique (h : IsFirstLeast key bs b) (h' : IsFirstLeast key bs c) : b = c := by
  obtain ⟨before, after, rfl, hbefore, hafter⟩ := h
  obtain ⟨before', after', hsplit, hbefore', hafter'⟩ := h'
  rcases eq_or_mem_of_split_eq hsplit with heq | ⟨hb, hc⟩ | ⟨hc, hb⟩
  · exact heq
  · exact absurd (hbefore' b hb) (Scalar.not_lt_of_le (hafter c hc))
  · exact absurd (hbefore c hc) (Scalar.not_lt_of_le (hafter' b hb))

/-- **What is kept is the first of the least.** -/
theorem isFirstLeast_of_firstLeast? (hkeys : ∀ c ∈ bs, Scalar.IsNumber (key c))
    (h : firstLeast? key bs = some b) : IsFirstLeast key bs b := by
  induction bs using List.reverseRecOn generalizing b with
  | nil => cases h
  | append_singleton bs c ih =>
    have hrest : ∀ d ∈ bs, Scalar.IsNumber (key d) := fun d hd => hkeys d (by simp [hd])
    rw [firstLeast?_concat] at h
    cases hleast : firstLeast? key bs with
    | none =>
      rw [hleast] at h
      obtain rfl := Option.some.inj h
      rw [firstLeast?_eq_none_iff.1 hleast]
      exact ⟨[], [], rfl, nofun, nofun⟩
    | some best =>
      rw [hleast] at h
      obtain rfl := Option.some.inj h
      have hbest := ih hrest hleast
      have hnumber := hrest best hbest.mem
      simp only [Option.elim_some]
      split_ifs with hless
      · exact ⟨bs, [], rfl, fun d hd => Scalar.lt_of_lt_of_le hless (hbest.le hnumber hd), nofun⟩
      · obtain ⟨before, after, rfl, hbefore, hafter⟩ := hbest
        have hge : key best ≤ key c := ((hkeys c (by simp)).not_lt_iff hnumber).1 hless
        refine ⟨before, after ++ [c], by simp, hbefore, fun d hd => ?_⟩
        rcases List.mem_append.1 hd with hd | hd
        · exact hafter d hd
        · exact List.mem_singleton.1 hd ▸ hge

/-- **The first of the least, exactly.** -/
theorem firstLeast?_eq_some_iff (hkeys : ∀ c ∈ bs, Scalar.IsNumber (key c)) :
    firstLeast? key bs = some b ↔ IsFirstLeast key bs b := by
  refine ⟨isFirstLeast_of_firstLeast? hkeys, fun h => ?_⟩
  cases hleast : firstLeast? key bs with
  | none =>
    rw [firstLeast?_eq_none_iff] at hleast
    exact absurd h.mem (by simp [hleast])
  | some c => rw [(isFirstLeast_of_firstLeast? hkeys hleast).unique h]

end

/-! ## The least number -/

/-- **The least number among some scalars**, of which not all need be numbers. -/
structure IsLeastNumber {α : Type} [Scalar α] (ds : List α) (m : α) : Prop where
  isNumber : Scalar.IsNumber m
  mem : m ∈ ds
  le : ∀ d ∈ ds, Scalar.IsNumber d → m ≤ d

namespace Double

/-- A double equals itself exactly if it is a number. -/
theorem beq_self_iff {x : Float} : (x == x) = true ↔ Scalar.IsNumber x := by
  have hbeq : (x == x) = (x.toModel.unpack.compare x.toModel.unpack == some .eq) := rfl
  rw [hbeq, compare_unpack, isNumber_iff]
  cases x.isNaN <;> simp

/-- **Of a number and anything, the smaller is the least number.** -/
theorem isLeastNumber_min {x : Float} (hx : Scalar.IsNumber x) (y : Float) :
    IsLeastNumber [x, y] (Scalar.min x y) := by
  have hself : (decide (x ≤ y) || !(y == y)) = true ↔ x ≤ y ∨ ¬ Scalar.IsNumber y := by
    rw [Bool.or_eq_true, decide_eq_true_eq, Bool.not_eq_true', ← beq_self_iff, Bool.not_eq_true]
  unfold Scalar.min
  split_ifs with h
  · have hle : Scalar.IsNumber y → x ≤ y := fun hy => (hself.1 h).resolve_right fun hnot => hnot hy
    exact ⟨hx, List.mem_cons_self, by simpa using ⟨fun _ => hx, hle⟩⟩
  · obtain ⟨hnot, hy⟩ := not_or.1 (mt hself.2 h)
    rw [not_not] at hy
    have hle : y ≤ x := (OrderedScalar.le_total hx hy).resolve_left hnot
    exact ⟨hy, List.mem_cons_of_mem _ List.mem_cons_self,
      by simpa using ⟨fun _ => hle, fun _ => hy⟩⟩

/-- **Taking the smaller of each keeps the least number of all.** -/
theorem isLeastNumber_foldl_min {x : Float} (hx : Scalar.IsNumber x) (ds : List Float) :
    IsLeastNumber (x :: ds) (ds.foldl Scalar.min x) := by
  induction ds generalizing x with
  | nil =>
    refine ⟨hx, List.mem_cons_self, fun d hd hnumber => ?_⟩
    obtain rfl := List.mem_singleton.1 hd
    exact hnumber
  | cons d ds ih =>
    have hfirst := isLeastNumber_min hx d
    obtain ⟨hnumber, hmem, hle⟩ := ih hfirst.isNumber
    have hbelow : ds.foldl Scalar.min (Scalar.min x d) ≤ Scalar.min x d :=
      hle _ List.mem_cons_self hfirst.isNumber
    refine ⟨hnumber, ?_, fun e he heNumber => ?_⟩
    · rcases List.mem_cons.1 hmem with hmin | hmem
      · rw [List.foldl_cons, hmin]
        exact List.mem_append_left ds hfirst.mem
      · exact List.mem_append_right [x, d] hmem
    · rcases List.mem_append.1 (show e ∈ [x, d] ++ ds from he) with he | he
      · exact OrderedScalar.le_trans hbelow (hfirst.le e he heNumber)
      · exact hle e (List.mem_cons_of_mem _ he) heNumber

end Double

end DriveDecision
