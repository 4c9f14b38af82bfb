import DriveDecision.Proofs.Number.Exact
import DriveDecision.Road.Network

/-!
# Proofs/Road/Neighbors — when being a neighbor is mutual

    given     1 │ 2        1 │ 3        5 │ 2          `a │ b`: `b` lies to the left of `a`
    left      1 ↦ 2        1 ↦ 3        1 ↦ 3, 5 ↦ 2
    right     2 ↦ 1        2 ↦ 1, 3 ↦ 1 3 ↦ 1, 2 ↦ 5
              mutual       2 is left    mutual again
                           of nobody

A map keeps a table for each side, and a pair that is given is written into both.  Each table finds
the pair that was given last: the left one for the lane, the right one for its neighbor.  Nothing is
taken out of the other table when a neighbor is replaced, so the two agree exactly if the last pair
for a lane is always the last one for the neighbor, and conversely (`isSymmetric_built_iff`).
-/

namespace DriveDecision

variable {α : Type} [Scalar α]

/-! ## Building a map -/

/-- One addition to a map. -/
inductive Network.Edit (α : Type) where
  | insert (lane : Lane α)
  | leftNeighbor (id other : LaneId)
  | leftOpposite (id other : LaneId)
  | rightOpposite (id other : LaneId)
  | route (route : List LaneId) (start : Pose α)

omit [Scalar α] in
/-- The pair of a lane and its left neighbor that is given. -/
def Network.Edit.pair? : Edit α → Option (LaneId × LaneId)
  | leftNeighbor id other => some (id, other)
  | insert _ | leftOpposite _ _ | rightOpposite _ _ | route _ _ => none

omit [Scalar α] in
/-- **The pairs given**, first to last. -/
def pairsGiven (edits : List (Network.Edit α)) : List (LaneId × LaneId) :=
  edits.filterMap (·.pair?)

/-- **The last pair with its key** among some pairs. -/
def IsLatest (key : LaneId × LaneId → LaneId) (pair : LaneId × LaneId)
    (pairs : List (LaneId × LaneId)) : Prop :=
  ∃ earlier later, pairs = earlier ++ pair :: later ∧ ∀ other ∈ later, key other ≠ key pair

/-- Where no key comes twice, every pair is the last one with its key. -/
theorem isLatest_iff_mem_of_nodup {key : LaneId × LaneId → LaneId}
    {pairs : List (LaneId × LaneId)} (h : (pairs.map key).Nodup) (pair : LaneId × LaneId) :
    IsLatest key pair pairs ↔ pair ∈ pairs := by
  constructor
  · rintro ⟨earlier, later, rfl, -⟩
    exact List.mem_append_right _ (List.mem_cons_self ..)
  · intro hmem
    obtain ⟨earlier, later, rfl⟩ := List.append_of_mem hmem
    rw [List.map_append, List.map_cons, List.nodup_append, List.nodup_cons] at h
    refine ⟨earlier, later, rfl, fun other hother heq => h.2.1.1 ?_⟩
    rw [← heq]
    exact List.mem_map_of_mem hother

/-- Of two entries for a lane the one written later is found. -/
theorem lookup_cons_eq_ite {β : Type} (id key : LaneId) (value : β) (table : LaneTable β) :
    List.lookup id ((key, value) :: table) = if id = key then some value else table.lookup id := by
  rw [List.lookup_cons]
  split_ifs with h
  · rw [h, beq_self_eq_true]
  · rw [beq_eq_false_iff_ne.2 h]

namespace Network

variable {net : Network α} {edits : List (Edit α)} {a b : LaneId}

omit [Scalar α] in
/-- One addition. -/
def edited (net : Network α) : Edit α → Network α
  | .insert lane => net.insert lane
  | .leftNeighbor id other => net.setLeftNeighbor id other
  | .leftOpposite id other => net.addLeftOpposite id other
  | .rightOpposite id other => net.addRightOpposite id other
  | .route route start => net.setRoute route start

/-- **A map**, built from nothing. -/
def built (edits : List (Edit α)) : Network α := edits.foldl edited empty

omit [Scalar α] in
/-- **Being a neighbor is mutual.** -/
def IsSymmetric (net : Network α) : Prop :=
  ∀ a b, net.left.lookup a = some b ↔ net.right.lookup b = some a

/-! ## What the tables hold -/

theorem built_concat (edits : List (Edit α)) (edit : Edit α) :
    built (edits ++ [edit]) = (built edits).edited edit := by
  rw [built, List.foldl_append]
  rfl

/-- **Both tables hold the pairs given**, the last one first. -/
theorem tables_built (edits : List (Edit α)) :
    (built edits).left = (pairsGiven edits).reverse
      ∧ (built edits).right = (pairsGiven edits).reverse.map Prod.swap := by
  induction edits using List.reverseRecOn with
  | nil => exact ⟨rfl, rfl⟩
  | append_singleton edits edit ih =>
    obtain ⟨hleft, hright⟩ := ih
    rw [built_concat, pairsGiven, List.filterMap_append, List.reverse_append]
    cases edit with
    | leftNeighbor id other => exact ⟨congrArg _ hleft, congrArg _ hright⟩
    | insert lane => exact ⟨hleft, hright⟩
    | leftOpposite id other => exact ⟨hleft, hright⟩
    | rightOpposite id other => exact ⟨hleft, hright⟩
    | route route start => exact ⟨hleft, hright⟩

/-- The first pair found from the end is the last one. -/
theorem lookup_reverse_map_eq_some_iff {key : LaneId × LaneId → LaneId}
    {entry : LaneId × LaneId → LaneId × LaneId} (hentry : ∀ pair, (entry pair).1 = key pair)
    (hinjective : Function.Injective entry) {pairs : List (LaneId × LaneId)}
    (pair : LaneId × LaneId) :
    (pairs.reverse.map entry).lookup (key pair) = some (entry pair).2
      ↔ IsLatest key pair pairs := by
  rw [List.lookup_eq_some_iff, ← hentry pair]
  constructor
  · rintro ⟨later, earlier, hsplit, hlater⟩
    obtain ⟨first, rest, hpairs, rfl, hrest⟩ := List.map_eq_append_iff.1 hsplit
    obtain ⟨found, second, rfl, hfound, rfl⟩ := List.map_eq_cons_iff.1 hrest
    obtain rfl : found = pair := hinjective hfound
    refine ⟨second.reverse, first.reverse, ?_, fun other hother => ?_⟩
    · rw [← List.reverse_reverse pairs, hpairs]
      simp
    · have hne := hlater (entry other) (List.mem_map_of_mem (List.mem_reverse.1 hother))
      rw [bne_iff_ne, hentry, hentry] at hne
      exact hne.symm
  · rintro ⟨earlier, later, rfl, hlater⟩
    refine ⟨later.reverse.map entry, earlier.reverse.map entry, by simp, fun other hother => ?_⟩
    obtain ⟨given, hgiven, rfl⟩ := List.mem_map.1 hother
    rw [bne_iff_ne, hentry, hentry]
    exact (hlater given (List.mem_reverse.1 hgiven)).symm

/-- **A lane's left neighbor** is the one it was given last. -/
theorem left_built_eq_some_iff :
    (built edits).left.lookup a = some b ↔ IsLatest Prod.fst (a, b) (pairsGiven edits) := by
  rw [(tables_built edits).1, ← List.map_id (pairsGiven edits).reverse]
  exact lookup_reverse_map_eq_some_iff (fun _ => rfl) Function.injective_id (a, b)

/-- **A lane's right neighbor** is the one it was given to last. -/
theorem right_built_eq_some_iff :
    (built edits).right.lookup b = some a ↔ IsLatest Prod.snd (a, b) (pairsGiven edits) := by
  rw [(tables_built edits).2]
  exact lookup_reverse_map_eq_some_iff (fun _ => rfl) Prod.swap_injective (a, b)

/-- **Mutual or not, exactly**: the last pair for a lane is the last one for its neighbor. -/
theorem isSymmetric_built_iff :
    (built edits).IsSymmetric ↔ ∀ pair,
      IsLatest Prod.fst pair (pairsGiven edits) ↔ IsLatest Prod.snd pair (pairsGiven edits) := by
  simp only [IsSymmetric, left_built_eq_some_iff, right_built_eq_some_iff, Prod.forall]

/-- **A map in which no lane is given twice**, on neither side, is mutual. -/
theorem isSymmetric_built_of_nodup (hlanes : ((pairsGiven edits).map Prod.fst).Nodup)
    (hneighbors : ((pairsGiven edits).map Prod.snd).Nodup) : (built edits).IsSymmetric :=
  isSymmetric_built_iff.2 fun pair =>
    (isLatest_iff_mem_of_nodup hlanes pair).trans (isLatest_iff_mem_of_nodup hneighbors pair).symm

/-! ## One more neighbor -/

omit [Scalar α] in
/-- **A new pair keeps a map mutual exactly if it replaces no neighbor**, on neither side. -/
theorem isSymmetric_setLeftNeighbor_iff (h : net.IsSymmetric) :
    (net.setLeftNeighbor a b).IsSymmetric
      ↔ (∀ other, net.left.lookup a = some other → other = b)
        ∧ ∀ other, net.right.lookup b = some other → other = a := by
  simp only [IsSymmetric, setLeftNeighbor, lookup_cons_eq_ite]
  constructor
  · intro hmutual
    refine ⟨fun other hother => ?_, fun other hother => ?_⟩
    · by_contra hne
      have := (hmutual a other).2 (by rw [if_neg hne]; exact (h a other).1 hother)
      rw [if_pos rfl] at this
      exact hne (Option.some.inj this).symm
    · by_contra hne
      have := (hmutual other b).1 (by rw [if_neg hne]; exact (h other b).2 hother)
      rw [if_pos rfl] at this
      exact hne (Option.some.inj this).symm
  · rintro ⟨hkeepsLeft, hkeepsRight⟩ x y
    by_cases hx : x = a <;> by_cases hy : y = b
    · simp [hx, hy]
    · subst hx
      simp only [if_true, if_neg hy, ← h x y]
      exact ⟨fun hsome => absurd (Option.some.inj hsome).symm hy,
        fun hsome => absurd (hkeepsLeft y hsome) hy⟩
    · subst hy
      simp only [if_true, if_neg hx, h x y]
      exact ⟨fun hsome => absurd (hkeepsRight x hsome) hx,
        fun hsome => absurd (Option.some.inj hsome).symm hx⟩
    · simp only [if_neg hx, if_neg hy]
      exact h x y

/-! ## Lanes to the right -/

theorem rightOpposite_built (edits : List (Edit α)) (b : LaneId)
    (h : ∀ other, .rightOpposite b other ∉ edits) :
    (built edits).rightOpposite.lookup b = none := by
  induction edits using List.reverseRecOn with
  | nil => rfl
  | append_singleton edits edit ih =>
    have hrest := ih fun other hmem => h other (List.mem_append_left _ hmem)
    rw [built_concat]
    cases edit with
    | rightOpposite id other =>
      have hne : b ≠ id := by
        rintro rfl
        exact h other (List.mem_append_right _ (List.mem_singleton_self _))
      rw [edited, addRightOpposite, lookup_cons_eq_ite, if_neg hne]
      exact hrest
    | insert lane => exact hrest
    | leftNeighbor id other => exact hrest
    | leftOpposite id other => exact hrest
    | route route start => exact hrest

/-- **A lane that was ever given as a left neighbor has a lane to its right**, for good. -/
theorem hasRight_built_iff (hopposite : (built edits).rightOpposite.lookup b = none) :
    (built edits).hasRight b = true ↔ ∃ a, (a, b) ∈ pairsGiven edits := by
  rw [hasRight, hopposite, (tables_built edits).2, Option.isSome_none, Bool.or_false,
    List.lookup_isSome_iff]
  simp

omit [Scalar α] in
/-- **Where being a neighbor is mutual**, it has one as long as it is the left neighbor of some
lane. -/
theorem hasRight_iff_of_isSymmetric (h : net.IsSymmetric)
    (hopposite : net.rightOpposite.lookup b = none) :
    net.hasRight b = true ↔ ∃ a, net.left.lookup a = some b := by
  rw [hasRight, hopposite, Option.isSome_none, Bool.or_false, Option.isSome_iff_exists]
  exact exists_congr fun a => (h a b).symm

end Network

/-- **When being a neighbor is mutual.**  However a map is built: a lane's left neighbor is the one
it was given last, and a lane's right neighbor the one it was given to last.  Being a neighbor is
mutual exactly if these are always the same pairs, as they are if no lane is given twice on either
side; one more pair keeps it mutual exactly if it replaces no neighbor of either lane.  Then,
opposite lanes apart, a lane has one to its right exactly if it is the left neighbor of some lane;
in any case, exactly if it ever was given as one. -/
theorem neighbors_symmetric_iff (edits : List (Network.Edit α)) :
    let net := Network.built edits
    let pairs := pairsGiven edits
    (∀ a b, net.left.lookup a = some b ↔ IsLatest Prod.fst (a, b) pairs)
      ∧ (∀ a b, net.right.lookup b = some a ↔ IsLatest Prod.snd (a, b) pairs)
      ∧ (net.IsSymmetric ↔ ∀ pair, IsLatest Prod.fst pair pairs ↔ IsLatest Prod.snd pair pairs)
      ∧ ((pairs.map Prod.fst).Nodup → (pairs.map Prod.snd).Nodup → net.IsSymmetric)
      ∧ (net.IsSymmetric → ∀ a b, (net.setLeftNeighbor a b).IsSymmetric
          ↔ (∀ other, net.left.lookup a = some other → other = b)
            ∧ ∀ other, net.right.lookup b = some other → other = a)
      ∧ ∀ b, (∀ other, .rightOpposite b other ∉ edits) →
          (net.hasRight b = true ↔ ∃ a, (a, b) ∈ pairs)
            ∧ (net.IsSymmetric → (net.hasRight b = true ↔ ∃ a, net.left.lookup a = some b)) := by
  refine ⟨fun _ _ => Network.left_built_eq_some_iff, fun _ _ => Network.right_built_eq_some_iff,
    Network.isSymmetric_built_iff, Network.isSymmetric_built_of_nodup,
    fun h _ _ => Network.isSymmetric_setLeftNeighbor_iff h, fun b hopposite => ?_⟩
  have hnone := Network.rightOpposite_built edits b hopposite
  exact ⟨Network.hasRight_built_iff hnone,
    fun hsymmetric => Network.hasRight_iff_of_isSymmetric hsymmetric hnone⟩

/-- Three lanes side by side are neighbors mutually, and the middle one is to the left of the first;
giving the first another left neighbor would end that. -/
theorem sideBySide_symmetric :
    let edits : List (Network.Edit ℚ) :=
      [.leftNeighbor 1 2, .leftOpposite 3 9, .leftNeighbor 2 3, .rightOpposite 1 8]
    let net := Network.built edits
    (∀ other, .rightOpposite 2 other ∉ edits) ∧ net.IsSymmetric
      ∧ (∃ a, net.left.lookup a = some 2) ∧ ¬ (net.setLeftNeighbor 1 3).IsSymmetric := by
  intro edits net
  obtain ⟨-, -, -, hdistinct, hnext, hside⟩ := neighbors_symmetric_iff edits
  have hsymmetric : net.IsSymmetric := hdistinct (by decide) (by decide)
  have hopposite : ∀ other, .rightOpposite 2 other ∉ edits := by simp [edits]
  have hright : net.hasRight 2 = true := by decide +kernel
  refine ⟨hopposite, hsymmetric, ((hside 2 hopposite).2 hsymmetric).1 hright, fun hstill => ?_⟩
  have hleft : net.left.lookup 1 = some 2 := by decide +kernel
  exact absurd (((hnext hsymmetric 1 3).1 hstill).1 2 hleft) (by decide)

/-- **A neighbor that is replaced stays behind**: lane two is no longer to the left of lane one, nor
of any other, and still has lane one to its right. -/
theorem replaced_neighbor_stays_behind :
    let net : Network ℚ := Network.built [.leftNeighbor 1 2, .leftNeighbor 1 3]
    net.left.lookup 1 = some 3 ∧ net.right.lookup 2 = some 1 ∧ net.rightOpposite = []
      ∧ net.hasRight 2 = true ∧ ¬ ∃ a, net.left.lookup a = some 2 := by
  refine ⟨rfl, rfl, rfl, by decide +kernel, ?_⟩
  rintro ⟨a, ha⟩
  change List.lookup a [(1, 3), (1, 2)] = some 2 at ha
  rw [lookup_cons_eq_ite, lookup_cons_eq_ite] at ha
  split_ifs at ha with hone
  · cases ha
  · cases ha

end DriveDecision
