import DriveDecision.Plane.Polyline
import Mathlib.Data.List.Basic

/-!
# Proofs/Access/Indexing — lists read by index

    index      0   1   2   …   n - 1 │ n
    fetch      ✓   ✓   ✓       ✓     │ fault

A list that is read by index may be read past its end, and a subtraction of counts may go below
zero.  Both are faults here (`Indexed.Fault`), so a computation that comes out `pure` has made
neither.  What is read may depend on what was read before.
-/

namespace DriveDecision

namespace Indexed

/-- What can be wrong with an index. -/
inductive Fault where
  | outOfRange (index length : Nat)
  | reversed (start stop : Nat)
  | belowZero (minuend subtrahend : Nat)
  deriving DecidableEq, Repr

/-- A computation that reads by index. -/
abbrev Access := Except Fault

variable {β γ : Type}

/-- Element `i`. -/
def fetch (bs : List β) (i : Nat) : Access β :=
  match bs[i]? with
  | some b => pure b
  | none => throw (.outOfRange i bs.length)

/-- The elements from `start` up to, and without, `stop`. -/
def slice (bs : List β) (start stop : Nat) : Access (List β) :=
  if stop < start then throw (.reversed start stop)
  else if bs.length < stop then throw (.outOfRange stop bs.length)
  else pure ((bs.take stop).drop start)

/-- A difference of counts. -/
def minus (m n : Nat) : Access Nat := if m < n then throw (.belowZero m n) else pure (m - n)

/-- The stretches of `k` elements in a row. -/
def windows (k : Nat) (bs : List β) : List (List β) :=
  (List.range (bs.length + 1 - k)).map fun i => (bs.drop i).take k

/-! ## In range -/

theorem fetch_eq {bs : List β} {i : Nat} {b : β} (h : bs[i]? = some b) : fetch bs i = pure b := by
  rw [fetch, h]

/-- **Exactly the indices below the length can be read.** -/
theorem isOk_fetch_iff {bs : List β} {i : Nat} :
    (fetch bs i).isOk = true ↔ i < bs.length := by
  rw [fetch]
  cases h : bs[i]? with
  | none => exact iff_of_false nofun (Nat.not_lt.2 (List.getElem?_eq_none_iff.1 h))
  | some b => exact iff_of_true rfl (List.getElem?_eq_some_iff.1 h).1

example : fetch [10, 11] 1 = pure 11 ∧ fetch [10, 11] 2 = throw (.outOfRange 2 2) := ⟨rfl, rfl⟩

theorem slice_eq {bs : List β} {start stop : Nat} (hle : start ≤ stop) (hstop : stop ≤ bs.length) :
    slice bs start stop = pure ((bs.take stop).drop start) := by
  rw [slice, if_neg (Nat.not_lt.2 hle), if_neg (Nat.not_lt.2 hstop)]

theorem minus_eq {m n : Nat} (h : n ≤ m) : minus m n = pure (m - n) := if_neg (Nat.not_lt.2 h)

/-! ## Reading many -/

theorem mapM_eq {f : β → Access γ} {g : β → γ} {bs : List β} (h : ∀ b ∈ bs, f b = pure (g b)) :
    bs.mapM f = pure (bs.map g) := by
  induction bs with
  | nil => rfl
  | cons b bs ih =>
    obtain ⟨hb, hrest⟩ := List.forall_mem_cons.1 h
    rw [List.mapM_cons, hb, ih hrest]
    rfl

theorem findM?_eq {f : β → Access Bool} {p : β → Bool} {bs : List β}
    (h : ∀ b ∈ bs, f b = pure (p b)) : bs.findM? f = pure (bs.find? p) := by
  induction bs with
  | nil => rfl
  | cons b bs ih =>
    obtain ⟨hb, hrest⟩ := List.forall_mem_cons.1 h
    rw [List.findM?, hb, List.find?_cons, pure_bind]
    cases p b
    · exact ih hrest
    · rfl

/-- The index of the first element with a property leads to it. -/
theorem find?_range (p : β → Bool) (bs : List β) :
    ((List.range bs.length).find? fun i => bs[i]?.any p).bind (bs[·]?) = bs.find? p := by
  have hread : (List.range bs.length).map (bs[·]?) = bs.map some := by
    refine List.ext_getElem (by simp) fun i _ hi => ?_
    simp only [List.length_map] at hi
    simp [hi]
  have hfind := congrArg (fun read => (read.find? (Option.any p)).bind id) hread
  simp only [List.find?_map, Option.bind_map] at hfind
  exact hfind.trans (Option.bind_fun_some _)

/-- Searching by index. -/
theorem findM?_range_eq (bs : List β) {f : Nat → Access Bool} {p : β → Bool}
    (h : ∀ i b, bs[i]? = some b → f i = pure (p b)) :
    (List.range bs.length).findM? f
      = pure ((List.range bs.length).find? fun i => bs[i]?.any p) := by
  refine findM?_eq fun i hi => ?_
  have hget := List.getElem?_eq_getElem (List.mem_range.1 hi)
  rw [hget, Option.any_some, h i _ hget]

/-- Reading the first `n` elements one by one is reading them. -/
theorem mapM_range_eq {f : Nat → Access γ} {g : β → γ} {bs : List β} {n : Nat}
    (hn : n ≤ bs.length) (h : ∀ i b, bs[i]? = some b → f i = pure (g b)) :
    (List.range n).mapM f = pure ((bs.take n).map g) := by
  induction n generalizing f bs with
  | zero => rfl
  | succ n ih =>
    cases bs with
    | nil => exact absurd hn (Nat.not_succ_le_zero n)
    | cons b bs =>
      have hrest : (List.range n).mapM (f ∘ Nat.succ) = pure ((bs.take n).map g) :=
        ih (Nat.le_of_succ_le_succ hn) fun i c hc => h (i + 1) c hc
      rw [List.range_succ_eq_map, List.mapM_cons, List.mapM_map, h 0 b rfl, pure_bind, hrest]
      rfl

/-- Two in a row are one and the one after it. -/
theorem windows_two (bs : List β) : windows 2 bs = (consecutive bs).map fun (a, b) => [a, b] := by
  refine List.ext_getElem (by simp [windows]) fun i hi _ => ?_
  have hi : i + 1 < bs.length := by
    simp only [windows, List.length_map, List.length_range] at hi
    omega
  have hdrop : bs.drop i = bs[i] :: bs[i + 1] :: bs.drop (i + 2) := by
    rw [List.drop_eq_getElem_cons (Nat.lt_of_succ_lt hi), List.drop_eq_getElem_cons hi]
  simp only [windows, consecutive, List.getElem_map, List.getElem_range, List.getElem_zip,
    List.getElem_tail, hdrop]
  rfl

/-- Each element with the one after it. -/
def pairs (bs : List β) : Access (List (β × β)) :=
  (windows 2 bs).mapM fun window => do return (← fetch window 0, ← fetch window 1)

@[simp] theorem pairs_eq (bs : List β) : pairs bs = pure (consecutive bs) := by
  rw [pairs, windows_two, List.mapM_map]
  exact (mapM_eq fun _ _ => rfl).trans (congrArg pure (List.map_id _))

end Indexed

end DriveDecision
