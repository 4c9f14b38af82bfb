import DriveDecision.Number.Binary64

/-!
# Time/Duration — spans of time to the nanosecond

A duration is a bounded count of nanoseconds: `2 ^ 64` seconds do not fit.  What comes in too large
is cut to the largest duration, and a difference never falls below zero.
-/

namespace DriveDecision

/-- A span of time, or a time since the epoch. -/
structure Duration where
  nanos : Nat
  /-- Less than `2 ^ 64` seconds. -/
  nanos_lt : nanos < 18446744073709551616000000000 := by decide
  deriving DecidableEq, Repr

namespace Duration

theorem ext_nanos {a b : Duration} (h : a.nanos = b.nanos) : a = b := by
  cases a
  cases b
  cases h
  rfl

def zero : Duration := ⟨0, by decide⟩

/-- The largest duration. -/
def greatest : Duration := ⟨18446744073709551615999999999, by decide⟩

instance : Inhabited Duration := ⟨zero⟩

instance : LT Duration := ⟨fun a b => a.nanos < b.nanos⟩
instance : LE Duration := ⟨fun a b => a.nanos ≤ b.nanos⟩
instance : DecidableLT Duration := fun a b => inferInstanceAs (Decidable (a.nanos < b.nanos))
instance : DecidableLE Duration := fun a b => inferInstanceAs (Decidable (a.nanos ≤ b.nanos))

theorem lt_def {a b : Duration} : a < b ↔ a.nanos < b.nanos := Iff.rfl

theorem le_def {a b : Duration} : a ≤ b ↔ a.nanos ≤ b.nanos := Iff.rfl

/-- A count of nanoseconds, cut to what fits. -/
def ofNanos (nanos : Nat) : Duration :=
  if h : nanos < 18446744073709551616000000000 then ⟨nanos, h⟩ else greatest

theorem nanos_ofNanos (n : Nat) : (ofNanos n).nanos = min n greatest.nanos := by
  unfold ofNanos
  split
  · simp only [greatest]
    omega
  · simp only [greatest]
    omega

/-- The nanoseconds of a second. -/
def perSecond : Nat := 1000000000

/-- Whole seconds. -/
def ofSeconds (n : Nat) : Duration := ofNanos (n * perSecond)

/-- The nanoseconds of a word. -/
def ofWord (nanos : UInt64) : Duration := ofNanos nanos.toNat

/-- The nanoseconds as a word, cut to what fits. -/
def toWord (d : Duration) : UInt64 := (min d.nanos 18446744073709551615).toUInt64

/-- Whole seconds of a duration. -/
def seconds (d : Duration) : Nat := d.nanos / perSecond

/-- The nanoseconds beyond the whole seconds. -/
def subNanos (d : Duration) : Nat := d.nanos % perSecond

/-- **The time from `earlier` to `later`**, or none at all when they come in the other order. -/
def since (later earlier : Duration) : Duration :=
  ⟨later.nanos - earlier.nanos, Nat.lt_of_le_of_lt (Nat.sub_le ..) later.nanos_lt⟩

@[simp] theorem nanos_since (later earlier : Duration) :
    (later.since earlier).nanos = later.nanos - earlier.nanos := rfl

@[simp] theorem ofWord_toWord_nanos (d : Duration) :
    (ofWord d.toWord).nanos = min d.nanos 18446744073709551615 := by
  have h : min d.nanos 18446744073709551615 < 18446744073709551616 := by omega
  simp only [ofWord, toWord, nanos_ofNanos, greatest]
  rw [show (min d.nanos 18446744073709551615).toUInt64.toNat
    = min d.nanos 18446744073709551615 from Nat.mod_eq_of_lt h]
  omega

@[simp] theorem nanos_ofWord (w : UInt64) : (ofWord w).nanos = w.toNat := by
  have h := w.toNat_lt
  simp only [ofWord, nanos_ofNanos, greatest]
  omega

theorem toWord_ofWord (w : UInt64) : (ofWord w).toWord = w := by
  have h := w.toNat_lt
  simp only [toWord, nanos_ofWord]
  rw [Nat.min_eq_left (by omega)]
  exact UInt64.ofNat_toNat

/-- **Seconds given as a double**, to the nearest nanosecond and a half to the even one.  What is
negative or no number is no time, and what does not fit is cut. -/
def ofFloatSeconds (x : Float) : Duration :=
  match Binary64.ofFloat x with
  | .nan | .infinite true | .finite true .. => zero
  | .infinite false => greatest
  | .finite false mantissa exponent =>
    let (num, den) := Binary64.quotient mantissa exponent
    ofNanos (roundHalfEven (num * perSecond) den)

/-! ## In words -/

/-- `count` units of which one has `10 ^ places` nanoseconds, with the places that matter. -/
def inUnit (count places : Nat) : String :=
  let unit := Nat.pow 10 places
  let fraction := (Nat.toDigits 10 (unit + count % unit)).tail
  let kept := (fraction.reverse.dropWhile (· == '0')).reverse
  toString (count / unit) ++ if kept.isEmpty then "" else "." ++ String.ofList kept

/-- **A duration in a message**: in the largest unit it fills, without trailing zeros. -/
def text (d : Duration) : String :=
  if 1000000000 ≤ d.nanos then inUnit d.nanos 9 ++ "s"
  else if 1000000 ≤ d.nanos then inUnit d.nanos 6 ++ "ms"
  else if 1000 ≤ d.nanos then inUnit d.nanos 3 ++ "µs"
  else inUnit d.nanos 0 ++ "ns"

end Duration

end DriveDecision
