import Mathlib.Tactic.Common

/-!
# `std::time::Duration`

A non-negative time span of whole seconds (a `u64`) and less than a second of nanoseconds. The
order is that of `asNanos`. Multiplication panics on overflow, so it is `none` there.

* `mul?_fromSecs`, `min_fromSecs`: the arithmetic of whole seconds.
-/

namespace Base

/-- `std::time::Duration`. -/
structure Duration where
  secs : UInt64
  nanos : Fin 1000000000
  deriving DecidableEq

namespace Duration

/-- `Duration::from_secs`. -/
def fromSecs (secs : UInt64) : Duration := ⟨secs, 0⟩

/-- `Duration::ZERO`. -/
def zero : Duration := fromSecs 0

/-- The whole span in nanoseconds (`Duration::as_nanos`). -/
def asNanos (d : Duration) : Nat := d.secs.toNat * 1000000000 + d.nanos

/-- `Duration::is_zero`. -/
def isZero (d : Duration) : Bool := d.secs == 0 && d.nanos == 0

/-- `Ord::min`. -/
def min (a b : Duration) : Duration := if a.asNanos ≤ b.asNanos then a else b

/-- `a * k`; `none` where it panics. -/
def mul? (d : Duration) (k : Nat) : Option Duration :=
  let n := d.asNanos * k
  if n / 1000000000 < UInt64.size then
    some ⟨UInt64.ofNat (n / 1000000000), ⟨n % 1000000000, Nat.mod_lt _ (by decide)⟩⟩
  else none

/-! ## Whole seconds -/

variable {a b s : UInt64}

@[simp] theorem asNanos_fromSecs (s : UInt64) :
    (fromSecs s).asNanos = s.toNat * 1000000000 := by
  simp [asNanos, fromSecs]

theorem isZero_fromSecs : (fromSecs s).isZero = true ↔ s = 0 := by
  simp [isZero, fromSecs]

/-- A multiple that fits is whole seconds again. -/
theorem mul?_fromSecs {k : Nat} (h : s.toNat * k < UInt64.size) :
    (fromSecs s).mul? k = some (fromSecs (.ofNat (s.toNat * k))) := by
  have hn : (fromSecs s).asNanos * k = s.toNat * k * 1000000000 := by
    rw [asNanos_fromSecs, Nat.mul_right_comm]
  have hdiv : s.toNat * k * 1000000000 / 1000000000 = s.toNat * k := by omega
  have hmod : s.toNat * k * 1000000000 % 1000000000 = 0 := by omega
  simp only [mul?, hn, hdiv, hmod, if_pos h]
  rfl

theorem min_fromSecs : (fromSecs a).min (fromSecs b) = fromSecs (if a ≤ b then a else b) := by
  have hle : a.toNat * 1000000000 ≤ b.toNat * 1000000000 ↔ a ≤ b := by
    rw [UInt64.le_iff_toNat_le]
    omega
  simp only [min, asNanos_fromSecs, hle]
  split <;> rfl

end Duration

/-- `std::time::SystemTime`, by its distance from the Unix epoch. -/
structure SystemTime where
  sinceEpoch : Duration
  deriving DecidableEq

end Base
