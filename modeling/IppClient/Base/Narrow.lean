import Mathlib.Tactic.Common

/-!
# Narrowing an unsigned number to a signed one

`n as i32` keeps the low 32 bits of an unsigned number and reads them as signed. It is `wrapI32` of
the value, whatever the width it comes from.

* `toInt_narrow64`, `toInt_narrow32`: `u64 as i32` and `u32 as i32` are `wrapI32`.
* `wrapI32_ordered_iff`: where a narrowed number is neither negative nor below a smaller one's.
* `widen_eq`: `as u64` takes a narrowed number back, where it fitted.
-/

namespace Base

/-- The low 32 bits of a number, as a signed one. -/
def wrapI32 (n : Nat) : Int := (n : Int).bmod 4294967296

theorem toInt_narrow64 (n : UInt64) : n.toInt64.toInt32.toInt = wrapI32 n.toNat := by
  have h64 : n.toInt64.toInt = (n.toNat : Int).bmod (2 ^ 64) :=
    BitVec.toInt_eq_toNat_bmod n.toBitVec
  have hdvd : 2 ^ 32 ∣ 2 ^ 64 := Nat.pow_dvd_pow 2 (by decide)
  rw [Int64.toInt_toInt32, h64, Int.bmod_bmod_of_dvd hdvd]
  rfl

theorem toInt_narrow32 (n : UInt32) : n.toInt32.toInt = wrapI32 n.toNat :=
  BitVec.toInt_eq_toNat_bmod n.toBitVec

theorem wrapI32_cases (n : Nat) :
    (n % 4294967296 < 2147483648 ∧ wrapI32 n = (n % 4294967296 : Nat)) ∨
      (2147483648 ≤ n % 4294967296 ∧ wrapI32 n = (n % 4294967296 : Nat) - 4294967296) := by
  have hw : wrapI32 n = _ := Int.bmod_def n 4294967296
  have hcast : ((4294967296 : Nat) : Int) = 4294967296 := rfl
  rw [hcast] at hw
  omega

/-- A number below `2 ^ 31` is kept. -/
theorem wrapI32_of_lt {n : Nat} (h : n < 2147483648) : wrapI32 n = n := by
  rcases wrapI32_cases n with hn | hn <;> omega

theorem wrapI32_le (n : Nat) : wrapI32 n ≤ 2147483647 := by
  rcases wrapI32_cases n with h | h <;> omega

/-- The numbers that keep their place: those that fit, and those that wrap to the largest. -/
def KeepsPlace (n : Nat) : Prop := n < 2147483648 ∨ n % 4294967296 = 2147483647

instance (n : Nat) : Decidable (KeepsPlace n) := inferInstanceAs (Decidable (_ ∨ _))

/-- **Where narrowing keeps the order.** No smaller number is narrowed to a larger one exactly where
the number fits, or wraps to the largest of all. -/
theorem wrapI32_ordered_iff (n : Nat) :
    (0 ≤ wrapI32 n ∧ ∀ m ≤ n, wrapI32 m ≤ wrapI32 n) ↔ KeepsPlace n := by
  constructor
  · rintro ⟨-, hmono⟩
    by_cases h : n < 2147483648
    · exact .inl h
    · -- The largest number that fits is below `n`, so `n` is narrowed to it.
      have hle := hmono 2147483647 (by omega)
      have hmax : wrapI32 2147483647 = 2147483647 := wrapI32_of_lt (by decide)
      rw [hmax] at hle
      rcases wrapI32_cases n with hn | hn
      · exact .inr (by omega)
      · omega
  · rintro (h | h)
    · rw [wrapI32_of_lt h]
      refine ⟨by omega, fun m hm => ?_⟩
      rw [wrapI32_of_lt (by omega)]
      omega
    · have hn : wrapI32 n = 2147483647 := by
        rcases wrapI32_cases n with hn | hn <;> omega
      rw [hn]
      exact ⟨by decide, fun m _ => wrapI32_le m⟩

/-- A signed number with the value of an unsigned one is widened to it. -/
theorem widen_eq {v : Int32} {n : UInt64} (h : v.toInt = n.toNat) : v.toInt64.toUInt64 = n := by
  have hv : v.toInt64.toInt = n.toNat := by rw [Int32.toInt_toInt64, h]
  have hb : v.toInt64.toInt = (v.toInt64.toUInt64.toNat : Int).bmod (2 ^ 64) :=
    BitVec.toInt_eq_toNat_bmod v.toInt64.toBitVec
  have hlt : v.toInt64.toUInt64.toNat < 2 ^ 64 := UInt64.toNat_lt _
  have hn : v.toInt < 2147483648 := v.toInt_lt
  rw [hv, Int.bmod_def] at hb
  rw [← UInt64.toNat_inj]
  split at hb <;> omega

end Base
