import DevicePower.Timer
import Mathlib.Algebra.Order.Ring.Nat

/-!
# Conversions into ticks

A duration is converted in 64 bits. The product of two 32-bit numbers fits, so that the number of
ticks is the exact one, rounded down, unless it does not fit the counter.
-/

namespace DevicePower

/-- The product of two 32-bit numbers does not overflow 64 bits. -/
theorem toNat_product (frequency duration : UInt32) :
    (duration.toUInt64 * frequency.toUInt64).toNat = duration.toNat * frequency.toNat := by
  have bound : duration.toNat * frequency.toNat < 2 ^ 64 :=
    (Nat.mul_lt_mul'' duration.toNat_lt frequency.toNat_lt).trans_eq (by decide)
  rw [UInt64.toNat_mul, UInt32.toNat_toUInt64, UInt32.toNat_toUInt64, Nat.mod_eq_of_lt bound]

/-- The number of ticks is exact, or the largest one if that is less. -/
theorem toNat_ticks (frequency duration : UInt32) (perSecond : UInt64) :
    (ticks frequency duration perSecond).toNat =
      min (duration.toNat * frequency.toNat / perSecond.toNat) maxTicks.toNat := by
  have count : (duration.toUInt64 * frequency.toUInt64 / perSecond).toNat =
      duration.toNat * frequency.toNat / perSecond.toNat := by
    rw [UInt64.toNat_div, toNat_product]
  rw [ticks]
  split
  next beyond =>
    rw [UInt64.lt_iff_toNat_lt, UInt32.toNat_toUInt64, count] at beyond
    omega
  next within =>
    rw [UInt64.lt_iff_toNat_lt, UInt32.toNat_toUInt64, count] at within
    have fits : duration.toNat * frequency.toNat / perSecond.toNat < 2 ^ 32 := by
      have largest := maxTicks.toNat_lt
      omega
    rw [UInt64.toNat_toUInt32, count, Nat.mod_eq_of_lt fits]
    omega

theorem toNat_microsToTicks (frequency duration : UInt32) :
    (microsToTicks frequency duration).toNat =
      min (duration.toNat * frequency.toNat / 1000000) maxTicks.toNat :=
  toNat_ticks frequency duration 1000000

theorem toNat_millisToTicks (frequency duration : UInt32) :
    (millisToTicks frequency duration).toNat =
      min (duration.toNat * frequency.toNat / 1000) maxTicks.toNat :=
  toNat_ticks frequency duration 1000

end DevicePower
