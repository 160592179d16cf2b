import Mathlib.Algebra.Group.Nat.Defs
import Mathlib.Algebra.Order.Group.Abs
import Mathlib.Algebra.Order.Group.Int

/-!
# Lib.Words — differences of machine integers

What a comparison of an `int64_t` difference says about the integers, when the difference may have wrapped around.
-/

namespace AutopilotManager.Lib

/-- The magnitude of an `int64_t`, seen as `uint64_t`, bounds the integer. -/
theorem abs_toInt_le_of_abs {x : Int64} {n : ℕ} (h : x.abs.toUInt64.toNat ≤ n) : |x.toInt| ≤ n := by
  have habs : x.toBitVec.abs.toNat ≤ n := h
  have hlt := x.toBitVec.isLt
  rw [BitVec.toNat_abs] at habs
  have htoInt : x.toInt = x.toBitVec.toInt := rfl
  rw [htoInt, BitVec.toInt_eq_msb_cond, abs_le]
  split at habs
  · rename_i hmsb
    rw [if_pos hmsb]
    omega
  · rename_i hmsb
    rw [if_neg hmsb]
    omega

/-- The bound of the integer bounds its magnitude. -/
theorem abs_le_of_abs_toInt {x : Int64} {n : ℕ} (h : |x.toInt| ≤ n) : x.abs.toUInt64.toNat ≤ n := by
  have hlt := x.toBitVec.isLt
  have htoInt : x.toInt = x.toBitVec.toInt := rfl
  have htoNat : x.abs.toUInt64.toNat = x.toBitVec.abs.toNat := rfl
  rw [htoInt, BitVec.toInt_eq_msb_cond, abs_le] at h
  rw [htoNat, BitVec.toNat_abs]
  split at h
  · rename_i hmsb
    rw [if_pos hmsb]
    omega
  · rename_i hmsb
    rw [if_neg hmsb]
    omega

/-- A positive `int64_t` has the same value as `uint64_t`. -/
theorem toNat_toUInt64_of_pos {x : Int64} (h : 0 < x) : (x.toUInt64.toNat : ℤ) = x.toInt := by
  have hpos : (0 : Int64).toInt < x.toInt := Int64.lt_iff_toInt_lt.mp h
  have hzero : (0 : Int64).toInt = 0 := rfl
  rw [Int64.toNat_toUInt64_of_le (Int64.le_of_lt h)]
  have hclamp : x.toNatClampNeg = x.toInt.toNat := rfl
  rw [hclamp]
  omega

/-- Half of an `int64_t` leaves room for a difference. -/
theorem toInt_half_bounds (x : Int64) : -2 ^ 62 ≤ (x / 2).toInt ∧ (x / 2).toInt < 2 ^ 62 := by
  have hlt := x.toInt_lt
  have hle := x.le_toInt
  have htwo : (2 : Int64).toInt = 2 := rfl
  rw [Int64.toInt_div_of_ne_right _ _ (by decide), htwo]
  rcases Int.le_total 0 x.toInt with hpos | hneg
  · rw [Int.tdiv_eq_ediv_of_nonneg hpos]
    omega
  · have hdiv : (-x.toInt).tdiv 2 = -x.toInt / 2 := Int.tdiv_eq_ediv_of_nonneg (by omega)
    rw [Int.neg_tdiv] at hdiv
    omega

/-- A small wrapped difference is the difference, if one side is half of an `int64_t`. -/
theorem abs_sub_le_of_wrapped {x y : Int64} {n : ℕ} (h : |(x - y / 2).toInt| ≤ n) (hn : n < 2 ^ 62) :
    |x.toInt - (y / 2).toInt| ≤ n := by
  obtain ⟨hle', hlt'⟩ := toInt_half_bounds y
  have hlt := x.toInt_lt
  have hle := x.le_toInt
  rw [Int64.toInt_sub, Int.bmod_def, abs_le] at h
  rw [abs_le]
  split at h <;> omega

/-- A small difference does not wrap around. -/
theorem abs_wrapped_le_of_sub {x y : Int64} {n : ℕ} (h : |x.toInt - y.toInt| ≤ n) (hn : n < 2 ^ 62) :
    |(x - y).toInt| ≤ n := by
  rw [Int64.toInt_sub, Int.bmod_def]
  rw [abs_le] at h ⊢
  split <;> omega

/-- A `uint64_t` that was computed modulo `2 ^ 64` is cast to the exact integer, if that is an `int64_t`. -/
theorem toInt_toInt64_of_emod {u : UInt64} {z : ℤ} (hmod : (u.toNat : ℤ) = z % 2 ^ 64) (hle : -2 ^ 63 ≤ z)
    (hlt : z < 2 ^ 63) : u.toInt64.toInt = z := by
  have htoInt : u.toInt64.toInt = u.toBitVec.toInt := rfl
  have htoNat : u.toBitVec.toNat = u.toNat := rfl
  rw [htoInt, BitVec.toInt_eq_toNat_cond, htoNat]
  split <;> omega

end AutopilotManager.Lib
