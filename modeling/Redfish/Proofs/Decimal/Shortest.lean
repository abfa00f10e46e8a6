import Redfish.Decimal.Notation
import Redfish.Proofs.Decimal.Rounding

/-!
# The shortest decimal is near

The shortest decimal of a number is one that rounds to it, so it exceeds the number by half a unit of the
last place at most. It is never zero.
-/

namespace Redfish.Decimal

/-- What a decimal stands for. -/
def Scaled.value (s : Scaled) : ℚ := s.digits * 10 ^ s.exponent

theorem zpow_mul_pow_toNat {b : ℚ} (hb : b ≠ 0) (z : Int) : b ^ z * b ^ (-z).toNat = b ^ z.toNat := by
  rw [← zpow_natCast, ← zpow_natCast, ← zpow_add₀ hb]
  congr 1
  omega

theorem two_pow_zpow (r : Nat) (z : Int) : ((2 : ℚ) ^ r) ^ z = 2 ^ (r * z) := by
  rw [← zpow_natCast, ← zpow_mul]

theorem zpow_pow_comm (b : ℚ) (z : Int) (r : Nat) : (b ^ z) ^ r = (b ^ r) ^ z := by
  rw [← zpow_natCast, ← zpow_mul, mul_comm, zpow_mul, zpow_natCast]

/-- Ten is less than the third root of `2 ^ 10` and more than the fourth root of `2 ^ 13`. -/
theorem ten_zpow_le {n e : Int} (hUp : 10 * n ≤ 3 * e) (hDown : 13 * n ≤ 4 * e) :
    (10 : ℚ) ^ n ≤ 2 ^ e := by
  rcases Int.le_total 0 n with hn | hn
  · have hCube : ((10 : ℚ) ^ n) ^ 3 ≤ (2 ^ e) ^ 3 := by
      rw [zpow_pow_comm, zpow_pow_comm]
      calc ((10 : ℚ) ^ 3) ^ n ≤ (2 ^ 10) ^ n := zpow_le_zpow_left₀ hn (by norm_num) (by norm_num)
        _ ≤ (2 ^ 3) ^ e := by
          rw [two_pow_zpow, two_pow_zpow]
          exact zpow_le_zpow_right₀ (by norm_num) hUp
    exact le_of_pow_le_pow_left₀ (by decide) (by positivity) hCube
  · obtain ⟨j, rfl⟩ : ∃ j, n = -j := ⟨-n, (Int.neg_neg n).symm⟩
    have hFourth : ((10 : ℚ) ^ (-j)) ^ 4 ≤ (2 ^ e) ^ 4 := by
      rw [zpow_pow_comm, zpow_pow_comm]
      calc ((10 : ℚ) ^ 4) ^ (-j) ≤ (2 ^ 13) ^ (-j) := by
            rw [zpow_neg, zpow_neg]
            exact inv_anti₀ (by positivity) (zpow_le_zpow_left₀ (by omega) (by norm_num) (by norm_num))
        _ ≤ (2 ^ 4) ^ e := by
          rw [two_pow_zpow, two_pow_zpow]
          exact zpow_le_zpow_right₀ (by norm_num) hDown
    exact le_of_pow_le_pow_left₀ (by decide) (by positivity) hFourth

namespace Binary

variable {b : Binary} {k : Int} {c n : Nat}

/-- The grid is compared with the number in quarters of its last place. -/
theorem mul_gridFactor_le_iff :
    c * (b.gridFactor k).2 ≤ n * (b.gridFactor k).1 ↔ (c : ℚ) * 10 ^ k ≤ magnitude n (b.exponent - 2) := by
  have hTwo := zpow_mul_pow_toNat (show (2 : ℚ) ≠ 0 by norm_num) (b.exponent - 2)
  have hTen := zpow_mul_pow_toNat (show (10 : ℚ) ≠ 0 by norm_num) k
  rw [Int.neg_sub] at hTwo
  have hPos : (0 : ℚ) < 2 ^ (2 - b.exponent).toNat * 10 ^ (-k).toNat := by positivity
  rw [← mul_le_mul_iff_left₀ hPos, ← Nat.cast_le (α := ℚ)]
  unfold gridFactor magnitude
  simp only [Nat.pow_eq]
  push_cast
  rw [← hTwo, ← hTen]
  constructor <;> intro h <;> linarith

theorem le_of_reads (h : b.reads k c = true) :
    (c : ℚ) * 10 ^ k ≤ magnitude (4 * b.significand + 2) (b.exponent - 2) := by
  rw [← mul_gridFactor_le_iff]
  unfold reads at h
  dsimp only at h
  split at h
  · exact of_decide_eq_true (Bool.and_eq_true_iff.mp h).2
  · exact Nat.le_of_lt (of_decide_eq_true (Bool.and_eq_true_iff.mp h).2)

theorem onGrid?_eq_some (h : b.onGrid? k = some c) : 0 < c ∧ b.reads k c = true := by
  have hBelow : ∀ n, (n ≠ 0 && b.reads k n) = true → 0 < n ∧ b.reads k n = true := by
    intro n hn
    obtain ⟨hPos, hReads⟩ := Bool.and_eq_true_iff.mp hn
    exact ⟨Nat.pos_of_ne_zero (of_decide_eq_true hPos), hReads⟩
  unfold onGrid? at h
  dsimp only at h
  split at h
  · rename_i hLow hHigh
    split at h
    · cases h
      exact hBelow _ hLow
    · cases h
      exact ⟨Nat.succ_pos _, hHigh⟩
  · rename_i hLow _
    cases h
    exact hBelow _ hLow
  · rename_i hHigh
    cases h
    exact ⟨Nat.succ_pos _, hHigh⟩
  · cases h

theorem value_search_le (b : Binary) (steps : Nat) (k : Int) :
    (b.search steps k).value ≤ magnitude (4 * b.significand + 2) (b.exponent - 2) := by
  induction steps generalizing k with
  | zero =>
    refine le_trans (mul_gridFactor_le_iff.mp (Nat.div_mul_le_self _ _)) (magnitude_le ?_ _)
    omega
  | succ steps ih =>
    unfold search
    split
    · rename_i hFound
      exact le_of_reads (onGrid?_eq_some hFound).2
    · exact ih (k - 1)

theorem digits_search_pos {steps : Nat}
    (hLast : (10 : ℚ) ^ (k - steps) ≤ magnitude b.significand b.exponent) :
    0 < (b.search steps k).digits := by
  induction steps generalizing k with
  | zero =>
    rw [Nat.cast_zero, Int.sub_zero] at hLast
    have hFits : 1 * (b.gridFactor k).2 ≤ 4 * b.significand * (b.gridFactor k).1 := by
      have hQuarters := magnitude_add b.significand 2 (b.exponent - 2)
      rw [show b.exponent - 2 + (2 : Nat) = b.exponent by omega] at hQuarters
      rw [mul_gridFactor_le_iff, Nat.cast_one, one_mul, Nat.mul_comm 4]
      exact hLast.trans_eq hQuarters
    rw [Nat.one_mul] at hFits
    exact Nat.div_pos hFits (Nat.mul_pos (Nat.pow_pos (by decide)) (Nat.pow_pos (by decide)))
  | succ steps ih =>
    unfold search
    split
    · rename_i hFound
      exact (onGrid?_eq_some hFound).1
    · apply ih
      rwa [Nat.cast_succ, show k - (steps + 1 : Int) = k - 1 - steps by omega] at hLast

/-- The numbers that are not below zero and finite. -/
structure IsMagnitude (b : Binary) : Prop where
  fits : b.significand < 2 ^ 53
  least : -1074 ≤ b.exponent
  greatest : b.exponent ≤ 971

theorem digits_shortest_pos (h : b.IsMagnitude) (hPos : 0 < b.significand) : 0 < b.shortest.digits := by
  have hWidth : b.significand.log2 < 53 := (Nat.log2_lt hPos.ne').mpr h.fits
  have hLeast := h.least
  have hGreatest := h.greatest
  apply digits_search_pos
  calc (10 : ℚ) ^ ((b.exponent + b.significand.log2 + 1) * 30103 / 100000 + 2 - (32 : Nat))
      ≤ 2 ^ ((b.significand.log2 : Int) + b.exponent) := ten_zpow_le (by omega) (by omega)
    _ = magnitude (2 ^ b.significand.log2) b.exponent := by
      unfold magnitude
      rw [zpow_add₀ (by norm_num), zpow_natCast]
      push_cast
      rfl
    _ ≤ magnitude b.significand b.exponent := magnitude_le (Nat.log2_self_le hPos.ne') _

/-- The shortest decimal exceeds the number by half a unit of its last place at most. -/
theorem value_shortest_le (b : Binary) :
    b.shortest.value ≤ magnitude (4 * b.significand + 2) (b.exponent - 2) :=
  b.value_search_le 32 _

theorem biased_ne_of_isFinite {x : Float} (h : x.isFinite = true) :
    x.toBits.toNat / leadingBit % 2048 ≠ 2047 := by
  intro hSpecial
  have hField : @Float.Model.UnpackedFloat.unpackExponent .binary64 x.toBits.toBitVec = -1#11 := by
    apply BitVec.eq_of_toNat_eq
    unfold Float.Model.UnpackedFloat.unpackExponent
    rw [BitVec.toNat_cast, BitVec.extractLsb_toNat, Nat.shiftRight_eq_div_pow]
    exact hSpecial
  change (Float.Model.UnpackedFloat.unpack .binary64 x.toBits.toBitVec).isFinite = true at h
  unfold Float.Model.UnpackedFloat.unpack at h
  dsimp only at h
  rw [if_pos hField] at h
  split at h <;> cases h

theorem isMagnitude_ofFloat {x : Float} (h : x.isFinite = true) : (ofFloat x).IsMagnitude := by
  have hBiased := biased_ne_of_isFinite h
  unfold leadingBit at hBiased
  unfold ofFloat leadingBit
  dsimp only
  split <;> constructor <;> dsimp only <;> omega

end Binary

end Redfish.Decimal
