import Mathlib

/-!
# How products are rounded

A binary64 number has a significand of 53 bits. What does not fit is shifted out, and the significand
goes up by one at most if what was shifted out is a half or more. So a result exceeds the exact one by at
most one part in `2 ^ 53`, and is finite unless that leads past the largest number.
-/

namespace Redfish.Decimal

open Float.Model Float.Model.UnpackedFloat

/-- A significand of 53 bits, with an exponent that a binary64 number may have. -/
structure IsNormal (m : Nat) (e : Int) : Prop where
  leads : 2 ^ 52 ≤ m
  fits : m < 2 ^ 53
  least : -1074 ≤ e
  greatest : e ≤ 971

theorem IsNormal.pos {m : Nat} {e : Int} (h : IsNormal m e) : 0 < m :=
  Nat.lt_of_lt_of_le (by decide) h.leads

theorem IsNormal.log2_eq {m : Nat} {e : Int} (h : IsNormal m e) : m.log2 = 52 := by
  have hLow : 52 ≤ m.log2 := (Nat.le_log2 h.pos.ne').mpr h.leads
  have hHigh : m.log2 < 53 := (Nat.log2_lt h.pos.ne').mpr h.fits
  omega

theorem IsNormal.toNat_exponent {m : Nat} {e : Int} (h : IsNormal m e) :
    (BitVec.ofNat 11 (e + 1075).toNat).toNat = (e + 1075).toNat := by
  have hGreatest := h.greatest
  rw [BitVec.toNat_ofNat, Nat.mod_eq_of_lt]
  omega

/-- The first bit of a significand is not stored. -/
theorem IsNormal.toNat_significand {m : Nat} {e : Int} (h : IsNormal m e) :
    (1#1 ++ BitVec.ofNat 52 m).toNat = m := by
  have hLeads := h.leads
  have hFits := h.fits
  rw [BitVec.toNat_append, ← Nat.shiftLeft_add_eq_or_of_lt (BitVec.ofNat 52 m).isLt,
    BitVec.toNat_ofNat, Nat.shiftLeft_eq]
  change 1 * 2 ^ 52 + m % 2 ^ 52 = m
  omega

theorem IsNormal.pack_eq {m : Nat} {e : Int} (h : IsNormal m e) (s : Sign) (hPos : 0 < m) :
    UnpackedFloat.pack .binary64 (.finite s m e hPos) =
      packComponents .binary64 s (BitVec.ofNat 11 (e + 1075).toNat) (BitVec.ofNat 52 m) := by
  have hLeast := h.least
  have hGreatest := h.greatest
  have hBiased : (e + Format.binary64.exponentBias + Format.binary64.mantissaBitsWithoutImplicit).toNat =
      (e + 1075).toNat := by
    change (e + (1023 : Nat) + (52 : Nat)).toNat = _
    omega
  rw [UnpackedFloat.pack]
  simp only [hBiased, h.log2_eq]
  rw [if_neg, if_pos (show 52 + 1 = Format.binary64.mantissaBits from rfl)]
  change ¬2048 ≤ (e + 1075).toNat + 1
  omega

theorem unpack_pack {m : Nat} {e : Int} (h : IsNormal m e) (s : Sign) (hPos : 0 < m) :
    (Float.Model.pack (.finite s m e hPos)).unpack = .finite s m e hPos := by
  have hLeast := h.least
  have hGreatest := h.greatest
  have hFinite : BitVec.ofNat 11 (e + 1075).toNat ≠ -1#11 := by
    intro hEq
    have hNat : (e + 1075).toNat = 2047 := h.toNat_exponent.symm.trans (congrArg BitVec.toNat hEq)
    omega
  have hNormal : BitVec.ofNat 11 (e + 1075).toNat ≠ 0#11 := by
    intro hEq
    have hNat : (e + 1075).toNat = 0 := h.toNat_exponent.symm.trans (congrArg BitVec.toNat hEq)
    omega
  change UnpackedFloat.unpack .binary64 (UnpackedFloat.pack .binary64 (.finite s m e hPos)) = _
  rw [h.pack_eq, UnpackedFloat.unpack]
  simp only [unpackMantissa_packComponents, unpackExponent_packComponents, unpackSign_packComponents,
    Sign.ofBitVec_toBitVec]
  rw [if_neg hFinite, if_neg hNormal]
  simp only [h.toNat_exponent, h.toNat_significand]
  congr 1
  change ((e + 1075).toNat : Int) - ((1023 : Nat) + (52 : Nat)) = e
  omega

/-- After `k` shifts of `N`: what is left, and the bit that was shifted out last. -/
structure IsShifted (N k : Nat) (x : ExtendedMantissa) : Prop where
  div_eq : x.mantissa = N / 2 ^ k
  roundBit_le : 2 * (x.mantissa * 2 ^ k) + (if x.roundBit then 2 ^ k else 0) ≤ 2 * N

theorem isShifted_shift (N k : Nat) : IsShifted N k ((⟨N, false, false⟩ : ExtendedMantissa) >>> k) := by
  induction k with
  | zero =>
    constructor
    · exact (Nat.div_one N).symm
    · change 2 * (N * 1) + 0 ≤ 2 * N
      omega
  | succ k ih =>
    generalize hx : (⟨N, false, false⟩ : ExtendedMantissa) >>> k = x at ih
    have hStep : (⟨N, false, false⟩ : ExtendedMantissa) >>> (k + 1) = x.shiftRightOne := by
      rw [← hx]
      rfl
    rw [hStep]
    constructor
    · change x.mantissa / 2 = N / 2 ^ (k + 1)
      rw [ih.div_eq, Nat.div_div_eq_div_mul, Nat.pow_succ]
    · change 2 * (x.mantissa / 2 * 2 ^ (k + 1)) + (if x.mantissa % 2 != 0 then 2 ^ (k + 1) else 0) ≤ 2 * N
      have hShort : 2 * (x.mantissa * 2 ^ k) ≤ 2 * N := Nat.le_trans (Nat.le_add_right _ _) ih.roundBit_le
      have hParts : 2 * (x.mantissa / 2 * 2 ^ (k + 1)) + x.mantissa % 2 * 2 ^ (k + 1) =
          2 * (x.mantissa * 2 ^ k) := by
        rw [← Nat.mul_assoc, ← Nat.add_mul, Nat.div_add_mod, Nat.pow_succ', Nat.mul_left_comm]
      rcases Nat.mod_two_eq_zero_or_one x.mantissa with hBit | hBit
      · rw [hBit] at hParts ⊢
        simpa using hParts.trans_le hShort
      · rw [hBit] at hParts ⊢
        simpa using hParts.trans_le hShort

theorem roundedMantissa_le (x : ExtendedMantissa) :
    x.roundedMantissa ≤ x.mantissa + (if x.roundBit then 1 else 0) := by
  obtain ⟨m, roundBit, stickyBit⟩ := x
  cases roundBit <;> cases stickyBit
  · exact Nat.le_refl m
  · exact Nat.le_refl m
  · change m + m % 2 ≤ m + 1
    omega
  · exact Nat.le_refl (m + 1)

theorem le_roundedMantissa (x : ExtendedMantissa) : x.mantissa ≤ x.roundedMantissa := by
  obtain ⟨m, roundBit, stickyBit⟩ := x
  cases roundBit <;> cases stickyBit
  · exact Nat.le_refl m
  · exact Nat.le_refl m
  · exact Nat.le_add_right m _
  · exact Nat.le_succ m

/-- Rounding adds half a unit of the last place that is kept. -/
theorem IsShifted.rounded_le {N k : Nat} {x : ExtendedMantissa} (h : IsShifted N k x) :
    2 * (x.roundedMantissa * 2 ^ k) ≤ 2 * N + 2 ^ k := by
  have hUp := Nat.mul_le_mul_right (2 ^ k) (roundedMantissa_le x)
  have hBit := h.roundBit_le
  rw [Nat.add_mul] at hUp
  split at hBit
  · rename_i hSet
    rw [if_pos hSet, Nat.one_mul] at hUp
    omega
  · rename_i hUnset
    rw [if_neg hUnset, Nat.zero_mul] at hUp
    exact Nat.le_add_right_of_le (by omega)

/-- A mantissa of 53 bits and `k` more loses the `k` bits. -/
theorem shiftToTargetExponent_eq {N k : Nat} {E : Int} (hLog : N.log2 = 52 + k) (hLeast : -1074 ≤ E) :
    shiftToTargetExponent .binary64 N E .exact = ((⟨N, false, false⟩ : ExtendedMantissa) >>> k, E + k) := by
  have hTarget : Format.binary64.targetExponent (totalExponent N E) = E + k := by
    change max ((N.log2 : Int) + 1 + E - (53 : Nat)) (-1074) = E + k
    rw [hLog]
    omega
  have hShift : (E + k - E).toNat = k := by omega
  unfold shiftToTargetExponent
  rw [hTarget]
  unfold shiftToExponent
  dsimp only
  rw [hShift]
  rfl

theorem roundWithAccuracy_eq {N k : Nat} {E : Int} {x : ExtendedMantissa} (hLog : N.log2 = 52 + k)
    (hLeast : -1074 ≤ E) (hx : (⟨N, false, false⟩ : ExtendedMantissa) >>> k = x)
    (hLow : 2 ^ 52 ≤ x.roundedMantissa) (hHigh : x.roundedMantissa ≤ 2 ^ 53) (s : Sign) :
    roundWithAccuracy .binary64 s N E .exact =
      if x.roundedMantissa < 2 ^ 53 then
        .finite s x.roundedMantissa (E + k) (Nat.lt_of_lt_of_le (by decide) hLow)
      else .finite s (2 ^ 52) (E + k + 1) (by decide) := by
  have hFirst := shiftToTargetExponent_eq hLog hLeast
  rw [hx] at hFirst
  unfold roundWithAccuracy
  rw [hFirst]
  dsimp only
  by_cases hFits : x.roundedMantissa < 2 ^ 53
  · have hNormal : IsNormal x.roundedMantissa 0 := ⟨hLow, hFits, by decide, by decide⟩
    have hSecond := shiftToTargetExponent_eq (k := 0) hNormal.log2_eq (show -1074 ≤ E + k by omega)
    have hPos : x.roundedMantissa ≠ 0 := hNormal.pos.ne'
    rw [hSecond, if_pos hFits]
    change (if h : x.roundedMantissa = 0 then _ else UnpackedFloat.finite s x.roundedMantissa (E + k + 0) _) = _
    rw [dif_neg hPos]
    congr 1
    omega
  · obtain hCarry : x.roundedMantissa = 2 ^ 53 := by omega
    have hSecond := shiftToTargetExponent_eq (k := 1) (Nat.log2_two_pow (n := 53))
      (show -1074 ≤ E + k by omega)
    rw [if_neg hFits, hCarry, hSecond]
    rfl

/-- The number that a mantissa and an exponent stand for. -/
def magnitude (m : Nat) (e : Int) : ℚ := m * 2 ^ e

theorem magnitude_add (m k : Nat) (e : Int) : magnitude m (e + k) = magnitude (m * 2 ^ k) e := by
  unfold magnitude
  rw [zpow_add₀ (by norm_num), zpow_natCast]
  push_cast
  ring

theorem magnitude_nonneg (m : Nat) (e : Int) : 0 ≤ magnitude m e := by
  unfold magnitude
  positivity

theorem magnitude_mono {m : Nat} {e f : Int} (h : e ≤ f) : magnitude m e ≤ magnitude m f :=
  mul_le_mul_of_nonneg_left (zpow_le_zpow_right₀ (by norm_num) h) (by positivity)

theorem magnitude_le {m n : Nat} (h : m ≤ n) (e : Int) : magnitude m e ≤ magnitude n e :=
  mul_le_mul_of_nonneg_right (by exact_mod_cast h) (by positivity)

theorem magnitude_lt {m n : Nat} (h : m < n) (e : Int) : magnitude m e < magnitude n e :=
  mul_lt_mul_of_pos_right (by exact_mod_cast h) (by positivity)

theorem lt_of_magnitude_lt {m : Nat} {e f : Int} (h : magnitude m e < magnitude m f) : e < f :=
  lt_of_not_ge fun hLe => absurd h (not_lt.mpr (magnitude_mono hLe))

section

variable {N k : Nat} {E : Int} {x : ExtendedMantissa}

theorem IsShifted.mantissa_bounds (h : IsShifted N k x) (hLog : N.log2 = 52 + k) (hPos : N ≠ 0) :
    2 ^ 52 ≤ x.mantissa ∧ x.mantissa < 2 ^ 53 := by
  have hSelf : 2 ^ 52 * 2 ^ k ≤ N := by
    rw [← Nat.pow_add, ← hLog]
    exact Nat.log2_self_le hPos
  have hNext : N < 2 ^ 53 * 2 ^ k := by
    rw [← Nat.pow_add, show 53 + k = N.log2 + 1 by omega]
    exact Nat.lt_log2_self
  rw [h.div_eq]
  exact ⟨(Nat.le_div_iff_mul_le (by positivity)).mpr hSelf,
    (Nat.div_lt_iff_lt_mul (by positivity)).mpr hNext⟩

/-- Half a unit of the last of 53 places is one part in `2 ^ 53` at most. -/
theorem IsShifted.magnitude_rounded_le (h : IsShifted N k x) (hLow : 2 ^ 52 ≤ x.mantissa) :
    magnitude x.roundedMantissa (E + k) ≤ magnitude N E * (1 + 2 ^ (-53 : Int)) := by
  have hHalf := h.rounded_le
  have hKept : 2 ^ 52 * 2 ^ k ≤ N := by
    have hMantissa := Nat.mul_le_mul_right (2 ^ k) hLow
    rw [h.div_eq] at hMantissa
    exact hMantissa.trans (Nat.div_mul_le_self N _)
  have hNat : x.roundedMantissa * 2 ^ k * 2 ^ 53 ≤ N * (2 ^ 53 + 1) := by omega
  have hCast : ((x.roundedMantissa * 2 ^ k : Nat) : ℚ) * 2 ^ 53 ≤ N * (2 ^ 53 + 1) := by exact_mod_cast hNat
  have hRat : ((x.roundedMantissa * 2 ^ k : Nat) : ℚ) ≤ N * (1 + 2 ^ (-53 : Int)) := by
    have hSplit : (N : ℚ) * (1 + 2 ^ (-53 : Int)) = N * (2 ^ 53 + 1) / 2 ^ 53 := by
      norm_num
      ring
    rw [hSplit, le_div_iff₀ (by positivity)]
    exact hCast
  rw [magnitude_add]
  unfold magnitude
  calc ((x.roundedMantissa * 2 ^ k : Nat) : ℚ) * 2 ^ E
      ≤ N * (1 + 2 ^ (-53 : Int)) * 2 ^ E := mul_le_mul_of_nonneg_right hRat (by positivity)
    _ = N * 2 ^ E * (1 + 2 ^ (-53 : Int)) := by ring

theorem IsShifted.exponent_le (h : IsShifted N k x) (hLow : 2 ^ 52 ≤ x.mantissa)
    (hBound : magnitude N E < magnitude (2 ^ 54 - 1) 970) : E + k ≤ 971 := by
  have hShort : magnitude (2 ^ 52) (E + k) < magnitude (2 ^ 52) (970 + (2 : Nat)) := by
    calc magnitude (2 ^ 52) (E + k) ≤ magnitude x.mantissa (E + k) := magnitude_le hLow _
      _ = magnitude (x.mantissa * 2 ^ k) E := magnitude_add _ _ _
      _ ≤ magnitude N E := magnitude_le (h.div_eq ▸ Nat.div_mul_le_self N _) E
      _ < magnitude (2 ^ 54 - 1) 970 := hBound
      _ ≤ magnitude (2 ^ 52 * 2 ^ 2) 970 := magnitude_le (by decide) 970
      _ = magnitude (2 ^ 52) (970 + (2 : Nat)) := (magnitude_add _ _ _).symm
  have hLess := lt_of_magnitude_lt hShort
  omega

/-- What is rounded up to a power of two is less than half a unit of the last place below it. -/
theorem IsShifted.exponent_lt (h : IsShifted N k x) (hFull : x.roundedMantissa = 2 ^ 53)
    (hBound : magnitude N E < magnitude (2 ^ 54 - 1) 970) : E + k < 971 := by
  have hReached : (2 ^ 54 - 1) * 2 ^ k ≤ N * 2 ^ 1 := by
    have hHalf := h.rounded_le
    rw [hFull] at hHalf
    omega
  have hShort : magnitude (2 ^ 54 - 1) (E - 1 + k) < magnitude (2 ^ 54 - 1) 970 := by
    calc magnitude (2 ^ 54 - 1) (E - 1 + k) = magnitude ((2 ^ 54 - 1) * 2 ^ k) (E - 1) :=
          magnitude_add _ _ _
      _ ≤ magnitude (N * 2 ^ 1) (E - 1) := magnitude_le hReached _
      _ = magnitude N (E - 1 + (1 : Nat)) := (magnitude_add _ _ _).symm
      _ < magnitude (2 ^ 54 - 1) 970 := by rwa [show E - 1 + (1 : Nat) = E by omega]
  have hLess := lt_of_magnitude_lt hShort
  omega

end

/-- What is rounded to a number that is not too large exceeds the exact number by at most one part in
`2 ^ 53`. -/
theorem exists_round {N : Nat} {E : Int} (hN : 2 ^ 52 ≤ N) (hLeast : -1074 ≤ E)
    (hBound : magnitude N E < magnitude (2 ^ 54 - 1) 970) (s : Sign) :
    ∃ m e hPos, roundWithAccuracy .binary64 s N E .exact = .finite s m e hPos ∧ IsNormal m e ∧ E ≤ e ∧
      magnitude m e ≤ magnitude N E * (1 + 2 ^ (-53 : Int)) := by
  have hPos : N ≠ 0 := by omega
  obtain ⟨k, hLog⟩ := Nat.exists_eq_add_of_le ((Nat.le_log2 hPos).mpr hN)
  obtain ⟨x, hx⟩ : ∃ x, (⟨N, false, false⟩ : ExtendedMantissa) >>> k = x := ⟨_, rfl⟩
  have hShifted : IsShifted N k x := hx ▸ isShifted_shift N k
  obtain ⟨hLow, hHigh⟩ := hShifted.mantissa_bounds hLog hPos
  have hLeads : 2 ^ 52 ≤ x.roundedMantissa := hLow.trans (le_roundedMantissa x)
  have hUp : x.roundedMantissa ≤ 2 ^ 53 := by
    have hStep := roundedMantissa_le x
    split at hStep <;> omega
  have hValue := hShifted.magnitude_rounded_le hLow (E := E)
  have hGreatest := hShifted.exponent_le hLow hBound
  have hRound := roundWithAccuracy_eq hLog hLeast hx hLeads hUp s
  by_cases hFits : x.roundedMantissa < 2 ^ 53
  · rw [if_pos hFits] at hRound
    exact ⟨_, _, _, hRound, ⟨hLeads, hFits, by omega, hGreatest⟩, by omega, hValue⟩
  · have hFull : x.roundedMantissa = 2 ^ 53 := by omega
    have hCarry := hShifted.exponent_lt hFull hBound
    rw [if_neg hFits] at hRound
    refine ⟨_, _, _, hRound, ⟨Nat.le_refl _, by decide, by omega, by omega⟩, by omega, ?_⟩
    have hSame : magnitude (2 ^ 52) (E + k + (1 : Nat)) = magnitude (2 ^ 53) (E + k) := magnitude_add _ _ _
    rw [hFull] at hValue
    exact hSame.trans_le hValue

/-- A product is finite if the exact one is not too large. -/
theorem mul_finite {x y : Float} {m n : Nat} {e f : Int} {hm : 0 < m} {hn : 0 < n}
    (hx : x.toModel.unpack = .finite .positive m e hm) (hy : y.toModel.unpack = .finite .positive n f hn)
    (hProduct : 2 ^ 52 ≤ m * n) (hLeast : -1074 ≤ e + f)
    (hBound : magnitude m e * magnitude n f < magnitude (2 ^ 54 - 1) 970) : (x * y).isInf = false := by
  have hExact : magnitude (m * n) (e + f) = magnitude m e * magnitude n f := by
    unfold magnitude
    rw [zpow_add₀ (by norm_num)]
    push_cast
    ring
  obtain ⟨k, g, hk, hRound, hNormal, _⟩ :=
    exists_round hProduct hLeast (hExact.trans_lt hBound) (.positive * .positive)
  have hMul : (x * y).toModel = Float.Model.pack (.finite (.positive * .positive) k g hk) := by
    change Float.Model.pack (UnpackedFloat.mul .binary64 x.toModel.unpack y.toModel.unpack) = _
    rw [hx, hy]
    exact congrArg Float.Model.pack hRound
  change (x * y).toModel.unpack.isInf = false
  rw [hMul, unpack_pack hNormal]
  rfl

theorem magnitude_zero (m : Nat) : magnitude m 0 = m := by
  unfold magnitude
  rw [zpow_zero, mul_one]

/-- A machine word is shifted to 53 bits before it is rounded. -/
theorem unpack_toFloat_of_round {n : UInt64} (hPos : 0 < n.toNat) {m : Nat} {e : Int} {hm : 0 < m}
    (hRound : roundWithAccuracy .binary64 .positive (n.toNat * 2 ^ (52 - n.toNat.log2))
      (-(52 - n.toNat.log2 : Nat)) .exact = .finite .positive m e hm) (hNormal : IsNormal m e) :
    n.toFloat.toModel.unpack = .finite .positive m e hm := by
  generalize hWord : n.toNat = w at hPos hRound
  have hTarget : Format.binary64.targetExponent (totalExponent w 0) = (w.log2 : Int) - 52 := by
    change max ((w.log2 : Int) + 1 + 0 - (53 : Nat)) (-1074) = w.log2 - 52
    omega
  have hShift : (0 - ((w.log2 : Int) - 52)).toNat = 52 - w.log2 := by omega
  have hNormalized : UnpackedFloat.round .binary64 .positive w 0 = .finite .positive m e hm := by
    unfold UnpackedFloat.round
    rw [hTarget]
    unfold decreaseExponent
    dsimp only
    rw [hShift, Nat.shiftLeft_eq, Int.zero_sub]
    exact hRound
  have hSign : compare (w : Int) 0 = .gt := compare_gt_iff_gt.mpr (by omega)
  have hWhole : UnpackedFloat.ofUInt64 .binary64 n = .finite .positive m e hm := by
    change UnpackedFloat.normalize .binary64 (n.toNat : Int) 0 .positive = _
    rw [hWord]
    unfold UnpackedFloat.normalize
    rw [hSign]
    exact hNormalized
  change (Float.Model.pack (UnpackedFloat.ofUInt64 .binary64 n)).unpack = _
  rw [hWhole, unpack_pack hNormal]

/-- A positive machine word as a binary64 number. -/
theorem unpack_toFloat {n : UInt64} (hPos : 0 < n.toNat) :
    ∃ m e hm, n.toFloat.toModel.unpack = .finite .positive m e hm ∧ IsNormal m e ∧ -52 ≤ e ∧
      magnitude m e ≤ n.toNat * (1 + 2 ^ (-53 : Int)) := by
  have hWord := n.toNat_lt
  obtain ⟨a, ha⟩ : ∃ a, a = 52 - n.toNat.log2 := ⟨_, rfl⟩
  have hLeads : 2 ^ 52 ≤ n.toNat * 2 ^ a := by
    calc 2 ^ 52 ≤ 2 ^ (n.toNat.log2 + a) := Nat.pow_le_pow_right (by decide) (by omega)
      _ = 2 ^ n.toNat.log2 * 2 ^ a := Nat.pow_add 2 _ _
      _ ≤ n.toNat * 2 ^ a := Nat.mul_le_mul_right _ (Nat.log2_self_le hPos.ne')
  have hExact : magnitude (n.toNat * 2 ^ a) (-a) = n.toNat := by
    rw [← magnitude_add, show -(a : Int) + a = 0 by omega, magnitude_zero]
  have hBound : magnitude (n.toNat * 2 ^ a) (-a) < magnitude (2 ^ 54 - 1) 970 := by
    rw [hExact, ← magnitude_zero]
    calc magnitude n.toNat 0 ≤ magnitude (2 ^ 53 * 2 ^ 11) 0 := magnitude_le (by omega) 0
      _ = magnitude (2 ^ 53) (0 + (11 : Nat)) := (magnitude_add _ _ _).symm
      _ ≤ magnitude (2 ^ 53) 970 := magnitude_mono (by decide)
      _ < magnitude (2 ^ 54 - 1) 970 := magnitude_lt (by decide) 970
  obtain ⟨m, e, hm, hRound, hNormal, hLeast, hValue⟩ := exists_round hLeads (by omega) hBound .positive
  rw [hExact] at hValue
  rw [ha] at hRound
  exact ⟨m, e, hm, unpack_toFloat_of_round hPos hRound hNormal, hNormal, by omega, hValue⟩

end Redfish.Decimal
