import Redfish.Proofs.Decimal.Shortest
import Redfish.Proofs.Json.Numeral

/-!
# Reals from digits

A number with a fraction or an exponent is read as the product of a machine word and a power of ten. The
word and the power are rounded to reals and so is their product, so the product may be another real than
the one nearest to the number. But it is a real: only for numbers beyond the largest one there is none.
-/

namespace Redfish.Json

open Decimal Float.Model Float.Model.UnpackedFloat

namespace Numeral

/-- The least powers of ten are looked up, and none of them is rounded. -/
def isExactPower (n : Nat) : Bool :=
  match (tenTo n).toModel.unpack with
  | .finite .positive m e _ => 2 ^ 52 ≤ m && -53 ≤ e && m * 2 ^ e.toNat == 10 ^ n * 2 ^ (-e).toNat
  | _ => false

theorem isExactPower_of_lt : ∀ n < 23, isExactPower n = true := by
  decide +kernel

theorem lt_top : ∀ n ≤ 308, 10 ^ n < (2 ^ 54 - 1) * 2 ^ 970 := by
  decide +kernel

theorem top_le {n : Nat} (h : 309 ≤ n) : (2 ^ 54 - 1) * 2 ^ 970 ≤ 10 ^ n := by
  induction n, h using Nat.le_induction with
  | base => decide +kernel
  | succ n _ ih => exact Nat.le_trans ih (Nat.pow_le_pow_right (by decide) (Nat.le_succ n))

theorem unpack_tenTo_of_lt {n : Nat} (h : n < 23) :
    ∃ m e hm, (tenTo n).toModel.unpack = .finite .positive m e hm ∧ 2 ^ 52 ≤ m ∧ -53 ≤ e ∧
      magnitude m e = 10 ^ n := by
  have hExact := isExactPower_of_lt n h
  unfold isExactPower at hExact
  split at hExact
  · rename_i m e hm hUnpack
    simp only [Bool.and_eq_true, decide_eq_true_eq, beq_iff_eq] at hExact
    obtain ⟨⟨hLow, hLeast⟩, hEq⟩ := hExact
    have hTwo := zpow_mul_pow_toNat (show (2 : ℚ) ≠ 0 by norm_num) e
    have hScaled : (m : ℚ) * 2 ^ e.toNat = 10 ^ n * 2 ^ (-e).toNat := by exact_mod_cast hEq
    refine ⟨m, e, hm, hUnpack, hLow, hLeast, ?_⟩
    refine mul_right_cancel₀ (show (2 : ℚ) ^ (-e).toNat ≠ 0 by positivity) ?_
    unfold magnitude
    rw [mul_assoc, hTwo, hScaled]
  · cases hExact

/-- The greater powers of ten are rounded from 53 places behind the point. -/
theorem unpack_tenTo_of_ge {n : Nat} (hLarge : 23 ≤ n) (h : n ≤ 308) :
    ∃ m e hm, (tenTo n).toModel.unpack = .finite .positive m e hm ∧ 2 ^ 52 ≤ m ∧ -53 ≤ e ∧
      magnitude m e ≤ 10 ^ n * (1 + 2 ^ (-53 : Int)) := by
  have hExact : magnitude (2 ^ 53 * 10 ^ n) (-53) = 10 ^ n := by
    rw [Nat.mul_comm, ← magnitude_add]
    change magnitude (10 ^ n) 0 = 10 ^ n
    rw [magnitude_zero]
    push_cast
    rfl
  have hPower : magnitude (10 ^ n) 0 < magnitude (2 ^ 54 - 1) 970 := by
    calc magnitude (10 ^ n) 0 < magnitude ((2 ^ 54 - 1) * 2 ^ 970) 0 := magnitude_lt (lt_top n h) 0
      _ = magnitude (2 ^ 54 - 1) 970 := (magnitude_add _ 970 0).symm
  have hBound : magnitude (2 ^ 53 * 10 ^ n) (-53) < magnitude (2 ^ 54 - 1) 970 := by
    rw [hExact]
    rwa [magnitude_zero, Nat.cast_pow] at hPower
  have hLow : 2 ^ 52 ≤ 2 ^ 53 * 10 ^ n :=
    Nat.le_trans (by decide) (Nat.le_mul_of_pos_right (2 ^ 53) (by positivity))
  obtain ⟨m, e, hm, hRound, hNormal, hLeast, hValue⟩ :=
    exists_round hLow (by decide) hBound .positive
  rw [hExact] at hValue
  refine ⟨m, e, hm, ?_, hNormal.leads, hLeast, hValue⟩
  have hModel : (tenTo n).toModel = Float.Model.pack (UnpackedFloat.ofScientific .binary64 1 n) := by
    unfold tenTo Float.ofScientific
    rw [dif_neg (by omega)]
    rfl
  have hPowerOfTen : UnpackedFloat.ofScientific .binary64 1 n = .finite .positive m e hm := by
    unfold UnpackedFloat.ofScientific
    have hSmall : ¬(n : Int) > 2 ^ 11 := by omega
    have hNotTiny : ¬(n : Int) < -((2 : Int) ^ 11 + (Nat.log2 1 : Nat)) := by omega
    rw [dif_neg (by decide), if_neg hSmall, if_neg hNotTiny, if_pos (Int.natCast_nonneg n)]
    exact hRound
  rw [hModel, hPowerOfTen, unpack_pack hNormal]

theorem unpack_tenTo {n : Nat} (h : n ≤ 308) :
    ∃ m e hm, (tenTo n).toModel.unpack = .finite .positive m e hm ∧ 2 ^ 52 ≤ m ∧ -53 ≤ e ∧
      magnitude m e ≤ 10 ^ n * (1 + 2 ^ (-53 : Int)) := by
  rcases Nat.lt_or_ge n 23 with hSmall | hLarge
  · obtain ⟨m, e, hm, hUnpack, hLow, hLeast, hValue⟩ := unpack_tenTo_of_lt hSmall
    refine ⟨m, e, hm, hUnpack, hLow, hLeast, ?_⟩
    rw [hValue]
    exact le_mul_of_one_le_right (by positivity) (by norm_num)
  · exact unpack_tenTo_of_ge hLarge h

theorem zero_mul_finite {x : Float} {m : Nat} {e : Int} {hm : 0 < m}
    (hx : x.toModel.unpack = .finite .positive m e hm) :
    (UInt64.toFloat 0 * x).isInf = false := by
  change (Float.Model.pack (UnpackedFloat.mul .binary64 (.zero .positive) x.toModel.unpack)).unpack.isInf
    = false
  rw [hx]
  change (Float.Model.pack (.zero .positive)).unpack.isInf = false
  decide +kernel

theorem mul_tenTo_finite {s n : Nat} (hWord : s < UInt64.size) (h : n ≤ 308)
    (hBound : (s : ℚ) * 10 ^ n * (1 + 2 ^ (-53 : Int)) ^ 2 < magnitude (2 ^ 54 - 1) 970) :
    (s.toUInt64.toFloat * tenTo n).isInf = false := by
  have hDigits : s.toUInt64.toNat = s := Nat.mod_eq_of_lt hWord
  obtain ⟨k, f, hk, hPower, hLow, hLeast, hRounded⟩ := unpack_tenTo h
  rcases Nat.eq_zero_or_pos s with rfl | hPos
  · exact zero_mul_finite hPower
  · obtain ⟨m, g, hm, hUnpack, hNormal, hLeast', hRounded'⟩ :=
      unpack_toFloat (n := s.toUInt64) (hDigits.symm ▸ hPos)
    rw [hDigits] at hRounded'
    have hProduct : magnitude m g * magnitude k f < magnitude (2 ^ 54 - 1) 970 := by
      calc magnitude m g * magnitude k f
          ≤ (s * (1 + 2 ^ (-53 : Int))) * (10 ^ n * (1 + 2 ^ (-53 : Int))) :=
            mul_le_mul hRounded' hRounded (magnitude_nonneg k f) (by positivity)
        _ = s * 10 ^ n * (1 + 2 ^ (-53 : Int)) ^ 2 := by ring
        _ < magnitude (2 ^ 54 - 1) 970 := hBound
    exact mul_finite hUnpack hPower (Nat.le_trans hNormal.leads (Nat.le_mul_of_pos_right m hk)) (by omega)
      hProduct

/-- Only nothing at all stays a real times such a power of ten. -/
theorem eq_zero_of_mul_lt {s n : Nat} (h : 309 ≤ n)
    (hBound : (s : ℚ) * 10 ^ n * (1 + 2 ^ (-53 : Int)) ^ 2 < magnitude (2 ^ 54 - 1) 970) : s = 0 := by
  by_contra hSome
  have hDigit : (1 : ℚ) ≤ s := by exact_mod_cast Nat.pos_of_ne_zero hSome
  have hReached : magnitude (2 ^ 54 - 1) (0 + (970 : Nat)) ≤ s * 10 ^ n * (1 + 2 ^ (-53 : Int)) ^ 2 := by
    calc magnitude (2 ^ 54 - 1) (0 + (970 : Nat)) = magnitude ((2 ^ 54 - 1) * 2 ^ 970) 0 :=
          magnitude_add _ _ _
      _ ≤ magnitude (10 ^ n) 0 := magnitude_le (top_le h) 0
      _ = 10 ^ n := by rw [magnitude_zero, Nat.cast_pow, Nat.cast_ofNat]
      _ ≤ s * 10 ^ n := le_mul_of_one_le_left (by positivity) hDigit
      _ ≤ s * 10 ^ n * (1 + 2 ^ (-53 : Int)) ^ 2 := le_mul_of_one_le_right (by positivity) (by norm_num)
  exact absurd hBound (not_lt.mpr hReached)

/-- Digits and a power of ten make a real if their product is so small that the two can be rounded before
they are multiplied. -/
theorem exists_scale {s : Nat} {e : Int} (hWord : s < UInt64.size)
    (hBound : (s : ℚ) * 10 ^ e * (1 + 2 ^ (-53 : Int)) ^ 2 < magnitude (2 ^ 54 - 1) 970) :
    ∃ y, scale s e = .ok y := by
  unfold scale
  dsimp only
  split
  · exact ⟨_, rfl⟩
  · rename_i hPositive
    obtain ⟨n, rfl⟩ := Int.eq_ofNat_of_zero_le (Int.not_lt.mp hPositive)
    rw [zpow_natCast] at hBound
    rw [Int.toNat_natCast]
    split
    · rw [mul_tenTo_finite hWord (by omega) hBound]
      exact ⟨_, rfl⟩
    · obtain rfl := eq_zero_of_mul_lt (by omega) hBound
      exact ⟨_, rfl⟩

theorem mul_pow_le_extend (s : Nat) (ds : List Nat) : s * 10 ^ ds.length ≤ extend s ds := by
  induction ds generalizing s with
  | nil => exact Nat.le_of_eq (Nat.mul_one s)
  | cons d ds ih =>
    calc s * 10 ^ (ds.length + 1) = (10 * s) * 10 ^ ds.length := by
          rw [Nat.pow_succ', ← Nat.mul_assoc, Nat.mul_comm s]
      _ ≤ (10 * s + d) * 10 ^ ds.length := Nat.mul_le_mul_right _ (Nat.le_add_right _ _)
      _ ≤ extend (10 * s + d) ds := ih _

theorem extend_replicate_zero (s n : Nat) : extend s (List.replicate n 0) = s * 10 ^ n := by
  induction n generalizing s with
  | zero => exact (Nat.mul_one s).symm
  | succ n ih =>
    change extend (10 * s + 0) (List.replicate n 0) = _
    rw [ih, Nat.pow_succ', Nat.add_zero, Nat.mul_comm 10, Nat.mul_assoc]

theorem extend_lt {ds : List Nat} (h : ∀ d ∈ ds, d < 10) (s : Nat) :
    extend s ds < (s + 1) * 10 ^ ds.length := by
  induction ds generalizing s with
  | nil =>
    change s < (s + 1) * 1
    omega
  | cons d ds ih =>
    obtain ⟨hFirst, hLater⟩ := List.forall_mem_cons.mp h
    calc extend (10 * s + d) ds < (10 * s + d + 1) * 10 ^ ds.length := ih hLater _
      _ ≤ ((s + 1) * 10) * 10 ^ ds.length := Nat.mul_le_mul_right _ (by omega)
      _ = (s + 1) * 10 ^ (ds.length + 1) := by rw [Nat.mul_assoc, Nat.pow_succ']

/-- Digits that do not fit are counted as zeros. -/
theorem absorb_le {s t n : Nat} {ds : List Nat} (hWord : s < UInt64.size) (h : absorb s ds = (t, n)) :
    t < UInt64.size ∧ n ≤ ds.length ∧ t * 10 ^ (ds.length - n) ≤ extend s ds := by
  induction ds generalizing s t n with
  | nil =>
    cases h
    exact ⟨hWord, Nat.le_refl 0, Nat.le_of_eq (Nat.mul_one s)⟩
  | cons d ds ih =>
    rw [absorb] at h
    split at h
    · rename_i hFits
      cases hLater : absorb (10 * s + d) ds with
      | mk total taken =>
        rw [hLater] at h
        cases h
        obtain ⟨hTotal, hTaken, hLe⟩ := ih hFits hLater
        refine ⟨hTotal, Nat.succ_le_succ hTaken, ?_⟩
        rw [List.length_cons, Nat.add_sub_add_right]
        exact hLe
    · cases h
      exact ⟨hWord, Nat.zero_le _, mul_pow_le_extend s (d :: ds)⟩

/-- The real that digits and an exponent make is there if the number that they stand for is not too
large. -/
theorem exists_assemble (negative : Bool) {whole fraction : List Nat} {e : Option Int}
    (hReal : ¬(fraction = [] ∧ e = none)) (hWhole : extend 0 whole < UInt64.size)
    (hBound : (extend 0 (whole ++ fraction) : ℚ) * 10 ^ (e.getD 0 - fraction.length) *
      (1 + 2 ^ (-53 : Int)) ^ 2 < magnitude (2 ^ 54 - 1) 970) :
    ∃ y, assemble negative whole fraction e = .ok (.real y) := by
  cases hFraction : absorb (extend 0 whole) fraction with
  | mk t n =>
    obtain ⟨hWord, hLength, hLe⟩ := absorb_le hWhole hFraction
    have hAll := extend_append 0 whole fraction
    have hValue : (t : ℚ) * 10 ^ (e.getD 0 - n) ≤
        extend 0 (whole ++ fraction) * 10 ^ (e.getD 0 - fraction.length) := by
      have hExponent : e.getD 0 - n = (fraction.length - n : Nat) + (e.getD 0 - fraction.length) := by
        omega
      rw [hExponent, zpow_add₀ (by norm_num), ← mul_assoc, zpow_natCast, hAll]
      exact mul_le_mul_of_nonneg_right (by exact_mod_cast hLe) (by positivity)
    obtain ⟨y, hy⟩ := exists_scale (e := e.getD 0 - n) hWord (lt_of_le_of_lt
      (mul_le_mul_of_nonneg_right hValue (by positivity)) hBound)
    refine ⟨if negative then -y else y, ?_⟩
    have hNoInteger : ¬(fraction = [] ∧ e = none ∧ whole.length - whole.length = 0 ∧
        (negative = true → 0 < extend 0 whole ∧ extend 0 whole ≤ UInt64.size / 2)) :=
      fun h => hReal ⟨h.1, h.2.1⟩
    have hExponent : ((whole.length - whole.length : Nat) : Int) - n + e.getD 0 = e.getD 0 - n := by omega
    have hTaken : absorb 0 whole = (extend 0 whole, whole.length) := absorb_eq hWhole
    unfold assemble
    rw [hTaken]
    dsimp only
    rw [if_neg hNoInteger, hFraction]
    dsimp only
    rw [hExponent, hy]
    rfl

/-- The digits of a number in their places. The exponent is not left out unless there is none. -/
structure Parts where
  whole : Bytes
  fraction : Bytes
  exponent : Option Int

namespace Parts

def exponentText : Option Int → Bytes
  | none => []
  | some e => 0x65 :: if 0 ≤ e then 0x2B :: decimal e.toNat else 0x2D :: decimal (-e).toNat

theorem exponentText_of_nonneg {e : Int} (h : 0 ≤ e) :
    exponentText (some e) = 0x65 :: 0x2B :: decimal e.toNat :=
  congrArg (List.cons 0x65) (if_pos h)

theorem exponentText_of_neg {e : Int} (h : ¬0 ≤ e) :
    exponentText (some e) = 0x65 :: 0x2D :: decimal (-e).toNat :=
  congrArg (List.cons 0x65) (if_neg h)

def text (p : Parts) : Bytes :=
  p.whole ++ (if p.fraction = [] then [] else 0x2E :: p.fraction) ++ exponentText p.exponent

/-- No zero stands before another digit of the whole part. -/
structure IsProper (p : Parts) : Prop where
  whole_digits : ∀ b ∈ p.whole, isDigit b = true
  fraction_digits : ∀ b ∈ p.fraction, isDigit b = true
  some_whole : p.whole ≠ []
  leading : ∀ ds, values p.whole = 0 :: ds → ds = []

theorem IsProper.exists_text_eq_cons {p : Parts} (h : p.IsProper) :
    ∃ b bs, p.text = b :: bs ∧ isDigit b = true := by
  obtain ⟨b, bs, hWhole⟩ := List.exists_cons_of_ne_nil h.some_whole
  have hDigit := h.whole_digits b (hWhole ▸ List.mem_cons_self)
  unfold text
  rw [hWhole]
  exact ⟨b, _, rfl, hDigit⟩

end Parts

theorem digits_decimal (n : Nat) : digits (decimal n) = (places n, []) := by
  have hEnd : ∀ b ∈ ([] : Bytes).head?, isDigit b = false := fun _ hb => by cases hb
  have hDigits := digits_append (fun _ => isDigit_of_mem_decimal (n := n)) hEnd
  rwa [List.append_nil, values_decimal] at hDigits

theorem readExponent_text (negative : Bool) (whole fraction : List Nat) (e : Option Int) :
    readExponent negative whole fraction (Parts.exponentText e) =
      (⟨assemble negative whole fraction e, none⟩, some []) := by
  have hPlaces : ∀ n, (places n).foldl (fun s d => 10 * s + d) 0 = n := extend_places
  cases e with
  | none => rfl
  | some e =>
    by_cases hUp : 0 ≤ e
    · have hExponent : (e.toNat : Int) = e := Int.toNat_of_nonneg hUp
      have hSign : ¬(0x2B : UInt8) = 0x2D := by decide
      rw [Parts.exponentText_of_nonneg hUp, readExponent, if_pos (Or.inl rfl)]
      simp only [hSign, digits_decimal, places_ne_nil, hPlaces, hExponent, if_true, if_false,
        Bool.false_eq_true]
    · have hExponent : -((-e).toNat : Int) = e := by omega
      rw [Parts.exponentText_of_neg hUp, readExponent, if_pos (Or.inl rfl)]
      simp only [digits_decimal, places_ne_nil, hPlaces, hExponent, if_true, if_false]

theorem head?_exponentText {e : Option Int} {b : UInt8} (h : b ∈ (Parts.exponentText e).head?) :
    b = 0x65 := by
  cases e with
  | none => cases h
  | some e =>
    cases h
    rfl

theorem readFraction_text (negative : Bool) (whole : List Nat) {fraction : Bytes}
    (hDigits : ∀ b ∈ fraction, isDigit b = true) (e : Option Int) :
    readFraction negative whole
        ((if fraction = [] then [] else 0x2E :: fraction) ++ Parts.exponentText e) =
      (⟨assemble negative whole (values fraction) e, none⟩, some []) := by
  by_cases hNone : fraction = []
  · subst hNone
    have hRead := readExponent_text negative whole [] e
    rw [if_pos rfl, List.nil_append]
    cases hText : Parts.exponentText e with
    | nil =>
      rw [hText] at hRead
      exact hRead
    | cons b rest =>
      have hMark : b = 0x65 := head?_exponentText (e := e) (by rw [hText]; rfl)
      have hPoint : ¬b = 0x2E := by
        rw [hMark]
        decide
      rw [readFraction, if_neg hPoint, ← hText]
      exact hRead
  · have hSome : values fraction ≠ [] := fun h => hNone (List.map_eq_nil_iff.mp h)
    have hStop : ∀ b ∈ (Parts.exponentText e).head?, isDigit b = false := by
      intro b hb
      rw [head?_exponentText hb]
      rfl
    have hSplit : digits (fraction ++ Parts.exponentText e) = (values fraction, Parts.exponentText e) :=
      digits_append hDigits hStop
    rw [if_neg hNone, List.cons_append, readFraction, if_pos rfl, hSplit]
    dsimp only
    rw [if_neg hSome]
    exact readExponent_text negative whole (values fraction) e

theorem readMagnitude_text {p : Parts} (h : p.IsProper) (negative : Bool) :
    readMagnitude negative p.text =
      (⟨assemble negative (values p.whole) (values p.fraction) p.exponent, none⟩, some []) := by
  have hSome : values p.whole ≠ [] := fun hNone => h.some_whole (List.map_eq_nil_iff.mp hNone)
  have hStop : ∀ b ∈ ((if p.fraction = [] then [] else 0x2E :: p.fraction) ++
      Parts.exponentText p.exponent).head?, isDigit b = false := by
    intro b hb
    split at hb
    · rw [List.nil_append] at hb
      rw [head?_exponentText hb]
      rfl
    · cases hb
      rfl
  unfold readMagnitude Parts.text
  rw [List.append_assoc, digits_append h.whole_digits hStop]
  dsimp only
  split
  · rename_i hNone
    exact absurd hNone hSome
  · rename_i hZero
    cases h.leading _ hZero
  · exact readFraction_text negative _ h.fraction_digits p.exponent

/-- The text of a number, with its sign. -/
def signed (negative : Bool) (bs : Bytes) : Bytes := if negative then 0x2D :: bs else bs

theorem read_text {p : Parts} (h : p.IsProper) (negative : Bool) :
    read (signed negative p.text) =
      (⟨assemble negative (values p.whole) (values p.fraction) p.exponent, none⟩, some []) := by
  cases negative with
  | true => exact readMagnitude_text h true
  | false =>
    have hRead := readMagnitude_text h false
    obtain ⟨b, bs, hText, hDigit⟩ := h.exists_text_eq_cons
    have hSign : ¬b = 0x2D := by
      rintro rfl
      cases hDigit
    change read p.text = _
    rw [hText] at hRead ⊢
    rw [read, if_neg hSign]
    exact hRead

end Numeral

end Redfish.Json
