import Redfish.Json.Codec
import Redfish.Proofs.Json.Significand
import Redfish.Proofs.Text

/-!
# Reals are read

The text of a finite real is one that can be read. The real that is read need not be the one that was
written, but the digits of a real and their power of ten always make one.
-/

namespace Redfish.Json

open Decimal Numeral

namespace Numeral

/-- The bytes of a run of zeros. -/
def zeroBytes (n : Nat) : Bytes := List.replicate n 0x30

theorem values_zeroBytes (n : Nat) : values (zeroBytes n) = List.replicate n 0 := List.map_replicate

theorem isDigit_of_mem_zeroBytes {n : Nat} {b : UInt8} (h : b ∈ zeroBytes n) : isDigit b = true := by
  rw [List.eq_of_mem_replicate h]
  rfl

theorem ofText_zeros (n : Nat) : Bytes.ofText (Notation.zeros n) = zeroBytes n := by
  unfold Notation.zeros
  rw [ofText_digits, List.map_replicate]
  · rfl
  · intro c hc
    rw [List.eq_of_mem_replicate hc]
    rfl

theorem toList_toString (n : Nat) : (toString n).toList = Nat.toDigits 10 n := by
  rw [Nat.toString_eq_ofList_toDigits, String.toList_ofList]

/-- The digits of a number as they are laid out: some of them in one place. -/
theorem ofText_some_digits {n : Nat} {cs : List Char} (h : ∀ c ∈ cs, c ∈ (toString n).toList) :
    Bytes.ofText (String.ofList cs) = cs.map Char.toUInt8 := by
  apply ofText_digits
  intro c hc
  have hDigit := h c hc
  rw [toList_toString] at hDigit
  exact Nat.isDigit_of_mem_toDigits (by decide) (by decide) hDigit

/-- The parts of the text of a decimal that is not zero. -/
structure IsLayout (s : Scaled) (p : Parts) : Prop where
  text_eq : Bytes.ofText (realNotation.layout s) = p.text
  proper : p.IsProper
  real : ¬(values p.fraction = [] ∧ p.exponent = none)
  short : p.whole.length ≤ 16
  value_eq : (extend 0 (values p.whole ++ values p.fraction) : ℚ) *
    10 ^ (p.exponent.getD 0 - p.fraction.length) = s.value

section

variable {s : Scaled}

theorem ofText_digits_eq (s : Scaled) :
    Bytes.ofText (String.ofList (toString s.digits).toList) = decimal s.digits := by
  rw [ofText_some_digits fun c hc => hc, toList_toString]
  rfl

theorem ofText_take (s : Scaled) (n : Nat) :
    Bytes.ofText (String.ofList ((toString s.digits).toList.take n)) = (decimal s.digits).take n := by
  rw [ofText_some_digits fun c hc => List.mem_of_mem_take hc, toList_toString, List.map_take]
  rfl

theorem ofText_drop (s : Scaled) (n : Nat) :
    Bytes.ofText (String.ofList ((toString s.digits).toList.drop n)) = (decimal s.digits).drop n := by
  rw [ofText_some_digits fun c hc => List.mem_of_mem_drop hc, toList_toString, List.map_drop]
  rfl

theorem leadExponent_eq (s : Scaled) :
    Notation.leadExponent s = s.exponent + (decimal s.digits).length - 1 := by
  unfold Notation.leadExponent decimal
  rw [← String.length_toList, toList_toString, List.length_map]

theorem take_proper (hPos : 0 < s.digits) {n : Nat} (hn : 0 < n) (e : Option Int) :
    Parts.IsProper ⟨(decimal s.digits).take n, (decimal s.digits).drop n, e⟩ where
  whole_digits b hb := isDigit_of_mem_decimal (List.mem_of_mem_take hb)
  fraction_digits b hb := isDigit_of_mem_decimal (List.mem_of_mem_drop hb)
  some_whole h := by
    rcases List.take_eq_nil_iff.mp h with hNone | hNone
    · omega
    · exact decimal_ne_nil _ hNone
  leading ds h := by
    exfalso
    apply places_ne_zero_cons hPos (ds ++ values ((decimal s.digits).drop n))
    rw [← values_decimal, ← List.cons_append, ← h, ← values_append, List.take_append_drop]

/-- The decimals that are written without an exponent. -/
def IsPositional (s : Scaled) : Prop :=
  realNotation.leastPositional ≤ Notation.leadExponent s ∧
    Notation.leadExponent s ≤ realNotation.greatestPositional

theorem layout_whole (hPos : 0 < s.digits) (hLead : IsPositional s) (hExponent : 0 ≤ s.exponent) :
    IsLayout s ⟨decimal s.digits ++ zeroBytes s.exponent.toNat, zeroBytes 1, none⟩ where
  text_eq := by
    have hLayout : realNotation.layout s =
        String.ofList (toString s.digits).toList ++ Notation.zeros s.exponent.toNat ++ ".0" :=
      (if_pos hLead).trans (if_pos hExponent)
    rw [hLayout, Bytes.ofText_append, Bytes.ofText_append, ofText_digits_eq, ofText_zeros]
    exact (List.append_nil _).symm
  proper := by
    refine ⟨?_, fun b => isDigit_of_mem_zeroBytes, ?_, ?_⟩
    · exact List.forall_mem_append.mpr
        ⟨fun b => isDigit_of_mem_decimal, fun b => isDigit_of_mem_zeroBytes⟩
    · exact List.append_ne_nil_of_left_ne_nil (decimal_ne_nil _) _
    · intro ds h
      rw [values_append, values_decimal] at h
      obtain ⟨d, es, hPlaces⟩ := List.exists_cons_of_ne_nil (places_ne_nil s.digits)
      rw [hPlaces] at h
      cases h
      exact absurd hPlaces (places_ne_zero_cons hPos es)
  real h := by cases h.1
  short := by
    have hTop : Notation.leadExponent s ≤ 15 := hLead.2
    rw [leadExponent_eq] at hTop
    rw [List.length_append, zeroBytes, List.length_replicate]
    omega
  value_eq := by
    obtain ⟨k, hPower⟩ := Int.eq_ofNat_of_zero_le hExponent
    have hNumber : extend 0 (values (decimal s.digits ++ zeroBytes s.exponent.toNat) ++
        values (zeroBytes 1)) = s.digits * 10 ^ k * 10 ^ 1 := by
      rw [hPower, Int.toNat_natCast, values_append, values_decimal, values_zeroBytes, values_zeroBytes,
        extend_append, extend_append, extend_replicate_zero, extend_replicate_zero, extend_places]
    have hPoint : (10 : ℚ) ^ ((none : Option Int).getD 0 - ((zeroBytes 1).length : Int)) = 10⁻¹ :=
      zpow_neg_one 10
    unfold Scaled.value
    rw [hNumber, hPoint, hPower, zpow_natCast]
    push_cast
    ring

theorem extend_take_drop (c n : Nat) :
    extend 0 (values ((decimal c).take n) ++ values ((decimal c).drop n)) = c := by
  rw [← values_append, List.take_append_drop, values_decimal, extend_places]

theorem drop_lead_ne_nil (hExponent : ¬0 ≤ s.exponent) (hWhole : 0 ≤ Notation.leadExponent s) :
    (decimal s.digits).drop ((Notation.leadExponent s).toNat + 1) ≠ [] := by
  have hLength := leadExponent_eq s
  rw [Ne, List.drop_eq_nil_iff]
  omega

theorem layout_split (hPos : 0 < s.digits) (hLead : IsPositional s) (hExponent : ¬0 ≤ s.exponent)
    (hWhole : 0 ≤ Notation.leadExponent s) :
    IsLayout s ⟨(decimal s.digits).take ((Notation.leadExponent s).toNat + 1),
      (decimal s.digits).drop ((Notation.leadExponent s).toNat + 1), none⟩ where
  text_eq := by
    have hLayout : realNotation.layout s =
        String.ofList ((toString s.digits).toList.take ((Notation.leadExponent s).toNat + 1)) ++ "." ++
          String.ofList ((toString s.digits).toList.drop ((Notation.leadExponent s).toNat + 1)) := by
      exact (if_pos hLead).trans ((if_neg hExponent).trans (if_pos hWhole))
    have hSome := drop_lead_ne_nil hExponent hWhole
    rw [hLayout, Bytes.ofText_append, Bytes.ofText_append, ofText_take, ofText_drop]
    unfold Parts.text
    rw [if_neg hSome, List.append_assoc]
    exact (List.append_nil _).symm
  proper := take_proper hPos (Nat.succ_pos _) none
  real h := drop_lead_ne_nil hExponent hWhole (List.map_eq_nil_iff.mp h.1)
  short := by
    have hTop : Notation.leadExponent s ≤ 15 := hLead.2
    rw [List.length_take]
    omega
  value_eq := by
    have hPoint : (none : Option Int).getD 0 -
        ((decimal s.digits).drop ((Notation.leadExponent s).toNat + 1)).length = s.exponent := by
      have hLength := leadExponent_eq s
      rw [Option.getD_none, List.length_drop]
      omega
    rw [extend_take_drop, hPoint]
    rfl

theorem layout_fraction (hLead : IsPositional s) (hExponent : ¬0 ≤ s.exponent)
    (hFraction : ¬0 ≤ Notation.leadExponent s) :
    IsLayout s ⟨zeroBytes 1, zeroBytes (-Notation.leadExponent s - 1).toNat ++ decimal s.digits, none⟩ where
  text_eq := by
    have hLayout : realNotation.layout s = "0." ++ Notation.zeros (-Notation.leadExponent s - 1).toNat ++
        String.ofList (toString s.digits).toList :=
      (if_pos hLead).trans ((if_neg hExponent).trans (if_neg hFraction))
    rw [hLayout, Bytes.ofText_append, Bytes.ofText_append, ofText_digits_eq, ofText_zeros, List.append_assoc]
    unfold Parts.text
    rw [if_neg (List.append_ne_nil_of_right_ne_nil _ (decimal_ne_nil _))]
    exact (List.append_nil _).symm
  proper := by
    refine ⟨fun b => isDigit_of_mem_zeroBytes, ?_, List.cons_ne_nil _ _, ?_⟩
    · exact List.forall_mem_append.mpr
        ⟨fun b => isDigit_of_mem_zeroBytes, fun b => isDigit_of_mem_decimal⟩
    · intro ds h
      exact (List.cons.inj h).2.symm
  real h := List.append_ne_nil_of_right_ne_nil _ (decimal_ne_nil _) (List.map_eq_nil_iff.mp h.1)
  short := show 1 ≤ 16 by decide
  value_eq := by
    have hNumber : extend 0 (values (zeroBytes 1) ++
        values (zeroBytes (-Notation.leadExponent s - 1).toNat ++ decimal s.digits)) = s.digits := by
      rw [values_append, values_decimal, values_zeroBytes, values_zeroBytes, extend_append, extend_append,
        extend_replicate_zero, extend_replicate_zero, Nat.zero_mul, Nat.zero_mul, extend_places]
    have hPoint : (none : Option Int).getD 0 -
        (zeroBytes (-Notation.leadExponent s - 1).toNat ++ decimal s.digits).length = s.exponent := by
      have hLength := leadExponent_eq s
      rw [Option.getD_none, List.length_append, zeroBytes, List.length_replicate]
      omega
    rw [hNumber, hPoint]
    rfl

theorem ofText_fraction (s : Scaled) :
    Bytes.ofText (if (toString s.digits).toList.drop 1 = [] then "" else
      "." ++ String.ofList ((toString s.digits).toList.drop 1)) =
      if (decimal s.digits).drop 1 = [] then [] else 0x2E :: (decimal s.digits).drop 1 := by
  have hDecimal : (decimal s.digits).drop 1 = ((toString s.digits).toList.drop 1).map Char.toUInt8 := by
    rw [toList_toString, List.map_drop]
    rfl
  by_cases hNone : (toString s.digits).toList.drop 1 = []
  · rw [if_pos hNone, hDecimal, hNone]
    rfl
  · have hSome : (decimal s.digits).drop 1 ≠ [] := by
      rw [hDecimal]
      exact fun h => hNone (List.map_eq_nil_iff.mp h)
    rw [if_neg hNone, if_neg hSome, Bytes.ofText_append, ofText_drop]
    rfl

theorem ofText_exponent (e : Int) :
    Bytes.ofText "e" ++ Bytes.ofText (if 0 ≤ e then realNotation.plus ++ toString e.toNat else
      "-" ++ toString (-e).toNat) = Parts.exponentText (some e) := by
  by_cases hUp : 0 ≤ e
  · rw [if_pos hUp, Bytes.ofText_append, ofText_toString, Parts.exponentText_of_nonneg hUp]
    rfl
  · rw [if_neg hUp, Bytes.ofText_append, ofText_toString, Parts.exponentText_of_neg hUp]
    rfl

theorem layout_scientific (hPos : 0 < s.digits) (hLead : ¬IsPositional s) :
    IsLayout s ⟨(decimal s.digits).take 1, (decimal s.digits).drop 1, some (Notation.leadExponent s)⟩ where
  text_eq := by
    have hLayout : realNotation.layout s = _ := if_neg hLead
    rw [hLayout, Bytes.ofText_append, Bytes.ofText_append, Bytes.ofText_append, ofText_take, ofText_fraction,
      List.append_assoc, ofText_exponent]
    rfl
  proper := take_proper hPos Nat.one_pos _
  real h := by cases h.2
  short := by
    rw [List.length_take]
    omega
  value_eq := by
    have hPoint : (some (Notation.leadExponent s)).getD 0 - ((decimal s.digits).drop 1).length =
        s.exponent := by
      have hLength := leadExponent_eq s
      have hSome := length_decimal_pos s.digits
      rw [Option.getD_some, List.length_drop]
      omega
    rw [extend_take_drop, hPoint]
    rfl

end

theorem exists_layout {s : Scaled} (hPos : 0 < s.digits) : ∃ p, IsLayout s p := by
  by_cases hLead : IsPositional s
  · by_cases hExponent : 0 ≤ s.exponent
    · exact ⟨_, layout_whole hPos hLead hExponent⟩
    · by_cases hWhole : 0 ≤ Notation.leadExponent s
      · exact ⟨_, layout_split hPos hLead hExponent hWhole⟩
      · exact ⟨_, layout_fraction hLead hExponent hWhole⟩
  · exact ⟨_, layout_scientific hPos hLead⟩

end Numeral

/-- The text that the real `x` is written as is read as `y`. -/
def ReadsAs (x y : Float) : Prop :=
  (Codec.decode : Decoder Float).run (Codec.encode x : Value).render = .ok y

theorem outline_text {p : Parts} (h : p.IsProper) (negative : Bool) :
    Outline.read (signed negative p.text) =
      (.number ⟨assemble negative (values p.whole) (values p.fraction) p.exponent, none⟩, some []) := by
  have hRead := read_text h negative
  obtain ⟨b, bs, hText, hFirst⟩ : ∃ b bs, signed negative p.text = b :: bs ∧
      (b = 0x2D ∨ isDigit b = true) := by
    cases negative with
    | true => exact ⟨_, _, rfl, .inl rfl⟩
    | false =>
      obtain ⟨b, bs, hText, hDigit⟩ := h.exists_text_eq_cons
      exact ⟨b, bs, hText, .inr hDigit⟩
  obtain ⟨hBlank, hQuote, hBrace, hBracket, _, hNull, hYes, hNo⟩ := number_first hFirst
  have hNumber : (decide (b = 0x2D) || isDigit b) = true := by
    rw [Bool.or_eq_true, decide_eq_true_eq]
    exact hFirst
  rw [hText] at hRead ⊢
  unfold Outline.read
  rw [Outline.readValue, Outline.skipBlanks_cons hBlank]
  simp only [hQuote, hBrace, hBracket, hNull, hYes, hNo, hNumber, if_false, if_true, hRead]

/-- A number that is not too large is read as some real, whatever its digits. -/
theorem exists_run_text {p : Parts} (hProper : p.IsProper)
    (hReal : ¬(values p.fraction = [] ∧ p.exponent = none)) (hShort : p.whole.length ≤ 16)
    (hBound : (extend 0 (values p.whole ++ values p.fraction) : ℚ) *
      10 ^ (p.exponent.getD 0 - p.fraction.length) * (1 + 2 ^ (-53 : Int)) ^ 2 < magnitude (2 ^ 54 - 1) 970)
    (negative : Bool) : ∃ y, (Codec.decode : Decoder Float).run (signed negative p.text) = .ok y := by
  have hWord : extend 0 (values p.whole) < UInt64.size := by
    calc extend 0 (values p.whole) < (0 + 1) * 10 ^ (values p.whole).length :=
          extend_lt (values_lt hProper.whole_digits) 0
      _ ≤ 1 * 10 ^ 16 := Nat.mul_le_mul_left 1
          (Nat.pow_le_pow_right (by decide) ((length_values _).trans_le hShort))
      _ < UInt64.size := by decide
  rw [← length_values] at hBound
  obtain ⟨y, hy⟩ := exists_assemble negative hReal hWord hBound
  refine ⟨y, ?_⟩
  unfold Decoder.run
  rw [outline_text hProper, hy]
  rfl

/-- The two largest reals of either sign. -/
def largestBits : List UInt64 :=
  [0x7FEFFFFFFFFFFFFF, 0x7FEFFFFFFFFFFFFE, 0xFFEFFFFFFFFFFFFF, 0xFFEFFFFFFFFFFFFE]

/-- Is the real of these bits itself, and read once it is written? -/
def readsBits (bits : UInt64) : Bool :=
  decide ((Float.ofBits bits).toBits = bits) &&
    ((Codec.decode : Decoder Float).run (Codec.encode (Float.ofBits bits) : Value).render).toBool

theorem readsBits_largest : largestBits.all readsBits = true := by decide +kernel

theorem run_largest {bits : UInt64} (h : bits ∈ largestBits) : (Float.ofBits bits).toBits = bits ∧
    ((Codec.decode : Decoder Float).run (Codec.encode (Float.ofBits bits) : Value).render).toBool = true := by
  obtain ⟨hBits, hRead⟩ := Bool.and_eq_true_iff.mp (List.all_eq_true.mp readsBits_largest bits h)
  exact ⟨of_decide_eq_true hBits, hRead⟩

theorem mem_largestBits {x : Float} (hExponent : (Binary.ofFloat x).exponent = 971)
    (hLarge : 2 ^ 53 - 2 ≤ (Binary.ofFloat x).significand) : x.toBits ∈ largestBits := by
  have hWord := x.toBits.toNat_lt
  unfold Binary.ofFloat Binary.leadingBit at hExponent hLarge
  dsimp only at hExponent hLarge
  have hMem : x.toBits.toNat ∈ largestBits.map UInt64.toNat := by
    change _ ∈ [0x7FEFFFFFFFFFFFFF, 0x7FEFFFFFFFFFFFFE, 0xFFEFFFFFFFFFFFFF, 0xFFEFFFFFFFFFFFFE]
    rw [List.mem_cons, List.mem_cons, List.mem_pair]
    split at hExponent
    · cases hExponent
    · rename_i hNormal
      rw [if_neg hNormal] at hLarge
      dsimp only at hExponent hLarge
      omega
  obtain ⟨bits, hBits, hEq⟩ := List.mem_map.mp hMem
  rwa [← UInt64.toNat_inj.mp hEq]

theorem value_shortest_bound {x : Float} (hFinite : x.isFinite = true) (hOther : x.toBits ∉ largestBits) :
    (Binary.ofFloat x).shortest.value * (1 + 2 ^ (-53 : Int)) ^ 2 < magnitude (2 ^ 54 - 1) 970 := by
  have hRange := Binary.isMagnitude_ofFloat hFinite
  have hBelow : magnitude (4 * (Binary.ofFloat x).significand + 2) ((Binary.ofFloat x).exponent - 2) ≤
      magnitude (2 ^ 55 - 10) (968 + (1 : Nat)) := by
    have hFits := hRange.fits
    rcases Int.lt_or_eq_of_le hRange.greatest with hSmall | hTop
    · rw [magnitude_add]
      exact (magnitude_mono (by omega)).trans (magnitude_le (by omega) 968)
    · have hLess : ¬2 ^ 53 - 2 ≤ (Binary.ofFloat x).significand := fun h => hOther (mem_largestBits hTop h)
      rw [hTop]
      exact magnitude_le (by omega) 969
  calc (Binary.ofFloat x).shortest.value * (1 + 2 ^ (-53 : Int)) ^ 2
      ≤ magnitude (2 ^ 55 - 10) 969 * (1 + 2 ^ (-53 : Int)) ^ 2 :=
        mul_le_mul_of_nonneg_right ((Binary.value_shortest_le _).trans hBelow) (by positivity)
    _ < magnitude (2 ^ 54 - 1) (969 + (1 : Nat)) := by
      rw [magnitude_add]
      unfold magnitude
      rw [mul_right_comm]
      exact mul_lt_mul_of_pos_right (by norm_num) (by positivity)

theorem ofText_write (x : Float) :
    Bytes.ofText (realNotation.write x) = signed (UInt64.size / 2 ≤ x.toBits.toNat)
      (Bytes.ofText (if (Binary.ofFloat x).significand = 0 then "0.0" else
        realNotation.layout (Binary.ofFloat x).shortest)) := by
  unfold Notation.write signed
  dsimp only
  split
  · rw [Bytes.ofText_append]
    rfl
  · rfl

/-- Every finite real is read as a real. -/
theorem exists_readsAs {x : Float} (h : x.isFinite = true) : ∃ y, ReadsAs x y := by
  by_cases hLargest : x.toBits ∈ largestBits
  · obtain ⟨hBits, hRead⟩ := run_largest hLargest
    rw [Float.toBits_inj.mp hBits] at hRead
    unfold ReadsAs
    cases hRun : (Codec.decode : Decoder Float).run (Codec.encode x : Value).render with
    | ok y => exact ⟨y, rfl⟩
    | error fault =>
      rw [hRun] at hRead
      cases hRead
  · have hText : (Codec.encode x : Value).render = Bytes.ofText (realNotation.write x) :=
      congrArg Value.render (if_pos h : (Codec.encode x : Value) = .number (.real x))
    unfold ReadsAs
    rw [hText, ofText_write]
    by_cases hZero : (Binary.ofFloat x).significand = 0
    · rw [if_pos hZero]
      have hProper : Parts.IsProper ⟨zeroBytes 1, zeroBytes 1, none⟩ :=
        ⟨fun b => isDigit_of_mem_zeroBytes, fun b => isDigit_of_mem_zeroBytes, List.cons_ne_nil _ _,
          fun ds hds => (List.cons.inj hds).2.symm⟩
      refine exists_run_text hProper (fun hNone => by cases hNone.1) (show 1 ≤ 16 by decide) ?_ _
      change (0 : ℚ) * _ * _ < _
      rw [zero_mul, zero_mul]
      exact mul_pos (by norm_num) (by positivity)
    · rw [if_neg hZero]
      obtain ⟨p, hLayout⟩ := exists_layout
        (Binary.digits_shortest_pos (Binary.isMagnitude_ofFloat h) (Nat.pos_of_ne_zero hZero))
      rw [hLayout.text_eq]
      refine exists_run_text hLayout.proper hLayout.real hLayout.short ?_ _
      rw [hLayout.value_eq]
      exact value_shortest_bound h hLargest

end Redfish.Json
