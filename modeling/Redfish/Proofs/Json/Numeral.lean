import Redfish.Proofs.Json.Reading
import Redfish.Proofs.Text

/-!
# Counts in decimal digits

A number that fits a machine word is written by its decimal digits, the first of which is no zero unless
it stands alone. So all of the digits are taken into the significand, and the number is read back.
-/

namespace Redfish.Json

namespace Numeral

/-- The number that digits make behind a significand. -/
def extend (s : Nat) (ds : List Nat) : Nat := ds.foldl (fun s d => 10 * s + d) s

theorem extend_append (s : Nat) (ds es : List Nat) : extend s (ds ++ es) = extend (extend s ds) es :=
  List.foldl_append

theorem le_extend (ds : List Nat) (s : Nat) : s ≤ extend s ds := by
  induction ds generalizing s with
  | nil => exact Nat.le_refl s
  | cons d ds ih =>
    have hStep : 10 * s + d ≤ extend s (d :: ds) := ih (10 * s + d)
    omega

theorem absorb_eq {ds : List Nat} {s : Nat} (h : extend s ds < UInt64.size) :
    absorb s ds = (extend s ds, ds.length) := by
  induction ds generalizing s with
  | nil => rfl
  | cons d ds ih =>
    have hFits : 10 * s + d < UInt64.size := Nat.lt_of_le_of_lt (le_extend ds _) h
    rw [absorb, if_pos hFits, ih h]
    rfl

/-- What the digits of a text count. -/
def values (bs : Bytes) : List Nat := bs.map (·.toNat - 0x30)

theorem values_append (bs cs : Bytes) : values (bs ++ cs) = values bs ++ values cs := List.map_append

theorem length_values (bs : Bytes) : (values bs).length = bs.length := List.length_map _

theorem values_lt {bs : Bytes} (h : ∀ b ∈ bs, isDigit b = true) : ∀ d ∈ values bs, d < 10 := by
  intro d hd
  obtain ⟨b, hb, rfl⟩ := List.mem_map.mp hd
  have hDigit := h b hb
  unfold isDigit at hDigit
  rw [Bool.and_eq_true, decide_eq_true_eq, decide_eq_true_eq, UInt8.le_iff_toNat_le,
    UInt8.le_iff_toNat_le] at hDigit
  have hHigh : b.toNat ≤ 0x39 := hDigit.2
  omega

theorem digits_append {bs rest : Bytes} (hDigits : ∀ b ∈ bs, isDigit b = true)
    (hRest : ∀ b ∈ rest.head?, isDigit b = false) : digits (bs ++ rest) = (values bs, rest) := by
  unfold digits
  rw [List.span_eq_takeWhile_dropWhile, takeWhile_piece hDigits hRest, dropWhile_piece hDigits hRest]
  rfl

theorem head?_toDigits {n : Nat} (h : 0 < n) : (Nat.toDigits 10 n).head? ≠ some '0' := by
  induction n using Nat.strongRecOn with
  | ind n ih =>
    rw [Nat.toDigits_eq_if (by decide)]
    split
    · intro hZero
      have hDigit := Nat.digitChar_eq_zero.mp (Option.some.inj hZero)
      omega
    · rw [List.head?_append_of_ne_nil _ Nat.toDigits_ne_nil]
      exact ih (n / 10) (by omega) (by omega)

theorem isDigit_toUInt8 {c : Char} (h : c.isDigit = true) :
    c.toNat < 128 ∧ isDigit c.toUInt8 = true := by
  obtain ⟨hLow, hHigh⟩ := Char.isDigit_iff_toNat.mp h
  have hAscii : c.toNat < 128 := Nat.lt_of_le_of_lt hHigh (by decide)
  refine ⟨hAscii, ?_⟩
  unfold isDigit
  rw [Bool.and_eq_true, decide_eq_true_eq, decide_eq_true_eq, UInt8.le_iff_toNat_le,
    UInt8.le_iff_toNat_le, Bytes.toNat_toUInt8 hAscii]
  exact ⟨hLow, hHigh⟩

/-- The decimal digits of a number as bytes. -/
def decimal (n : Nat) : Bytes := (Nat.toDigits 10 n).map Char.toUInt8

theorem isDigit_of_mem_decimal {n : Nat} {b : UInt8} (h : b ∈ decimal n) : isDigit b = true := by
  obtain ⟨c, hc, rfl⟩ := List.mem_map.mp h
  exact (isDigit_toUInt8 (Nat.isDigit_of_mem_toDigits (by decide) (by decide) hc)).2

theorem decimal_ne_nil (n : Nat) : decimal n ≠ [] := fun h => Nat.toDigits_ne_nil (List.map_eq_nil_iff.mp h)

theorem length_decimal_pos (n : Nat) : 0 < (decimal n).length := List.length_pos_iff.mpr (decimal_ne_nil n)

theorem ofText_digits {cs : List Char} (h : ∀ c ∈ cs, c.isDigit = true) :
    Bytes.ofText (String.ofList cs) = cs.map Char.toUInt8 := by
  rw [Bytes.ofText_ofList, List.map_eq_flatMap]
  exact List.flatMap_congr fun c hc => Bytes.utf8EncodeChar_of_lt (isDigit_toUInt8 (h c hc)).1

theorem ofText_toString (n : Nat) : Bytes.ofText (toString n) = decimal n := by
  rw [Nat.toString_eq_ofList_toDigits]
  exact ofText_digits fun c hc => Nat.isDigit_of_mem_toDigits (by decide) (by decide) hc

def places (n : Nat) : List Nat := (Nat.toDigits 10 n).map fun c => c.toNat - '0'.toNat

theorem values_decimal (n : Nat) : values (decimal n) = places n := by
  unfold values decimal places
  rw [List.map_map]
  apply List.map_congr_left
  intro c hc
  have hDigit := Nat.isDigit_of_mem_toDigits (by decide) (by decide) hc
  rw [Function.comp_apply, Bytes.toNat_toUInt8 (isDigit_toUInt8 hDigit).1]
  rfl

theorem extend_places (n : Nat) : extend 0 (places n) = n := by
  rw [extend, places, List.foldl_map, ← Nat.ofDigitChars_eq_foldl]
  exact Nat.ofDigitChars_ten_toDigits

theorem places_ne_nil (n : Nat) : places n ≠ [] :=
  fun h => Nat.toDigits_ne_nil (List.map_eq_nil_iff.mp h)

theorem places_eq_zero_cons {n : Nat} {ds : List Nat} (h : places n = 0 :: ds) : ds = [] := by
  rcases Nat.eq_zero_or_pos n with rfl | hPos
  · exact (List.cons.inj h).2.symm
  · obtain ⟨c, cs, hDigits, hZero, _⟩ := List.map_eq_cons_iff.mp h
    have hDigit : c.isDigit = true := by
      refine Nat.isDigit_of_mem_toDigits (b := 10) (n := n) (by decide) (by decide) ?_
      rw [hDigits]
      exact List.mem_cons_self
    have hLow := (Char.isDigit_iff_toNat.mp hDigit).1
    have hChar : c = '0' := Char.toNat_inj.mp (by omega)
    have hHead := head?_toDigits hPos
    rw [hDigits, hChar] at hHead
    exact absurd rfl hHead

theorem places_ne_zero_cons {n : Nat} (hPos : 0 < n) (ds : List Nat) : places n ≠ 0 :: ds := by
  intro h
  have hValue := extend_places n
  rw [h, places_eq_zero_cons h] at hValue
  exact absurd hValue hPos.ne

theorem assemble_places {n : Nat} (h : n < UInt64.size) :
    assemble false (places n) [] none = .ok (.integer n) := by
  have hAll : absorb 0 (places n) = (n, (places n).length) := by
    have hFits : extend 0 (places n) < UInt64.size := by rwa [extend_places]
    rw [absorb_eq hFits, extend_places]
  unfold assemble
  rw [hAll]
  simp only [Nat.sub_self, Bool.false_eq_true, false_implies, and_self, if_true, if_false]
  rfl

theorem readExponent_of_ends (whole : List Nat) {rest : Bytes} (h : Ends rest) :
    readExponent false whole [] rest = (⟨assemble false whole [] none, none⟩, some rest) := by
  cases rest with
  | nil => rfl
  | cons b rest =>
    have hMark : ¬(b = 0x65 ∨ b = 0x45) := by
      rcases h b rfl with rfl | rfl | rfl <;> decide
    exact if_neg hMark

theorem readFraction_of_ends (whole : List Nat) {rest : Bytes} (h : Ends rest) :
    readFraction false whole rest = (⟨assemble false whole [] none, none⟩, some rest) := by
  cases rest with
  | nil => rfl
  | cons b rest =>
    have hPoint : b ≠ 0x2E := by
      rcases h b rfl with rfl | rfl | rfl <;> decide
    rw [readFraction, if_neg hPoint]
    exact readExponent_of_ends whole h

theorem readMagnitude_decimal {n : Nat} (h : n < UInt64.size) {rest : Bytes} (hRest : Ends rest) :
    readMagnitude false (decimal n ++ rest) = (⟨.ok (.integer n), none⟩, some rest) := by
  have hStop : ∀ b ∈ rest.head?, isDigit b = false := by
    intro b hb
    rcases hRest b hb with rfl | rfl | rfl <;> rfl
  have hDigits : digits (decimal n ++ rest) = (places n, rest) := by
    rw [digits_append (fun b => isDigit_of_mem_decimal) hStop, values_decimal]
  unfold readMagnitude
  rw [hDigits]
  dsimp only
  split
  · rename_i hNone
    exact absurd hNone (places_ne_nil n)
  · rename_i hZero
    cases places_eq_zero_cons hZero
  · rw [readFraction_of_ends _ hRest, assemble_places h]

theorem exists_decimal_eq_cons (n : Nat) : ∃ b bs, decimal n = b :: bs ∧ isDigit b = true := by
  obtain ⟨b, bs, hBytes⟩ := List.exists_cons_of_ne_nil (decimal_ne_nil n)
  exact ⟨b, bs, hBytes, isDigit_of_mem_decimal (hBytes ▸ List.mem_cons_self)⟩

theorem read_decimal {n : Nat} (h : n < UInt64.size) {rest : Bytes} (hRest : Ends rest) :
    read (decimal n ++ rest) = (⟨.ok (.integer n), none⟩, some rest) := by
  have hMagnitude := readMagnitude_decimal h hRest
  obtain ⟨b, bs, hBytes, hDigit⟩ := exists_decimal_eq_cons n
  have hSign : b ≠ 0x2D := by
    rintro rfl
    cases hDigit
  rw [hBytes, List.cons_append] at hMagnitude ⊢
  rw [read, if_neg hSign, hMagnitude]

end Numeral

theorem Number.readsBack_count {n : Nat} (h : n < UInt64.size) : (Number.integer n).ReadsBack := by
  have hRender : (Number.integer n).render = Numeral.decimal n := Numeral.ofText_toString n
  constructor
  · obtain ⟨b, bs, hBytes, hDigit⟩ := Numeral.exists_decimal_eq_cons n
    exact ⟨b, bs, hRender.trans hBytes, .inr hDigit⟩
  · intro b hb
    rw [hRender] at hb
    obtain ⟨hBlank, hQuote, _⟩ := number_first (.inr (Numeral.isDigit_of_mem_decimal hb))
    exact ⟨hQuote, hBlank⟩
  · intro rest hRest
    rw [hRender]
    exact Numeral.read_decimal h hRest

theorem natural_of_lt {bound n : Nat} (h : n < bound) (levels : Nat) :
    Decoder.natural bound levels (Value.number (.integer n)).exactOutline = .ok n := by
  have hRange : (0 : Int) ≤ n ∧ (n : Int) < bound := by omega
  exact if_pos hRange

namespace Codec

theorem roundTrips_uint64 (levels : Nat) (n : UInt64) : RoundTrips levels n := by
  have hRead := natural_of_lt n.toNat_lt_size levels
  change (Decoder.natural UInt64.size levels (Value.number (.integer n.toNat)).exactOutline).map
    UInt64.ofNat = .ok n
  rw [hRead]
  exact congrArg Except.ok UInt64.ofNat_toNat

theorem canonical_uint64 {levels : Nat} (n : UInt64) : (Codec.encode n : Value).Canonical levels :=
  .number (Number.readsBack_count n.toNat_lt_size)

end Codec

end Redfish.Json
