import Mathlib.Data.UInt
import Redfish.Text.Base64

/-!
# Bits in base64

The bits of the bytes stand in a token six by six, each six as a character of the alphabet. So three bytes
are four characters, and what is missing in the last four is filled up. A token is read as the bytes that
it was written for.
-/

namespace Redfish.Base64

/-- The standard alphabet. A character stands for the number of its place. -/
def alphabet : List Char :=
  "ABCDEFGHIJKLMNOPQRSTUVWXYZabcdefghijklmnopqrstuvwxyz0123456789+/".toList

/-- The last binary digits of a number, the highest of them first. -/
def bits : (width : Nat) → Nat → List Bool
  | 0, _ => []
  | width + 1, n => bits width (n / 2) ++ [decide (n % 2 = 1)]

/-- The last digits of a number to the base of 64, the highest of them first. -/
def sextets : (count : Nat) → Nat → List Nat
  | 0, _ => []
  | count + 1, n => sextets count (n / 64) ++ [n % 64]

/-- The characters come in groups of four, of which the last may be padded. The others hold the bits of
the bytes, and behind them two zeros for each character of the padding. -/
structure Holds (cs : List Char) (values : List Nat) (padding : Nat) (bs : Bytes) : Prop where
  groups : cs.length % 4 = 0
  padded : padding < 3
  chars : cs.map some = values.map (alphabet[·]?) ++ List.replicate padding (some '=')
  same_bits : values.flatMap (bits 6) =
    bs.flatMap (fun b => bits 8 b.toNat) ++ List.replicate (2 * padding) false

/-- The text is the padded base64 of the bytes. -/
def Spells (text : String) (bs : Bytes) : Prop := ∃ values padding, Holds text.toList values padding bs

theorem bits_add (m k n : Nat) : bits (m + k) n = bits m (n / 2 ^ k) ++ bits k n := by
  induction k generalizing n with
  | zero => rw [Nat.pow_zero, Nat.div_one, bits, List.append_nil, Nat.add_zero]
  | succ k ih =>
    rw [← Nat.add_assoc, bits, ih, bits, List.append_assoc, Nat.div_div_eq_div_mul, Nat.pow_succ']

theorem bits_mod (k n : Nat) : bits k (n % 2 ^ k) = bits k n := by
  induction k generalizing n with
  | zero => rfl
  | succ k ih => rw [bits, bits, Nat.pow_succ', Nat.mod_mul_right_div_self, Nat.mod_mul_right_mod, ih]

theorem bits_sextet (width n : Nat) : bits (width + 6) n = bits width (n / 64) ++ bits 6 (n % 64) := by
  have hLow : bits 6 (n % 64) = bits 6 n := bits_mod 6 n
  rw [hLow]
  exact bits_add width 6 n

theorem flatMap_sextets (count n : Nat) : (sextets count n).flatMap (bits 6) = bits (6 * count) n := by
  induction count generalizing n with
  | zero => rfl
  | succ count ih =>
    rw [sextets, List.flatMap_append, ih, List.flatMap_singleton]
    exact (bits_sextet _ n).symm

theorem lt_of_mem_sextets {count n s : Nat} (h : s ∈ sextets count n) : s < 64 := by
  induction count generalizing n with
  | zero => cases h
  | succ count ih =>
    rcases List.mem_append.mp h with hHigh | hLow
    · exact ih hHigh
    · rw [List.mem_singleton.mp hLow]
      exact Nat.mod_lt _ (by decide)

theorem bits_append (width k a : Nat) {b : Nat} (h : b < 2 ^ k) :
    bits (width + k) (a * 2 ^ k + b) = bits width a ++ bits k b := by
  have hFront : (a * 2 ^ k + b) / 2 ^ k = a := by
    rw [Nat.mul_comm, Nat.mul_add_div (Nat.two_pow_pos k), Nat.div_eq_of_lt h, Nat.add_zero]
  rw [bits_add, hFront, ← bits_mod k, Nat.mul_add_mod_self_right, Nat.mod_eq_of_lt h]

theorem bits_byte (width a : Nat) (b : UInt8) :
    bits (width + 8) (a * 256 + b.toNat) = bits width a ++ bits 8 b.toNat :=
  bits_append width 8 a b.toNat_lt

theorem alphabet_digit : ∀ n < 64, alphabet[n]? = some (digit n) := by decide

theorem value?_digit : ∀ n < 64, value? (digit n) = some n := by decide

theorem digit_ne_padding : ∀ n < 64, digit n ≠ '=' := by decide

theorem map_digit (count n : Nat) :
    ((sextets count n).map digit).map some = (sextets count n).map (alphabet[·]?) := by
  rw [List.map_map]
  exact List.map_congr_left fun s hs => (alphabet_digit s (lt_of_mem_sextets hs)).symm

theorem Holds.nil : Holds [] [] 0 [] := ⟨rfl, by decide, rfl, rfl⟩

theorem Holds.group {cs : List Char} {later : List Nat} {padding : Nat} {bs : Bytes}
    (h : Holds cs later padding bs) {n : Nat} (front : Bytes)
    (hBits : bits 24 n = front.flatMap fun b => bits 8 b.toNat) :
    Holds ((sextets 4 n).map digit ++ cs) (sextets 4 n ++ later) padding (front ++ bs) := by
  constructor
  · rw [List.length_append, List.length_map]
    exact (Nat.add_mod_left 4 cs.length).trans h.groups
  · exact h.padded
  · rw [List.map_append, map_digit, h.chars, List.map_append, List.append_assoc]
  · have hFront : (sextets 4 n).flatMap (bits 6) = bits 24 n := flatMap_sextets 4 n
    rw [List.flatMap_append, hFront, hBits, h.same_bits, List.flatMap_append, List.append_assoc]

theorem exists_holds (bs : Bytes) : ∃ values padding, Holds (encodeChars bs) values padding bs := by
  fun_induction encodeChars bs with
  | case1 => exact ⟨[], 0, .nil⟩
  | case2 a n =>
    -- The first of the numbers is not reduced by the writer, because it is small enough as it is.
    have hSextets : [n / 64, n % 64] = sextets 2 n := by
      have := a.toNat_lt
      have hHigh : n / 64 % 64 = n / 64 := by omega
      rw [sextets, sextets, sextets, hHigh]
      rfl
    have hBits : bits 12 n = bits 8 a.toNat ++ bits 4 0 := by
      rw [← bits_append 8 4 a.toNat (by decide)]
      rfl
    refine ⟨sextets 2 n, 2, Nat.mod_self 4, by decide, ?_, ?_⟩
    · rw [← map_digit, ← hSextets]
      rfl
    · exact (flatMap_sextets 2 n).trans hBits
  | case3 a b n =>
    have hSextets : [n / 4096, n / 64 % 64, n % 64] = sextets 3 n := by
      have := a.toNat_lt
      have := b.toNat_lt
      have hHigh : n / 64 / 64 % 64 = n / 4096 := by omega
      rw [sextets, sextets, sextets, sextets, hHigh]
      rfl
    have hBits : bits 18 n = (bits 8 a.toNat ++ bits 8 b.toNat) ++ bits 2 0 := by
      rw [← bits_byte 8, ← bits_append 16 2 _ (by decide)]
      rfl
    refine ⟨sextets 3 n, 1, Nat.mod_self 4, by decide, ?_, ?_⟩
    · rw [← map_digit, ← hSextets]
      rfl
    · exact (flatMap_sextets 3 n).trans hBits
  | case4 a b c rest n ih =>
    obtain ⟨later, padding, hRest⟩ := ih
    have hSextets : [n / 262144, n / 4096 % 64, n / 64 % 64, n % 64] = sextets 4 n := by
      have := a.toNat_lt
      have := b.toNat_lt
      have := c.toNat_lt
      have hHigh : n / 64 / 64 / 64 % 64 = n / 262144 := by omega
      have hNext : n / 64 / 64 % 64 = n / 4096 % 64 := by omega
      rw [sextets, sextets, sextets, sextets, sextets, hHigh, hNext]
      rfl
    have hBits : bits 24 n = bits 8 a.toNat ++ (bits 8 b.toNat ++ bits 8 c.toNat) := by
      rw [← List.append_assoc, ← bits_byte 8, ← bits_byte 16]
    have hGroup := hRest.group [a, b, c] hBits
    rw [← hSextets] at hGroup
    exact ⟨_, padding, hGroup⟩

section

variable {w x y z : Nat}

theorem decodeChars?_byte (hw : w < 64) (hx : x < 64) {b : UInt8} (h : w * 64 + x = b.toNat * 16) :
    decodeChars? [digit w, digit x, '=', '='] = some [b] := by
  have hByte : b.toNat * 16 / 16 = b.toNat := by omega
  rw [decodeChars?, value?_digit w hw, value?_digit x hx]
  simp only [Option.bind_eq_bind, Option.bind_some, h, Nat.mul_mod_left, if_true, hByte,
    UInt8.ofNat_toNat]

theorem decodeChars?_bytes (hw : w < 64) (hx : x < 64) (hy : y < 64) {a b : UInt8}
    (h : (w * 64 + x) * 64 + y = (a.toNat * 256 + b.toNat) * 4) :
    decodeChars? [digit w, digit x, digit y, '='] = some [a, b] := by
  have := b.toNat_lt
  have hFirst : (a.toNat * 256 + b.toNat) * 4 / 1024 = a.toNat := by omega
  have hSecond : (a.toNat * 256 + b.toNat) * 4 / 4 % 256 = b.toNat := by omega
  rw [decodeChars?.eq_3 _ _ _ (digit_ne_padding y hy), value?_digit w hw, value?_digit x hx,
    value?_digit y hy]
  simp only [Option.bind_eq_bind, Option.bind_some, h, Nat.mul_mod_left, if_true, hFirst, hSecond,
    UInt8.ofNat_toNat]

theorem decodeChars?_group (hw : w < 64) (hx : x < 64) (hy : y < 64) (hz : z < 64) {a b c : UInt8}
    (h : ((w * 64 + x) * 64 + y) * 64 + z = (a.toNat * 256 + b.toNat) * 256 + c.toNat)
    {rest : List Char} {bs : Bytes} (hRest : decodeChars? rest = some bs) :
    decodeChars? (digit w :: digit x :: digit y :: digit z :: rest) = some (a :: b :: c :: bs) := by
  have := b.toNat_lt
  have := c.toNat_lt
  have hFirst : ((a.toNat * 256 + b.toNat) * 256 + c.toNat) / 65536 = a.toNat := by omega
  have hSecond : ((a.toNat * 256 + b.toNat) * 256 + c.toNat) / 256 % 256 = b.toNat := by omega
  have hThird : ((a.toNat * 256 + b.toNat) * 256 + c.toNat) % 256 = c.toNat := by omega
  have hLast := digit_ne_padding z hz
  rw [decodeChars?.eq_4 _ _ _ _ _ (fun _ hPad => absurd hPad hLast) (fun hPad => absurd hPad hLast),
    value?_digit w hw, value?_digit x hx, value?_digit y hy, value?_digit z hz, hRest]
  simp only [Option.bind_eq_bind, Option.bind_some, h, hFirst, hSecond, hThird, UInt8.ofNat_toNat]

end

theorem decodeChars?_encodeChars (bs : Bytes) : decodeChars? (encodeChars bs) = some bs := by
  fun_induction encodeChars bs with
  | case1 => rfl
  | case2 a n =>
    have := a.toNat_lt
    apply decodeChars?_byte <;> omega
  | case3 a b n =>
    have := a.toNat_lt
    have := b.toNat_lt
    apply decodeChars?_bytes <;> omega
  | case4 a b c rest n ih =>
    have := a.toNat_lt
    have := b.toNat_lt
    have := c.toNat_lt
    refine decodeChars?_group ?_ ?_ ?_ ?_ ?_ ih <;> omega

theorem spells_encode (bs : Bytes) : Spells (encode bs) bs := by
  rw [Spells, encode, String.toList_ofList]
  exact exists_holds bs

theorem decode?_encode (bs : Bytes) : decode? (encode bs) = some bs := by
  rw [decode?, encode, String.toList_ofList]
  exact decodeChars?_encodeChars bs

end Redfish.Base64
