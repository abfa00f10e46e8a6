import Redfish.Proofs.Call
import Redfish.Proofs.Json.Numeral
import Redfish.Url.Ipv4

/-!
# IPv4 addresses are read back

Whatever notation an address was read from, it is below 2 to the 32nd, and its usual form of four decimal
numbers is read as the same address.
-/

namespace Redfish.Url

theorem number?_digitChar {d : Nat} (h : d < 16) :
    Hex.number? (Bytes.ofText (Nat.digitChar d).toString) = some d := by
  have hAll : ∀ d : Fin 16, Hex.number? (Bytes.ofText (Nat.digitChar d).toString) = some d.val := by
    decide +kernel
  exact hAll ⟨d, h⟩

theorem exists_digitChar {c : Char} (h : c.isDigit = true) : ∃ d : Fin 10, c = Nat.digitChar d := by
  obtain ⟨hLow, hHigh⟩ : 48 ≤ c.toNat ∧ c.toNat ≤ 57 := Char.isDigit_iff_toNat.mp h
  refine ⟨⟨c.toNat - 48, by omega⟩, Char.toNat_inj.mp ?_⟩
  change c.toNat = (Nat.digitChar (c.toNat - 48)).toNat
  rw [Nat.toNat_digitChar_of_lt_ten (by omega)]
  omega

namespace Ipv4

def addDigit? (base n : Nat) (c : Char) : Option Nat :=
  match Hex.number? (Bytes.ofText c.toString) with
  | some d => if d < base then some (base * n + d) else none
  | none => none

theorem digits?_eq (base : Nat) (cs : List Char) : digits? base cs = cs.foldlM (addDigit? base) 0 := rfl

theorem addDigit?_digitChar {base d : Nat} (hBase : base ≤ 16) (hd : d < base) (n : Nat) :
    addDigit? base n (Nat.digitChar d) = some (base * n + d) := by
  unfold addDigit?
  rw [number?_digitChar (Nat.lt_of_lt_of_le hd hBase)]
  exact if_pos hd

theorem digits?_toDigits {base : Nat} (hLow : 1 < base) (hHigh : base ≤ 16) (n : Nat) :
    digits? base (Nat.toDigits base n) = some n := by
  induction n using Nat.strongRecOn with
  | ind n ih =>
    by_cases hn : n < base
    · rw [Nat.toDigits_of_lt_base hn, digits?_eq, List.foldlM_cons, addDigit?_digitChar hHigh hn,
        Nat.mul_zero, Nat.zero_add]
      rfl
    · have hLess : n / base < n := Nat.div_lt_self (by omega) hLow
      have hLast : n % base < base := Nat.mod_lt n (by omega)
      rw [Nat.toDigits_of_base_le hLow (Nat.le_of_not_lt hn), digits?_eq, List.foldlM_append,
        ← digits?_eq, ih _ hLess]
      change List.foldlM (addDigit? base) (n / base) [Nat.digitChar (n % base)] = _
      rw [List.foldlM_cons, addDigit?_digitChar hHigh hLast, Nat.div_add_mod]
      rfl

theorem number?_of_ne_zero {c : Char} (h : c ≠ '0') (cs : List Char) :
    number? (c :: cs) = digits? 10 (c :: cs) := by
  unfold number?
  split <;> simp_all

theorem number?_toDigits (n : Nat) : number? (Nat.toDigits 10 n) = some n := by
  rcases Nat.eq_zero_or_pos n with rfl | hPos
  · decide +kernel
  · have hHead := Json.Numeral.head?_toDigits hPos
    have hRead : digits? 10 (Nat.toDigits 10 n) = some n := digits?_toDigits (by decide) (by decide) n
    cases hDigits : Nat.toDigits 10 n with
    | nil => exact absurd hDigits Nat.toDigits_ne_nil
    | cons c cs =>
      rw [hDigits] at hHead hRead
      rw [number?_of_ne_zero (fun hc => hHead (congrArg some hc)), hRead]

def octets (a : Nat) : List Nat := [a / 16777216, a / 65536 % 256, a / 256 % 256, a % 256]

theorem toList_text (a : Nat) :
    (text a).toList = ['.'].intercalate ((octets a).map (Nat.toDigits 10)) := by
  unfold text octets
  rw [String.toList_intercalate]
  simp only [List.map_cons, List.map_nil, Nat.toString_eq_ofList_toDigits, String.toList_ofList]
  rfl

theorem splitOn_text (a : Nat) :
    (text a).toList.splitOn '.' = (octets a).map (Nat.toDigits 10) := by
  rw [toList_text]
  refine List.splitOn_intercalate '.' ?_ (List.cons_ne_nil _ _)
  intro ds hds hDot
  obtain ⟨n, _, rfl⟩ := List.mem_map.mp hds
  exact absurd (Nat.isDigit_of_mem_toDigits (by decide) (by decide) hDot) (by decide)

theorem of_mem_text {a : Nat} {c : Char} (h : c ∈ (text a).toList) : c = '.' ∨ c.isDigit = true := by
  rw [toList_text] at h
  refine (of_mem_intercalate h).imp_right ?_
  rintro ⟨ds, hds, hc⟩
  obtain ⟨n, _, rfl⟩ := List.mem_map.mp hds
  exact Nat.isDigit_of_mem_toDigits (by decide) (by decide) hc

theorem parts_text (a : Nat) : parts (text a).toList = (octets a).map (Nat.toDigits 10) := by
  unfold parts
  rw [splitOn_text]
  exact if_neg fun h => Nat.toDigits_ne_nil (Option.some.inj h)

theorem isDigit_eq (c : Char) : isDigit c = c.isDigit := by
  unfold isDigit Char.isDigit
  rfl

theorem endsInNumber_text (a : Nat) : endsInNumber (text a).toList = true := by
  have hLast : (parts (text a).toList).getLast? = some (Nat.toDigits 10 (a % 256)) := by
    rw [parts_text]
    rfl
  have hDigits : (Nat.toDigits 10 (a % 256)).all isDigit = true := by
    rw [List.all_eq_true]
    intro c hc
    rw [isDigit_eq]
    exact Nat.isDigit_of_mem_toDigits (by decide) (by decide) hc
  unfold endsInNumber
  rw [hLast]
  simp [hDigits]

/-- Numbers that make up an address: all but the last are octets, and the last fills what they leave. -/
structure Fit (ns : List Nat) : Prop where
  length_le : ns.length ≤ 4
  octet : ∀ n ∈ ns.dropLast, n ≤ 255
  last_lt : ns.getLast?.getD 0 < 256 ^ (4 - ns.dropLast.length)

def address (ns : List Nat) : Nat :=
  (ns.dropLast ++ List.replicate (4 - ns.dropLast.length) 0).foldl (256 * · + ·) 0 + ns.getLast?.getD 0

theorem parse_eq_ok_iff {cs : List Char} {a : Nat} :
    parse cs = .ok a ↔ ∃ ns, (parts cs).mapM number? = some ns ∧ Fit ns ∧ address ns = a := by
  unfold parse
  dsimp only
  cases hNumbers : (parts cs).mapM number? with
  | none => simp
  | some ns =>
    have hLength : (parts cs).length = ns.length := (forall₂_of_mapM hNumbers).length_eq
    have hFit : Fit ns ↔ ¬4 < (parts cs).length ∧
        ¬(ns.dropLast.any (255 < ·) ||
          decide (Nat.pow 256 (4 - ns.dropLast.length) ≤ ns.getLast?.getD 0)) = true := by
      rw [hLength, Bool.or_eq_true, not_or, List.any_eq_true, decide_eq_true_eq]
      constructor
      · rintro ⟨hCount, hOctets, hLast⟩
        refine ⟨Nat.not_lt.mpr hCount, ?_, Nat.not_le.mpr hLast⟩
        rintro ⟨n, hn, hLarge⟩
        exact Nat.not_lt.mpr (hOctets n hn) (of_decide_eq_true hLarge)
      · rintro ⟨hCount, hOctets, hLast⟩
        refine ⟨Nat.not_lt.mp hCount, ?_, Nat.not_le.mp hLast⟩
        intro n hn
        exact Nat.not_lt.mp fun hLarge => hOctets ⟨n, hn, decide_eq_true hLarge⟩
    dsimp only
    constructor
    · intro h
      split at h
      · cases h
      · split at h
        · cases h
        · exact ⟨ns, rfl, hFit.mpr ⟨‹_›, ‹_›⟩, Except.ok.inj h⟩
    · rintro ⟨_, ⟨⟩, hNumbersFit, rfl⟩
      obtain ⟨hCount, hBounds⟩ := hFit.mp hNumbersFit
      rw [if_neg hCount, if_neg hBounds]
      rfl

theorem foldl_octets_lt {ns : List Nat} (h : ∀ n ∈ ns, n ≤ 255) (a : Nat) :
    ns.foldl (256 * · + ·) a < 256 ^ ns.length * (a + 1) := by
  induction ns generalizing a with
  | nil => simp
  | cons n ns ih =>
    obtain ⟨hn, hns⟩ := List.forall_mem_cons.mp h
    have hStep : 256 * a + n + 1 ≤ 256 * (a + 1) := by omega
    calc (n :: ns).foldl (256 * · + ·) a
      _ < 256 ^ ns.length * (256 * a + n + 1) := ih hns _
      _ ≤ 256 ^ ns.length * (256 * (a + 1)) := Nat.mul_le_mul_left _ hStep
      _ = 256 ^ (n :: ns).length * (a + 1) := by rw [List.length_cons, Nat.pow_succ, Nat.mul_assoc]

theorem foldl_zeros (k a : Nat) : (List.replicate k 0).foldl (256 * · + ·) a = 256 ^ k * a := by
  induction k generalizing a with
  | zero => simp
  | succ k ih => rw [List.replicate_succ, List.foldl_cons, ih, Nat.pow_succ, Nat.add_zero, Nat.mul_assoc]

theorem Fit.address_lt {ns : List Nat} (h : Fit ns) : address ns < 2 ^ 32 := by
  have hLeading := foldl_octets_lt h.octet 0
  have hCount : ns.dropLast.length ≤ 4 := by
    rw [List.length_dropLast]
    have := h.length_le
    omega
  unfold address
  rw [List.foldl_append, foldl_zeros]
  calc 256 ^ (4 - ns.dropLast.length) * ns.dropLast.foldl (256 * · + ·) 0 + ns.getLast?.getD 0
    _ < 256 ^ (4 - ns.dropLast.length) * (ns.dropLast.foldl (256 * · + ·) 0 + 1) := by
      rw [Nat.mul_succ]
      exact Nat.add_lt_add_left h.last_lt _
    _ ≤ 256 ^ (4 - ns.dropLast.length) * 256 ^ ns.dropLast.length := by
      rw [Nat.zero_add, Nat.mul_one] at hLeading
      exact Nat.mul_le_mul_left _ hLeading
    _ = 2 ^ 32 := by
      rw [← Nat.pow_add, Nat.sub_add_cancel hCount]
      rfl

theorem lt_of_parse {cs : List Char} {a : Nat} (h : parse cs = .ok a) : a < 2 ^ 32 := by
  obtain ⟨ns, _, hFit, rfl⟩ := parse_eq_ok_iff.mp h
  exact hFit.address_lt

theorem parse_text {a : Nat} (h : a < 2 ^ 32) : parse (text a).toList = .ok a := by
  refine parse_eq_ok_iff.mpr ⟨octets a, ?_, ?_, ?_⟩
  · rw [parts_text, mapM_map fun n _ => number?_toDigits n, List.map_id']
  · refine ⟨Nat.le_refl 4, ?_, ?_⟩
    · simp [octets]
      omega
    · change a % 256 < 256
      omega
  · change 256 * (256 * (256 * (256 * 0 + a / 16777216) + a / 65536 % 256) + a / 256 % 256) + 0 + a % 256 = a
    omega

end Ipv4

end Redfish.Url
