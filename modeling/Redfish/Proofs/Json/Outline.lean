import Redfish.Json.Codec
import Redfish.Proofs.Call

/-!
# Values and their outlines

A value has an outline without flaws, in which every number stands for itself. What a codec encodes it
also decodes from there, with three provisos: `null` is not the form of anything present, lists need a
level of nesting, and a real has to be finite. The reader of a text rounds some reals, so the outline of
the text of a value is this one only where the numbers are read back.
-/

namespace Redfish.Json

def Text.plain (s : String) : Text := ⟨.ok s, none⟩

mutual

/-- The outline of a value in which every number is exactly the one that was meant. -/
def Value.exactOutline : Value → Outline
  | .null => .word .null none
  | .bool true => .word .yes none
  | .bool false => .word .no none
  | .number n => .number ⟨.ok n, none⟩
  | .text s => .text (.plain s)
  | .array vs => .array (itemOutlines vs) none
  | .object ms => .object (memberOutlines ms) .closed

def itemOutlines : List Value → List Outline
  | [] => []
  | v :: vs => v.exactOutline :: itemOutlines vs

def memberOutlines : List (String × Value) → List (Text × Outline)
  | [] => []
  | (n, v) :: ms => (.plain n, v.exactOutline) :: memberOutlines ms

end

def Value.IsObject : Value → Prop
  | .object _ => True
  | _ => False

def Outline.IsObject : Outline → Prop
  | .object _ _ => True
  | _ => False

theorem Decoder.decode_of_run {d : Decoder α} {bs : Bytes} {a : α} (h : d.run bs = .ok a) :
    d Decoder.levels (Outline.read bs).1 = .ok a := by
  obtain ⟨b, hb, h⟩ := bind_eq_ok_iff.mp h
  split at h
  · split at h
    · cases h
      exact hb
    · cases h
  · cases h

namespace Codec

/-- What is encoded for `a` is decoded as `a` where numbers are taken exactly. -/
def RoundTrips [Codec α] (levels : Nat) (a : α) : Prop := decode levels (encode a).exactOutline = .ok a

theorem roundTrips_bool (levels : Nat) (b : Bool) : RoundTrips levels b := by
  cases b <;> rfl

theorem roundTrips_text (levels : Nat) (s : String) : RoundTrips levels s := rfl

theorem roundTrips_float {levels : Nat} {x : Float} (h : x.isFinite = true) : RoundTrips levels x := by
  change Decoder.real levels (if x.isFinite then Value.number (.real x) else .null).exactOutline = .ok x
  rw [if_pos h]
  rfl

section

variable [Codec α] {levels : Nat}

theorem roundTrips_none : RoundTrips levels (none : Option α) := rfl

theorem roundTrips_some {a : α} (hNull : (encode a : Value) ≠ .null) (h : RoundTrips levels a) :
    RoundTrips levels (some a) := by
  unfold RoundTrips at h
  change Decoder.optional decode levels (encode a).exactOutline = .ok (some a)
  cases hv : (encode a : Value) with
  | null => exact absurd hv hNull
  | bool b =>
    rw [hv] at h
    cases b <;> exact map_eq_ok_iff.mpr ⟨a, h, rfl⟩
  | number n | text s | array vs | object ms =>
    rw [hv] at h
    exact map_eq_ok_iff.mpr ⟨a, h, rfl⟩

theorem items_encode {as : List α} (h : ∀ a ∈ as, RoundTrips levels a) :
    Decoder.items decode levels (itemOutlines (as.map encode)) = .ok as := by
  induction as with
  | nil => rfl
  | cons a as ih =>
    refine bind_eq_ok_iff.mpr ⟨a, h a List.mem_cons_self, ?_⟩
    exact bind_eq_ok_iff.mpr ⟨as, ih fun b hb => h b (List.mem_cons_of_mem _ hb), rfl⟩

theorem roundTrips_list {as : List α} (hLevels : 1 < levels)
    (h : ∀ a ∈ as, RoundTrips (levels - 1) a) : RoundTrips levels as := by
  refine bind_eq_ok_iff.mpr ⟨levels - 1, if_neg (by omega), ?_⟩
  exact bind_eq_ok_iff.mpr ⟨as, items_encode h, rfl⟩

end

end Codec

class LawfulEnumeration (α : Type) [DecidableEq α] [Enumeration α] : Prop where
  ofName_name (a : α) : Enumeration.ofName (Enumeration.name a) = a

section

variable [DecidableEq α] [Enumeration α] [LawfulEnumeration α]

attribute [local instance] Enumeration.codec

theorem roundTrips_enumeration (levels : Nat) (a : α) : Codec.RoundTrips levels a :=
  congrArg Except.ok (LawfulEnumeration.ofName_name a)

theorem name_injective {a b : α} (h : Enumeration.name a = Enumeration.name b) : a = b := by
  rw [← LawfulEnumeration.ofName_name a, ← LawfulEnumeration.ofName_name b, h]

end

theorem real_beq_self {x : Float} (h : x.isFinite = true) : (x == x) = true := by
  change x.toModel.unpack.beq x.toModel.unpack = true
  change x.toModel.unpack.isFinite = true at h
  cases hUnpacked : x.toModel.unpack with
  | notANumber =>
    rw [hUnpacked] at h
    cases h
  | infinity s =>
    rw [hUnpacked] at h
    cases h
  | zero s => rfl
  | finite s m e hPos =>
    have hSelf : (compare e e).then (compare m m) = .eq := by
      rw [Std.ReflOrd.compare_self, Std.ReflOrd.compare_self]
      rfl
    cases s with
    | positive => exact congrArg (fun o => some o == some Ordering.eq) hSelf
    | negative => exact congrArg (fun o => some (Ordering.swap o) == some Ordering.eq) hSelf

theorem itemsBeq_self {vs : List Value} (h : ∀ v ∈ vs, (v == v) = true) : itemsBeq vs vs = true := by
  induction vs with
  | nil => rfl
  | cons v vs ih =>
    obtain ⟨hFirst, hRest⟩ := List.forall_mem_cons.mp h
    exact Bool.and_eq_true_iff.mpr ⟨hFirst, ih hRest⟩

theorem membersBeq_self {ms : List (String × Value)} (h : ∀ m ∈ ms, (m.2 == m.2) = true) :
    membersBeq ms ms = true := by
  induction ms with
  | nil => rfl
  | cons m ms ih =>
    obtain ⟨hFirst, hRest⟩ := List.forall_mem_cons.mp h
    have hMember := Bool.and_eq_true_iff.mpr ⟨beq_self_eq_true m.1, hFirst⟩
    exact Bool.and_eq_true_iff.mpr ⟨hMember, ih hRest⟩

end Redfish.Json
