import Redfish.Proofs.Json.Arrangement

/-!
# Places of enumerations

A value of a record type holds values of enumerations in some of its members, or in members of its
members. The name at such a place can be exchanged for any other text: what is then decoded differs
there and nowhere else.
-/

namespace Redfish.Json

/-- A record that is no more than what its members hold. -/
class LawfulRecord (α : Type) [Record α] : Prop where
  independent : Record.Independent (Record.members (α := α))
  ext (a b : α) : (∀ m ∈ Record.members (α := α), m.get a = m.get b) → a = b

@[reducible] def Enumeration.optionCodec (ε : Type) [DecidableEq ε] [Enumeration ε] : Codec (Option ε) :=
  @Codec.instOption ε Enumeration.codec

/-- Where a value of an enumeration stands in the values of a form: the value is it, or it stands in a
member of the record that the value is. -/
inductive Place : {β : Type} → Codec β → Type 1
  | here {ε : Type} [DecidableEq ε] [Enumeration ε] : Place (Enumeration.optionCodec ε)
  | within {β : Type} [Record β] [LawfulRecord β] (m : Member β) (hm : m ∈ Record.members (α := β))
      (p : Place m.codec) : Place (Record.codec (α := β))

namespace Place

def put (name : String) : {β : Type} → {c : Codec β} → Place c → β → β
  | _, _, here, _ => some (Enumeration.ofName name)
  | _, _, within m _ p, b => m.set (put name p (m.get b)) b

/-- The two outlines differ in the text at the place, which in the second one is the name. Around it a
record may be written as an object or as an array. -/
inductive Renamed (name : String) : {β : Type} → {c : Codec β} → Place c → Outline → Outline → Prop
  | here {ε : Type} [DecidableEq ε] [Enumeration ε] {t t' : Text} {old : String}
      (hOld : t.content = .ok old) (hNew : t'.content = .ok name) :
      Renamed name (here (ε := ε)) (.text t) (.text t')
  | member {β : Type} [Record β] [LawfulRecord β] {m : Member β} {hm : m ∈ Record.members (α := β)}
      {p : Place m.codec} {before after : List (Text × Outline)} {t : Text} {x x' : Outline}
      {close : Close} (hName : t.content = .ok m.name) (h : Renamed name p x x') :
      Renamed name (within m hm p) (.object (before ++ (t, x) :: after) close)
        (.object (before ++ (t, x') :: after) close)
  | item {β : Type} [Record β] [LawfulRecord β] {m : Member β} {hm : m ∈ Record.members (α := β)}
      {p : Place m.codec} {before after : List Outline} {x x' : Outline} {flaw : Option Fault}
      (hPlace : (Record.members (α := β))[before.length]? = some m) (h : Renamed name p x x') :
      Renamed name (within m hm p) (.array (before ++ x :: after) flaw)
        (.array (before ++ x' :: after) flaw)

end Place

namespace Record

variable {levels : Nat} {known : List (Member α)}

theorem Independent.tail {m : Member α} (h : Independent (m :: known)) : Independent known where
  nodup := (List.nodup_cons.mp h.nodup).2
  get_set k hk := h.get_set k (List.mem_cons_of_mem _ hk)
  get_set_of_ne k hk l hl := h.get_set_of_ne k (List.mem_cons_of_mem _ hk) l (List.mem_cons_of_mem _ hl)

theorem Independent.name_ne_of_mem {m : Member α} (h : Independent (m :: known)) {k : Member α}
    (hk : k ∈ known) : k.name ≠ m.name := by
  intro hName
  exact (List.nodup_cons.mp h.nodup).1 (List.mem_map.mpr ⟨k, hk, hName⟩)

theorem get_absorbItems (hKnown : Independent known) {a b : α} {os : List Outline}
    (h : absorbItems levels known a os = .ok b) {i : Nat} {m : Member α} (hm : known[i]? = some m) :
    match os[i]? with
    | some o => m.codec.decode levels o = .ok (m.get b)
    | none => m.get b = m.get a := by
  induction known generalizing a os i with
  | nil => cases hm
  | cons k known ih =>
    cases os with
    | nil =>
      cases h
      rfl
    | cons o os =>
      obtain ⟨a', hAssign, hItems⟩ := bind_eq_ok_iff.mp h
      obtain ⟨v, hValue, rfl⟩ := map_eq_ok_iff.mp hAssign
      cases i with
      | zero =>
        obtain rfl := Option.some.inj hm
        -- The members after this one leave alone what it holds.
        have hKept : k.get b = v := by
          refine absorbItems_preserves (P := fun c => k.get c = v) ?_ hItems
            (hKnown.get_set k List.mem_cons_self v a)
          intro l hl w c hc
          rw [hKnown.get_set_of_ne k List.mem_cons_self l (List.mem_cons_of_mem _ hl)
            (hKnown.name_ne_of_mem hl).symm]
          exact hc
        simpa [hKept] using hValue
      | succ i =>
        rw [List.getElem?_cons_succ] at hm ⊢
        have hRest := ih hKnown.tail hItems hm
        cases hFound : os[i]? with
        | some x => simpa [hFound] using hRest
        | none =>
          rw [hFound] at hRest
          have hMem := List.mem_of_getElem? hm
          exact hRest.trans (hKnown.get_set_of_ne m (List.mem_cons_of_mem _ hMem) k List.mem_cons_self
            (hKnown.name_ne_of_mem hMem) v a)

theorem exists_absorbItems {a b : α} {os : List Outline} (h : absorbItems levels known a os = .ok b)
    (a' : α) : ∃ b', absorbItems levels known a' os = .ok b' := by
  induction known generalizing a a' os with
  | nil =>
    cases os with
    | nil => exact ⟨a', rfl⟩
    | cons => cases h
  | cons m known ih =>
    cases os with
    | nil => exact ⟨a', rfl⟩
    | cons o os =>
      obtain ⟨_, hAssign, hItems⟩ := bind_eq_ok_iff.mp h
      obtain ⟨v, hValue, _⟩ := map_eq_ok_iff.mp hAssign
      obtain ⟨b', hb'⟩ := ih hItems (m.set v a')
      exact ⟨b', bind_eq_ok_iff.mpr ⟨_, map_eq_ok_iff.mpr ⟨v, hValue, rfl⟩, hb'⟩⟩

variable {before after : List Outline} {x x' : Outline}

theorem exists_absorbItems_replace {a b : α}
    (h : absorbItems levels known a (before ++ x :: after) = .ok b) {m : Member α}
    (hm : known[before.length]? = some m) {v : m.Content} (hValue : m.codec.decode levels x' = .ok v)
    (a' : α) : ∃ b', absorbItems levels known a' (before ++ x' :: after) = .ok b' := by
  induction before generalizing known a a' with
  | nil =>
    cases known with
    | nil => cases hm
    | cons k known =>
      obtain rfl := Option.some.inj hm
      obtain ⟨_, _, hItems⟩ := bind_eq_ok_iff.mp h
      obtain ⟨b', hb'⟩ := exists_absorbItems hItems (k.set v a')
      exact ⟨b', bind_eq_ok_iff.mpr ⟨_, map_eq_ok_iff.mpr ⟨v, hValue, rfl⟩, hb'⟩⟩
  | cons o before ih =>
    cases known with
    | nil => cases hm
    | cons k known =>
      obtain ⟨_, hAssign, hItems⟩ := bind_eq_ok_iff.mp h
      obtain ⟨w, hFirst, _⟩ := map_eq_ok_iff.mp hAssign
      obtain ⟨b', hb'⟩ := ih hItems hm (k.set w a')
      exact ⟨b', bind_eq_ok_iff.mpr ⟨_, map_eq_ok_iff.mpr ⟨w, hFirst, rfl⟩, hb'⟩⟩

theorem absorbItems_replace (hKnown : Independent known) {a b : α}
    (h : absorbItems levels known a (before ++ x :: after) = .ok b) {m : Member α}
    (hm : known[before.length]? = some m) {v : m.Content} (hValue : m.codec.decode levels x' = .ok v) :
    ∃ b', absorbItems levels known a (before ++ x' :: after) = .ok b' ∧ m.get b' = v ∧
      ∀ k ∈ known, k.name ≠ m.name → k.get b' = k.get b := by
  obtain ⟨b', hb'⟩ := exists_absorbItems_replace h hm hValue a
  refine ⟨b', hb', ?_, ?_⟩
  · have hGet := get_absorbItems hKnown hb' hm
    rw [List.getElem?_append_right (Nat.le_refl _), Nat.sub_self] at hGet
    exact Except.ok.inj (hGet.symm.trans hValue)
  · intro k hk hNe
    obtain ⟨i, hi⟩ := List.mem_iff_getElem?.mp hk
    have hIndex : i ≠ before.length := by
      rintro rfl
      exact hNe (congrArg Member.name (Option.some.inj (hi.symm.trans hm)))
    have hSet : (before ++ x :: after).set before.length x' = before ++ x' :: after := by
      rw [List.set_append_right _ _ (Nat.le_refl _), Nat.sub_self, List.set_cons_zero]
    have hOld := get_absorbItems hKnown h hi
    have hNew := get_absorbItems hKnown hb' hi
    rw [← hSet, List.getElem?_set_ne hIndex.symm] at hNew
    cases hFound : (before ++ x :: after)[i]? with
    | none =>
      rw [hFound] at hOld hNew
      exact hNew.trans hOld.symm
    | some o =>
      rw [hFound] at hOld hNew
      exact Except.ok.inj (hNew.symm.trans hOld)

theorem decode_array_iff [Record α] {os : List Outline} {flaw : Option Fault} {a : α} :
    decode levels (.array os flaw) = .ok a ↔ ∃ inner, deeper levels = .ok inner ∧
      absorbItems inner members blank os = .ok a ∧ refuse flaw = .ok () := by
  constructor
  · intro h
    obtain ⟨inner, hInner, h⟩ := bind_eq_ok_iff.mp h
    obtain ⟨b, hItems, h⟩ := bind_eq_ok_iff.mp h
    obtain ⟨⟨⟩, hFlaw, h⟩ := bind_eq_ok_iff.mp h
    cases h
    exact ⟨inner, hInner, hItems, hFlaw⟩
  · rintro ⟨inner, hInner, hItems, hFlaw⟩
    refine bind_eq_ok_iff.mpr ⟨inner, hInner, bind_eq_ok_iff.mpr ⟨a, hItems, ?_⟩⟩
    exact bind_eq_ok_iff.mpr ⟨(), hFlaw, rfl⟩

theorem eq_set [Record α] [LawfulRecord α] {m : Member α} (hm : m ∈ members (α := α)) {a b : α}
    {v : m.Content} (hSelf : m.get b = v)
    (hOther : ∀ k ∈ members (α := α), k.name ≠ m.name → k.get b = k.get a) : b = m.set v a := by
  have hKnown := LawfulRecord.independent (α := α)
  refine LawfulRecord.ext b _ ?_
  intro k hk
  by_cases hName : k.name = m.name
  · obtain rfl := eq_of_name_eq hKnown.nodup hk hm hName
    rw [hSelf, hKnown.get_set k hk]
  · rw [hOther k hk hName, hKnown.get_set_of_ne k hk m hm hName]

end Record

theorem Place.Renamed.decode_eq {name : String} {β : Type} {c : Codec β} {p : Place c} {o o' : Outline}
    (h : p.Renamed name o o') {levels : Nat} {b : β} (hDecode : c.decode levels o = .ok b) :
    c.decode levels o' = .ok (p.put name b) := by
  induction h generalizing levels with
  | here hOld hNew =>
    refine map_eq_ok_iff.mpr ⟨_, map_eq_ok_iff.mpr ⟨name, hNew, rfl⟩, rfl⟩
  | @member β _ _ m hm p before after t x x' close hName h ih =>
    obtain ⟨inner, hInner, hAbsorb, hClose⟩ := Record.decode_object_iff.mp hDecode
    have hKnown := LawfulRecord.independent (α := β)
    have hOld := Record.decode_of_mem hKnown hAbsorb hm List.mem_append_cons_self hName
    obtain ⟨b', hb', hSelf, hOther⟩ := Record.absorb_replace hKnown hAbsorb hm hName (ih hOld)
    obtain rfl := Record.eq_set hm hSelf hOther
    exact Record.decode_object_iff.mpr ⟨inner, hInner, hb', hClose⟩
  | @item β _ _ m hm p before after x x' flaw hPlace h ih =>
    obtain ⟨inner, hInner, hItems, hFlaw⟩ := Record.decode_array_iff.mp hDecode
    have hKnown := LawfulRecord.independent (α := β)
    have hOld := Record.get_absorbItems hKnown hItems hPlace
    rw [List.getElem?_append_right (Nat.le_refl _), Nat.sub_self] at hOld
    obtain ⟨b', hb', hSelf, hOther⟩ := Record.absorbItems_replace hKnown hItems hPlace (ih hOld)
    obtain rfl := Record.eq_set hm hSelf hOther
    exact Record.decode_array_iff.mpr ⟨inner, hInner, hb', hFlaw⟩

end Redfish.Json
