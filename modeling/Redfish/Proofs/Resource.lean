import Redfish.Proofs.Json.Place
import Redfish.Resource

/-!
# What a document says of a resource

A resource is what its members hold and its identity, and each of these is read from the members of the
document that have its name. So the order of the document and what else stands in it say nothing, and
another name in place of one of an enumeration is the only thing that is read differently.
-/

namespace Redfish

open Json

/-- The identity of a resource is what was put in for it. -/
class LawfulResource (α : Type) [Resource α] : Prop where
  entity_withEntity (e : Entity) (a : α) : Resource.entity (Resource.withEntity e a) = e

/-- A resource that is no more than its members and its identity, which have no names in common. -/
class ExtensionalResource (α : Type) [Resource α] : Prop extends LawfulResource α where
  independent : Record.Independent (Record.members (α := α))
  get_withEntity : ∀ m ∈ Record.members (α := α), ∀ e a, m.get (Resource.withEntity e a) = m.get a
  entity_set : ∀ m ∈ Record.members (α := α), ∀ v a, Resource.entity (m.set v a) = Resource.entity a
  outside_identity : ∀ m ∈ Record.members (α := α),
    (Record.members (α := Entity)).find? (·.name == m.name) = none
  ext (a b : α) : (∀ m ∈ Record.members (α := α), m.get a = m.get b) →
    Resource.entity a = Resource.entity b → a = b

namespace Entity

theorem independent : Record.Independent (Record.members (α := Entity)) := by
  apply Record.independent_of_pairwise
  · decide
  · simp [Record.members, Member.always, Member.optional]
  · simp [Record.members, Member.always, Member.optional]

/-- The entity has neither the client nor the bytes of a fetch. -/
structure Unfetched (e : Entity) : Prop where
  detached : e.isAttached = false
  raw : e.raw = []

/-- No member of a document is the client or the bytes of a fetch. -/
theorem unfetched_set : ∀ m ∈ Record.members (α := Entity), ∀ v (e : Entity),
    e.Unfetched → (m.set v e).Unfetched := by
  simp only [Record.members, List.forall_mem_cons]
  exact ⟨fun _ _ h => ⟨h.detached, h.raw⟩, fun _ _ h => ⟨h.detached, h.raw⟩,
    fun _ _ h => ⟨h.detached, h.raw⟩, fun _ _ h => ⟨h.detached, h.raw⟩,
    fun _ _ h => ⟨h.detached, h.raw⟩, fun _ _ h => ⟨h.detached, h.raw⟩, List.forall_mem_nil _⟩

theorem unfetched_blank : (Record.blank : Entity).Unfetched := ⟨rfl, rfl⟩

theorem matchesEtag_set : ∀ m ∈ Record.members (α := Entity), ∀ v (e : Entity),
    e.matchesEtag = true → (m.set v e).matchesEtag = true := by
  simp [Record.members, Member.always, Member.optional]

theorem eq_of_absorb {levels levels' : Nat} {other other' : Outline → Except Fault Unit}
    {ms ms' : List (Text × Outline)} {e e' : Entity}
    (h : Record.absorb (Record.members (α := Entity)) other levels [] Record.blank ms = .ok e)
    (h' : Record.absorb (Record.members (α := Entity)) other' levels' [] Record.blank ms' = .ok e')
    (hSame : ∀ m ∈ Record.members (α := Entity), m.get e = m.get e') : e = e' := by
  obtain ⟨hDetached, hRaw⟩ := Record.absorb_preserves unfetched_set h unfetched_blank
  obtain ⟨hDetached', hRaw'⟩ := Record.absorb_preserves unfetched_set h' unfetched_blank
  have hMatches := Record.absorb_preserves matchesEtag_set h rfl
  have hMatches' := Record.absorb_preserves matchesEtag_set h' rfl
  simp only [Record.members, List.forall_mem_cons] at hSame
  cases e
  cases e'
  simp_all [Member.always, Member.optional]

end Entity

namespace Resource

section

variable [Resource α] {levels inner : Nat} {ms : List (Text × Outline)} {close : Close}

theorem decode_object_iff (hInner : deeper levels = .ok inner) {a : α} :
    decode levels (.object ms close) = .ok a ↔ ∃ b e,
      Record.absorb (Record.members (α := α)) (fun o => (o.value inner).map fun _ => ()) inner []
        Record.blank ms = .ok b ∧
      close.check = .ok () ∧
      Record.absorb (Record.members (α := Entity)) (fun _ => .ok ()) inner [] Record.blank ms =
        .ok e ∧
      withEntity e b = a := by
  constructor
  · intro h
    obtain ⟨_, hDeeper, h⟩ := bind_eq_ok_iff.mp h
    obtain rfl := Except.ok.inj (hInner.symm.trans hDeeper)
    obtain ⟨b, hAbsorb, h⟩ := bind_eq_ok_iff.mp h
    obtain ⟨⟨⟩, hClose, h⟩ := bind_eq_ok_iff.mp h
    obtain ⟨e, hEntity, h⟩ := bind_eq_ok_iff.mp h
    exact ⟨b, e, hAbsorb, hClose, hEntity, Except.ok.inj h⟩
  · rintro ⟨b, e, hAbsorb, hClose, hEntity, rfl⟩
    refine bind_eq_ok_iff.mpr ⟨inner, hInner, bind_eq_ok_iff.mpr ⟨b, hAbsorb, ?_⟩⟩
    exact bind_eq_ok_iff.mpr ⟨(), hClose, bind_eq_ok_iff.mpr ⟨e, hEntity, rfl⟩⟩

theorem exists_spells {bs : Bytes} {a : α} (h : ofBytes bs = .ok a) : ∃ ms, Spells bs ms := by
  have hDecode := Decoder.decode_of_run h
  cases hOutline : (Outline.read bs).1 with
  | object ms close =>
    rw [hOutline] at hDecode
    obtain ⟨_, _, _, hClose, _⟩ := (decode_object_iff (rfl : deeper Decoder.levels = .ok 127)).mp hDecode
    cases close with
    | closed => exact ⟨ms, spells_of_run h hOutline⟩
    | broken => cases hClose
  | word | number | text | array | missing =>
    rw [hOutline] at hDecode
    cases hDecode

end

/-- The member has a name that neither the resource nor its identity knows, and a value that can be
read. -/
def Unmodelled (α : Type) [Resource α] (levels : Nat) (p : Text × Outline) : Prop :=
  (∃ n, p.1.content = .ok n ∧ n ∉ (Record.members (α := α)).map (·.name) ∧
    n ∉ (Record.members (α := Entity)).map (·.name)) ∧ p.2.Readable levels

variable [Resource α] [ExtensionalResource α] {levels inner : Nat} {ms ms' : List (Text × Outline)}
  {close : Close} {a : α}

theorem decode_perm_append (hInner : deeper levels = .ok inner)
    (h : decode levels (.object ms close) = .ok a) {extra : List (Text × Outline)}
    (hPerm : ms'.Perm (ms ++ extra)) (hExtra : ∀ p ∈ extra, Unmodelled α inner p) :
    decode levels (.object ms' close) = .ok a := by
  obtain ⟨b, e, hAbsorb, hClose, hEntity, rfl⟩ := (decode_object_iff hInner).mp h
  have hOther : Record.AllOther (Record.members (α := α)) (fun o => (o.value inner).map fun _ => ())
      extra := by
    intro p hp
    obtain ⟨⟨n, hName, hUnknown, _⟩, hReadable⟩ := hExtra p hp
    obtain ⟨v, hv⟩ := hReadable.exists_value
    exact ⟨n, hName, Record.find?_eq_none_of_notMem hUnknown, map_eq_ok_iff.mpr ⟨v, hv, rfl⟩⟩
  have hIdentity : Record.AllOther (Record.members (α := Entity)) (fun _ => .ok ()) extra := by
    intro p hp
    obtain ⟨⟨n, hName, _, hUnknown⟩, _⟩ := hExtra p hp
    exact ⟨n, hName, Record.find?_eq_none_of_notMem hUnknown, rfl⟩
  obtain ⟨b', hb', hMembers⟩ :=
    Record.absorb_perm_append ExtensionalResource.independent hAbsorb hOther hPerm
  obtain ⟨e', he', hSame⟩ := Record.absorb_perm_append Entity.independent hEntity hIdentity hPerm
  obtain rfl := Entity.eq_of_absorb he' hEntity hSame
  refine (decode_object_iff hInner).mpr ⟨b', e', hb', hClose, he', ?_⟩
  apply ExtensionalResource.ext
  · intro m hm
    rw [ExtensionalResource.get_withEntity m hm, ExtensionalResource.get_withEntity m hm, hMembers m hm]
  · rw [LawfulResource.entity_withEntity, LawfulResource.entity_withEntity]

theorem decode_renamed (hInner : deeper levels = .ok inner) {before after : List (Text × Outline)}
    {t : Text} {x x' : Outline}
    (h : decode levels (.object (before ++ (t, x) :: after) close) = .ok a) {m : Member α}
    (hm : m ∈ Record.members (α := α)) (hName : t.content = .ok m.name) {p : Place m.codec}
    {name : String} (hRenamed : p.Renamed name x x') :
    decode levels (.object (before ++ (t, x') :: after) close) =
      .ok (m.set (p.put name (m.get a)) a) := by
  obtain ⟨b, e, hAbsorb, hClose, hEntity, rfl⟩ := (decode_object_iff hInner).mp h
  have hKnown := ExtensionalResource.independent (α := α)
  have hOld := Record.decode_of_mem hKnown hAbsorb hm List.mem_append_cons_self hName
  have hValue := hRenamed.decode_eq hOld
  obtain ⟨b', hb', hSelf, hOther⟩ := Record.absorb_replace hKnown hAbsorb hm hName hValue
  -- The identity does not know the member, so it is read as before.
  obtain ⟨e', he', hSame⟩ := Record.absorb_replace_of_unknown Entity.independent hEntity hName
    (ExtensionalResource.outside_identity m hm) (Eq.refl (Except.ok ()))
  obtain rfl := Entity.eq_of_absorb he' hEntity hSame
  refine (decode_object_iff hInner).mpr ⟨b', e', hb', hClose, he', ?_⟩
  apply ExtensionalResource.ext
  · intro k hk
    rw [ExtensionalResource.get_withEntity k hk]
    by_cases hEq : k.name = m.name
    · obtain rfl := Record.eq_of_name_eq hKnown.nodup hk hm hEq
      rw [hSelf, hKnown.get_set k hk, ExtensionalResource.get_withEntity k hk]
    · rw [hOther k hk hEq, hKnown.get_set_of_ne k hk m hm hEq, ExtensionalResource.get_withEntity k hk]
  · rw [ExtensionalResource.entity_set m hm, LawfulResource.entity_withEntity,
      LawfulResource.entity_withEntity]

end Resource

end Redfish
