import Redfish.Proofs.Json.Written
import Redfish.Update

/-!
# Properties and the members they are read from

A resource is read from the members of its record and updated by its properties. The laws here tie the
two together: a property is a member of the same name, and what is sent for it is what the codec of that
member writes. All that is written is read back, but for some reals.
-/

namespace Redfish

open Json

/-- What every updatable type of resources owes to the one description of its members. -/
class LawfulUpdatable (α : Type) [Updatable α] : Prop where
  independent : Record.Independent (Record.members (α := α))
  entity_withEntity (e : Entity) (a : α) : Resource.entity (Resource.withEntity e a) = e
  get_withEntity : ∀ m ∈ Record.members (α := α), ∀ e a, m.get (Resource.withEntity e a) = m.get a
  properties_ne_nil : Updatable.properties (α := α) ≠ []
  nodup : ((Updatable.properties (α := α)).map (·.name)).Nodup
  encodes : ∀ p ∈ Updatable.properties (α := α), ∀ b c, ∃ v, p.value b c = .ok v
  outside_identity : ∀ p ∈ Updatable.properties (α := α),
    (Record.members (α := Entity)).find? (·.name == p.name) = none

def Json.Member.IsPlain (m : Member α) : Prop :=
  ∀ levels a, (m.codec.encode (m.get a)).Canonical levels

/-- The property is one of the reals that are listed for the resource, absent ones left out. -/
def Property.IsReal (reals : α → List (String × Float)) (p : Property α) (m : Member α) : Prop :=
  ∃ (get : α → Option Float) (set : Option Float → α → α), m = .optional p.name get set ∧
    ∀ a x, (p.name, x) ∈ reals a ↔ get a = some x

/-- The property is the member, sent whole: what is encoded for it is no object and is decoded again,
unless a real in it is not finite. -/
structure Property.IsWhole (Finite : α → Prop) (reals : α → List (String × Float)) (p : Property α)
    (m : Member α) : Prop where
  name_eq : m.name = p.name
  value_eq : ∀ b c, p.value b c = .ok (m.codec.encode (m.get c))
  changed_congr : ∀ b b' c c', m.get b = m.get b' → m.get c = m.get c' →
    p.changed b c = p.changed b' c'
  not_object : ∀ v, ¬(m.codec.encode v).IsObject
  reads_back : ∀ levels a, Finite a →
    m.codec.decode levels (m.codec.encode (m.get a)).exactOutline = .ok (m.get a)
  not_changed_self : ∀ a, Finite a → p.changed a a = false
  written : m.IsPlain ∨ p.IsReal reals m

namespace Property

theorem isWhole_optional [BEq β] [Codec β] {Finite : α → Prop} {reals : α → List (String × Float)}
    (name : String) (get : α → Option β) (set : Option β → α → α)
    (hPlain : ∀ b : β, ¬(Codec.encode b : Value).IsObject)
    (hReads : ∀ a, Finite a → ∀ b, get a = some b → (Codec.encode b : Value) ≠ .null ∧
      (∀ levels, Codec.RoundTrips levels b) ∧ (b == b) = true)
    (hWritten : (Member.optional name get set).IsPlain ∨
      (Property.whole name get).IsReal reals (.optional name get set)) :
    IsWhole Finite reals (.whole name get) (.optional name get set) where
  name_eq := rfl
  value_eq _ _ := rfl
  changed_congr b b' c c' hb hc := by
    change (get b != get c) = (get b' != get c')
    rw [show get b = get b' from hb, show get c = get c' from hc]
  not_object v := by
    cases v with
    | none => exact id
    | some b => exact hPlain b
  reads_back levels a hFinite := by
    change Codec.RoundTrips levels (get a)
    cases hGet : get a with
    | none => exact Codec.roundTrips_none
    | some b =>
      obtain ⟨hNull, hRoundTrips, _⟩ := hReads a hFinite b hGet
      exact Codec.roundTrips_some hNull (hRoundTrips levels)
  not_changed_self a hFinite := by
    change (!(get a == get a)) = false
    cases hGet : get a with
    | none => rfl
    | some b =>
      obtain ⟨_, _, hSelf⟩ := hReads a hFinite b hGet
      exact congrArg not hSelf
  written := hWritten

variable {Finite : α → Prop} {reals : α → List (String × Float)}

theorem isPlain_optional [Codec β] (name : String) (get : α → Option β) (set : Option β → α → α)
    (h : ∀ levels (b : β), (Codec.encode b : Value).Canonical levels) :
    (Member.optional name get set).IsPlain :=
  fun levels a => Codec.canonical_optional (h levels) (get a)

theorem isWhole_text (name : String) (get : α → Option String) (set : Option String → α → α) :
    IsWhole Finite reals (.whole name get) (.optional name get set) :=
  isWhole_optional name get set (fun _ => id)
    (fun _ _ s _ =>
      ⟨Value.noConfusion, fun levels => Codec.roundTrips_text levels s, beq_self_eq_true s⟩)
    (.inl (isPlain_optional name get set fun _ => .text))

theorem isWhole_bool (name : String) (get : α → Option Bool) (set : Option Bool → α → α) :
    IsWhole Finite reals (.whole name get) (.optional name get set) :=
  isWhole_optional name get set (fun _ => id)
    (fun _ _ b _ =>
      ⟨Value.noConfusion, fun levels => Codec.roundTrips_bool levels b, beq_self_eq_true b⟩)
    (.inl (isPlain_optional name get set fun _ => .bool))

theorem isWhole_enumeration [DecidableEq β] [Enumeration β] [LawfulEnumeration β] (name : String)
    (get : α → Option β) (set : Option β → α → α) :
    letI : Codec β := Enumeration.codec
    IsWhole Finite reals (.whole name get) (.optional name get set) :=
  let _ : Codec β := Enumeration.codec
  isWhole_optional name get set (fun _ => id)
    (fun _ _ b _ =>
      ⟨Value.noConfusion, fun levels => roundTrips_enumeration levels b, beq_self_eq_true b⟩)
    (.inl (isPlain_optional name get set fun _ => Codec.canonical_enumeration))

theorem encode_of_isFinite {x : Float} (h : x.isFinite = true) :
    (Codec.encode x : Value) = .number (.real x) := if_pos h

theorem isWhole_real (name : String) (get : α → Option Float) (set : Option Float → α → α)
    (hFinite : ∀ a, Finite a → ∀ x, get a = some x → x.isFinite = true)
    (hReals : ∀ a x, (name, x) ∈ reals a ↔ get a = some x) :
    IsWhole Finite reals (.whole name get) (.optional name get set) := by
  refine isWhole_optional name get set ?_ ?_ (.inr ⟨get, set, rfl, hReals⟩)
  · intro x hObject
    change (if x.isFinite then Value.number (.real x) else .null).IsObject at hObject
    split at hObject <;> exact hObject
  · intro a h x hx
    have hx := hFinite a h x hx
    refine ⟨?_, fun levels => Codec.roundTrips_float hx, real_beq_self hx⟩
    rw [encode_of_isFinite hx]
    exact Value.noConfusion

end Property

end Redfish
