import Redfish.Proofs.Json.Numeral
import Redfish.Proofs.Json.Place
import Redfish.Proofs.Json.Written

/-!
# Values that their written form preserves

A value is preserved if it is written without `null`, in the one form of what is written, and read back
from it. Optional values and lists in a record are preserved by being left out as well as by being
written, because a record starts without them.
-/

namespace Redfish.Json

inductive Value.NullFree : Value → Prop
  | bool (b : Bool) : NullFree (.bool b)
  | number (n : Number) : NullFree (.number n)
  | text (s : String) : NullFree (.text s)
  | array {vs : List Value} (h : ∀ v ∈ vs, NullFree v) : NullFree (.array vs)
  | object {ms : List (String × Value)} (h : ∀ m ∈ ms, NullFree m.2) : NullFree (.object ms)

theorem Value.NullFree.ne_null {v : Value} (h : v.NullFree) : v ≠ .null := by
  rintro rfl
  cases h

/-- An object of these members, each name once, without those that are absent. -/
def Value.HasMembers (v : Value) (entries : List (String × Option Value)) : Prop :=
  ∃ ms : Object, v = .object ms ∧ ms.Sorted ∧ ∀ n w, ms.get? n = some w ↔ (n, some w) ∈ entries

/-- What is written for `a` opens at most `depth` levels of nesting and preserves it. -/
structure Codec.Preserves [Codec α] (depth : Nat) (a : α) : Prop where
  nullFree : (encode a : Value).NullFree
  canonical (levels : Nat) : depth < levels → (encode a : Value).Canonical levels
  reads_back (levels : Nat) : depth < levels → RoundTrips levels a

namespace Codec

variable {depth : Nat}

theorem Preserves.run_render [Codec α] {a : α} (h : Preserves depth a)
    (hDepth : depth < Decoder.levels) : (decode : Decoder α).run (encode a : Value).render = .ok a :=
  (h.canonical _ hDepth).run_render (h.reads_back _ hDepth)

theorem preserves_bool (b : Bool) : Preserves depth b :=
  ⟨.bool b, fun _ _ => .bool b, fun levels _ => roundTrips_bool levels b⟩

theorem preserves_text (s : String) : Preserves depth s :=
  ⟨.text s, fun _ _ => .text s, fun levels _ => roundTrips_text levels s⟩

theorem preserves_uint64 (n : UInt64) : Preserves depth n :=
  ⟨.number _, fun _ _ => canonical_uint64 n, fun levels _ => roundTrips_uint64 levels n⟩

theorem preserves_enumeration [DecidableEq α] [Enumeration α] [LawfulEnumeration α] (a : α) :
    letI : Codec α := Enumeration.codec
    Preserves depth a :=
  letI : Codec α := Enumeration.codec
  ⟨.text _, fun _ _ => .text _, fun levels _ => roundTrips_enumeration levels a⟩

variable [Codec α]

theorem Preserves.some {a : α} (h : Preserves depth a) : Preserves depth (some a) where
  nullFree := h.nullFree
  canonical := h.canonical
  reads_back levels hLevels := roundTrips_some h.nullFree.ne_null (h.reads_back levels hLevels)

theorem Preserves.list {as : List α} (h : ∀ a ∈ as, Preserves depth a) : Preserves (depth + 1) as where
  nullFree := by
    refine .array ?_
    intro v hv
    obtain ⟨a, ha, rfl⟩ := List.mem_map.mp hv
    exact (h a ha).nullFree
  canonical
    | levels + 2, hLevels => by
      refine .array ?_
      intro v hv
      obtain ⟨a, ha, rfl⟩ := List.mem_map.mp hv
      exact (h a ha).canonical (levels + 1) (by omega)
  reads_back levels hLevels :=
    roundTrips_list (by omega) fun a ha => (h a ha).reads_back (levels - 1) (by omega)

end Codec

attribute [local instance] Member.codec

/-- What the member writes for the record preserves its part of it, and where it writes nothing a record
starts with that part. -/
structure Member.Preserves [Record α] (m : Member α) (depth : Nat) (a : α) : Prop where
  written : m.omitted (m.get a) = false → Codec.Preserves depth (m.get a)
  omitted : m.omitted (m.get a) = true → m.get a = m.get Record.blank

namespace Member

theorem Preserves.canonical [Record α] {m : Member α} {depth levels : Nat} {a : α}
    (h : m.Preserves depth a) (hWritten : m.omitted (m.get a) = false) (hLevels : depth < levels) :
    (m.codec.encode (m.get a)).Canonical levels :=
  (h.written hWritten).canonical levels hLevels

def entry (m : Member α) (a : α) : String × Option Value :=
  (m.name, if m.omitted (m.get a) then none else some (m.codec.encode (m.get a)))

variable [Codec β] {name : String}

theorem entry_always (get : α → β) (set : β → α → α) (a : α) :
    (Member.always name get set).entry a = (name, some (Codec.encode (get a))) := rfl

theorem entry_listed (get : α → List β) (set : List β → α → α) (a : α) :
    (Member.listed name get set).entry a =
      (name, if (get a).isEmpty then none else some (Codec.encode (get a))) := rfl

theorem entry_optional (get : α → Option β) (set : Option β → α → α) (a : α) :
    (Member.optional name get set).entry a = (name, (get a).map Codec.encode) := by
  change (name, if (get a).isNone then none else some (Codec.encode (get a))) = _
  cases get a <;> rfl

variable [Record α] {depth : Nat} {a : α}

theorem preserves_always {get : α → β} {set : β → α → α} (h : Codec.Preserves depth (get a)) :
    (Member.always name get set).Preserves depth a :=
  ⟨fun _ => h, nofun⟩

theorem preserves_optional {get : α → Option β} {set : Option β → α → α}
    (h : ∀ b : β, Codec.Preserves depth b) (hBlank : get Record.blank = none) :
    (Member.optional name get set).Preserves depth a where
  written hWritten := by
    change Codec.Preserves depth (get a)
    obtain ⟨b, hb⟩ := Option.isSome_iff_exists.mp (Option.isNone_eq_false_iff.mp hWritten)
    have hb : get a = some b := hb
    rw [hb]
    exact (h b).some
  omitted hOmitted := (Option.isNone_iff_eq_none.mp hOmitted).trans hBlank.symm

theorem preserves_listed {get : α → List β} {set : List β → α → α}
    (h : ∀ b : β, Codec.Preserves depth b) (hBlank : get Record.blank = []) :
    (Member.listed name get set).Preserves (depth + 1) a where
  written _ := Codec.Preserves.list fun b _ => h b
  omitted hOmitted := (List.isEmpty_iff.mp hOmitted).trans hBlank.symm

end Member

namespace Record

variable [Record α] {depth : Nat} {a : α}

theorem hasMembers_encode (hNodup : ((members (α := α)).map (·.name)).Nodup) (a : α) :
    (encode a).HasMembers ((members (α := α)).map (·.entry a)) := by
  refine ⟨_, rfl, Table.sorted_ofList _, ?_⟩
  intro n w
  rw [get?_written hNodup, List.mem_map]
  refine exists_congr fun m => and_congr_right fun _ => ?_
  unfold Member.entry
  cases m.omitted (m.get a) <;> simp

theorem nullFree_encode (hNodup : ((members (α := α)).map (·.name)).Nodup)
    (h : ∀ m ∈ members (α := α), m.Preserves depth a) : (encode a).NullFree := by
  refine .object ?_
  intro d hd
  obtain ⟨m, hm, _, hWritten, hValue⟩ := exists_of_mem_written hNodup hd
  rw [← hValue]
  exact ((h m hm).written hWritten).nullFree

theorem canonical_of_preserves (hNodup : ((members (α := α)).map (·.name)).Nodup)
    (h : ∀ m ∈ members (α := α), m.Preserves depth a) {levels : Nat} (hLevels : depth + 1 < levels) :
    (encode a).Canonical levels := by
  obtain ⟨levels, rfl⟩ := Nat.exists_eq_add_of_le' (show 2 ≤ levels by omega)
  refine canonical_encode hNodup ?_
  intro m hm hWritten
  exact (h m hm).canonical hWritten (by omega)

theorem decode_of_preserves (hKnown : Independent (members (α := α)))
    (h : ∀ m ∈ members (α := α), m.Preserves depth a) {levels : Nat} (hLevels : depth + 1 < levels) :
    ∃ b, decode levels (encode a).exactOutline = .ok b ∧ ∀ m ∈ members (α := α), m.get b = m.get a := by
  refine decode_written hKnown (by omega) ?_ fun m hm => (h m hm).omitted
  intro m hm hWritten
  exact ((h m hm).written hWritten).reads_back _ (by omega)

theorem preserves [LawfulRecord α] (h : ∀ m ∈ members (α := α), m.Preserves depth a) :
    letI : Codec α := codec
    Codec.Preserves (depth + 1) a := by
  have hKnown := LawfulRecord.independent (α := α)
  refine @Codec.Preserves.mk _ codec _ _ (nullFree_encode hKnown.nodup h) ?_ ?_
  · exact fun _ => canonical_of_preserves hKnown.nodup h
  · intro levels hLevels
    obtain ⟨b, hb, hSame⟩ := decode_of_preserves hKnown h hLevels
    rwa [LawfulRecord.ext b a hSame] at hb

end Record

end Redfish.Json
