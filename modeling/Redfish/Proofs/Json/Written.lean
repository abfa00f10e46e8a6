import Redfish.Proofs.Json.Reading
import Redfish.Proofs.Json.Record

/-!
# Reading the members of a table

A table has each name once, so an object of its members is read into a record member by member, whatever
outline stands for each value.
-/

namespace Redfish

open Json

def Table.outlines (f : String × Value → Outline) (t : Table Value) : List (Text × Outline) :=
  t.map fun d => (.plain d.1, f d)

namespace Json

theorem memberOutlines_eq (ms : List (String × Value)) :
    memberOutlines ms = Table.outlines (fun d => d.2.exactOutline) ms := by
  induction ms with
  | nil => rfl
  | cons m ms ih =>
    rw [memberOutlines, ih]
    rfl

theorem Codec.canonical_optional [Codec β] {levels : Nat}
    (h : ∀ b : β, (Codec.encode b : Value).Canonical levels) (o : Option β) :
    (Codec.encode o : Value).Canonical levels := by
  cases o with
  | none => exact .null
  | some b => exact h b

theorem Codec.canonical_enumeration [DecidableEq β] [Enumeration β] {levels : Nat} (b : β) :
    letI : Codec β := Enumeration.codec
    (Codec.encode b : Value).Canonical levels :=
  .text _

namespace Record

variable {known : List (Member α)} {levels : Nat} {f : String × Value → Outline}

theorem find?_outlines (f : String × Value → Outline) (t : Table Value) (n : String) :
    Members.find? n (t.outlines f) = (t.get? n).map fun v => f (n, v) := by
  induction t with
  | nil => rfl
  | cons d t ih =>
    change Members.find? n ((Text.plain d.1, f d) :: Table.outlines f t) = _
    rw [Members.find?_cons, Text.spells_plain, Table.get?_cons]
    by_cases hName : n = d.1
    · subst hName
      rw [if_pos (beq_self_eq_true _), if_pos rfl]
      rfl
    · rw [if_neg (by simpa using Ne.symm hName), if_neg hName, ih]

theorem fits_outlines {other : Outline → Except Fault Unit} {seen : List String} {t : Table Value}
    (hNodup : (t.map (·.1)).Nodup) (hFresh : ∀ d ∈ t, d.1 ∉ seen)
    (hReads : ∀ d ∈ t, ∃ m, known.find? (·.name == d.1) = some m ∧
      ∃ w, m.codec.decode levels (f d) = .ok w) :
    Fits known other levels seen (t.outlines f) := by
  induction t generalizing seen with
  | nil => exact .done
  | cons d t ih =>
    obtain ⟨hNew, hNodup⟩ := List.nodup_cons.mp hNodup
    obtain ⟨hFirst, hFresh⟩ := List.forall_mem_cons.mp hFresh
    obtain ⟨⟨m, hFound, w, hw⟩, hReads⟩ := List.forall_mem_cons.mp hReads
    refine .known rfl hFound hFirst hw (ih hNodup ?_ hReads)
    intro e he
    rw [List.mem_cons, not_or]
    exact ⟨fun h => hNew (List.mem_map.mpr ⟨e, he, h⟩), hFresh e he⟩

theorem absorb_outlines (other : Outline → Except Fault Unit) (hKnown : Independent known)
    {t : Table Value} (hNodup : (t.map (·.1)).Nodup)
    (hReads : ∀ n v, t.get? n = some v → ∃ m, known.find? (·.name == n) = some m ∧
      ∃ w, m.codec.decode levels (f (n, v)) = .ok w) (a : α) :
    ∃ b, absorb known other levels [] a (t.outlines f) = .ok b ∧ ∀ m ∈ known,
      (t.get? m.name = none → m.get b = m.get a) ∧
      ∀ v, t.get? m.name = some v → m.codec.decode levels (f (m.name, v)) = .ok (m.get b) := by
  have hFits : Fits known other levels [] (t.outlines f) :=
    fits_outlines hNodup (fun _ _ => List.not_mem_nil) fun d hd =>
      hReads d.1 d.2 (Table.get?_of_mem hNodup hd)
  obtain ⟨b, hb⟩ := absorb_of_fits hFits a
  refine ⟨b, hb, ?_⟩
  intro m hm
  have hFind := find?_outlines f t m.name
  constructor
  · intro hNone
    rw [hNone] at hFind
    exact get_of_absorb hKnown hb hm hFind
  · intro v hv
    rw [hv] at hFind
    exact decode_of_absorb hKnown hb hm hFind

/-- What was written for a record is read with the members of the record, if what was written for each
of them is read and those that are left out are absent. -/
theorem decode_written [Record α] (hKnown : Independent (members (α := α))) (hLevels : 1 < levels)
    {a : α}
    (hReads : ∀ m ∈ members (α := α), m.omitted (m.get a) = false →
      m.codec.decode (levels - 1) (m.codec.encode (m.get a)).exactOutline = .ok (m.get a))
    (hOmitted : ∀ m ∈ members (α := α), m.omitted (m.get a) = true → m.get a = m.get blank) :
    ∃ b, decode levels (encode a).exactOutline = .ok b ∧ ∀ m ∈ members (α := α), m.get b = m.get a := by
  have hTable : ∀ n v, Table.get? (Table.ofList (written a)) n = some v →
      ∃ m, (members (α := α)).find? (·.name == n) = some m ∧ ∃ w,
        m.codec.decode (levels - 1) v.exactOutline = .ok w := by
    intro n v hv
    obtain ⟨m, hm, rfl, hWritten, rfl⟩ := (get?_written hKnown.nodup a n v).mp hv
    exact ⟨m, find?_member hKnown.nodup hm, _, hReads m hm hWritten⟩
  obtain ⟨b, hb, hMembers⟩ := absorb_outlines (f := fun d => d.2.exactOutline) Outline.skip hKnown
    (Table.sorted_ofList _).nodup hTable blank
  rw [← memberOutlines_eq] at hb
  refine ⟨b, decode_object_iff.mpr ⟨levels - 1, if_neg (by omega), hb, rfl⟩, ?_⟩
  intro m hm
  have hName := get?_written_name hKnown.nodup a hm
  split at hName
  · rename_i hAbsent
    rw [hOmitted m hm hAbsent]
    exact (hMembers m hm).1 hName
  · rename_i hWritten
    have hRead := hReads m hm (Bool.eq_false_iff.mpr hWritten)
    exact Except.ok.inj (((hMembers m hm).2 _ hName).symm.trans hRead)

theorem decode_establishes [Record α] (hNodup : ((members (α := α)).map (·.name)).Nodup) {P : α → Prop}
    (hSet : ∀ k ∈ members (α := α), ∀ v a, P a → P (k.set v a)) {m : Member α}
    (hm : m ∈ members (α := α)) (hBrought : ∀ v a, P (m.set v a)) {a b : α}
    (hWritten : m.omitted (m.get a) = false) (h : decode levels (encode a).exactOutline = .ok b) : P b := by
  obtain ⟨inner, _, hAbsorb, _⟩ := decode_object_iff.mp h
  have hName := get?_written_name hNodup a hm
  rw [hWritten, if_neg Bool.false_ne_true] at hName
  have hFound := find?_outlines (fun d => d.2.exactOutline) (Table.ofList (written a)) m.name
  rw [hName, ← memberOutlines_eq] at hFound
  exact absorb_establishes hSet (find?_member hNodup hm) hBrought hAbsorb hFound

theorem canonical_encode [Record α] (hNodup : ((members (α := α)).map (·.name)).Nodup) {a : α}
    (h : ∀ m ∈ members (α := α), m.omitted (m.get a) = false →
      (m.codec.encode (m.get a)).Canonical (levels + 1)) :
    (encode a).Canonical (levels + 2) := by
  refine .object (Table.sorted_ofList _) ?_
  intro d hd
  obtain ⟨m, hm, _, hWritten, hValue⟩ := exists_of_mem_written hNodup hd
  rw [← hValue]
  exact h m hm hWritten

end Record

end Json

end Redfish
