import Mathlib.Data.List.Perm.Subperm
import Redfish.Proofs.Json.Outline
import Redfish.Proofs.Table
import Redfish.Update

/-!
# The least upsert

Putting the members that differ into the baseline makes its members those of the current object, and every
set of members that does so names all of them. Members differ by the equality of values, which takes every
value of a document as equal to itself.
-/

namespace Redfish

/-- Puts the entries of `delta` into a table, in place of those of the same names. -/
def Table.upsert (t delta : Table α) : Table α := delta.foldl (fun t e => t.put e.1 e.2) t

namespace Table

theorem get?_upsert {delta : Table α} (h : delta.Sorted) (t : Table α) (n : String) :
    (t.upsert delta).get? n = (delta.get? n).or (t.get? n) :=
  get?_foldl_put delta h.nodup t n

theorem get?_upsert_of_not_named {delta : Table α} {n : String} (h : n ∉ delta.names) (t : Table α) :
    (t.upsert delta).get? n = t.get? n := by
  unfold upsert
  induction delta generalizing t with
  | nil => rfl
  | cons e delta ih =>
    rw [names, List.map_cons, List.mem_cons, not_or] at h
    rw [List.foldl_cons, ih h.2, get?_put, if_neg h.1]

theorem Sorted.exists_get? {t : Table α} (h : t.Sorted) {n : String} (hn : n ∈ t.names) :
    ∃ v, t.get? n = some v := by
  obtain ⟨⟨_, v⟩, hMem, rfl⟩ := List.mem_map.mp hn
  exact ⟨v, get?_of_mem h.nodup hMem⟩

end Table

namespace Json

/-- A value as documents hold it: each object has each name once, in increasing order, and each real is
finite. -/
inductive Value.Proper : Value → Prop
  | null : Proper .null
  | bool (b : Bool) : Proper (.bool b)
  | integer (i : Int) : Proper (.number (.integer i))
  | real {x : Float} (finite : x.isFinite = true) : Proper (.number (.real x))
  | text (s : String) : Proper (.text s)
  | array {vs : List Value} (h : ∀ v ∈ vs, Proper v) : Proper (.array vs)
  | object {ms : Object} (sorted : ms.Sorted) (h : ∀ m ∈ ms, Proper m.2) : Proper (.object ms)

theorem Value.Proper.beq_self {v : Value} (h : v.Proper) : (v == v) = true := by
  induction h with
  | null => rfl
  | bool b => exact beq_self_eq_true b
  | integer i => exact beq_self_eq_true i
  | real finite => exact real_beq_self finite
  | text s => exact beq_self_eq_true s
  | array _ ih => exact itemsBeq_self ih
  | object _ _ ih => exact membersBeq_self ih

/-- With the members of `delta` put into it, `a` holds a value equal to that of `b` under every name of
`b`. -/
def Renews (a b delta : Object) : Prop :=
  ∀ n v, b.get? n = some v → ∃ w, (a.upsert delta).get? n = some w ∧ (w == v) = true

/-- The object is what has to be put into `a` to have the members of `b` there, and no more. -/
structure IsLeastUpsert (a b delta : Object) : Prop where
  sorted : delta.Sorted
  renews : Renews a b delta
  keeps : ∀ n, b.get? n = none → (a.upsert delta).get? n = a.get? n
  differs : ∀ n v w, delta.get? n = some v → a.get? n = some w → (w == v) = false
  own : ∀ n v, delta.get? n = some v → b.get? n = some v
  least : ∀ other, Renews a b other → delta.length ≤ other.length
  eq_nil_iff : delta = [] ↔ ∀ n v, b.get? n = some v → ∃ w, a.get? n = some w ∧ (w == v) = true

def changed (a b : Object) : Object := b.filter fun m => !(a.get? m.1 == some m.2)

section

variable {a b : Object}

theorem sorted_changed (hb : b.Sorted) : (changed a b).Sorted := hb.filter _

theorem get?_changed (hb : b.Sorted) (n : String) (v : Value) :
    (changed a b).get? n = some v ↔
      b.get? n = some v ∧ ∀ w, a.get? n = some w → (w == v) = false := by
  rw [changed, hb.get?_filter, Bool.not_eq_true']
  refine and_congr_right fun _ => ?_
  cases a.get? n with
  | none => exact ⟨fun _ => nofun, fun _ => rfl⟩
  | some w => exact ⟨fun h _ hw => Option.some.inj hw ▸ h, fun h => h w rfl⟩

theorem get?_changed_or (hb : b.Sorted) {n : String} {v : Value} (h : b.get? n = some v) :
    (changed a b).get? n = some v ∨
      (changed a b).get? n = none ∧ ∃ w, a.get? n = some w ∧ (w == v) = true := by
  by_cases hEqual : ∃ w, a.get? n = some w ∧ (w == v) = true
  · refine .inr ⟨?_, hEqual⟩
    obtain ⟨w, hw, hSame⟩ := hEqual
    rw [Option.eq_none_iff_forall_ne_some]
    intro u hu
    obtain ⟨hOwn, hDiffer⟩ := (get?_changed hb n u).mp hu
    obtain rfl := Option.some.inj (hOwn.symm.trans h)
    rw [hDiffer w hw] at hSame
    cases hSame
  · refine .inl ((get?_changed hb n v).mpr ⟨h, ?_⟩)
    intro w hw
    rw [← Bool.not_eq_true]
    exact fun hSame => hEqual ⟨w, hw, hSame⟩

theorem names_changed_subset (hb : b.Sorted) {other : Object} (h : Renews a b other) :
    (changed a b).names ⊆ other.names := by
  intro n hn
  obtain ⟨v, hv⟩ := (sorted_changed hb).exists_get? hn
  obtain ⟨hOwn, hDiffer⟩ := (get?_changed hb n v).mp hv
  obtain ⟨w, hw, hSame⟩ := h n v hOwn
  by_contra hAbsent
  rw [Table.get?_upsert_of_not_named hAbsent] at hw
  rw [hDiffer w hw] at hSame
  cases hSame

theorem isLeastUpsert_changed (hb : b.Sorted) (hSelf : ∀ m ∈ b, (m.2 == m.2) = true) :
    IsLeastUpsert a b (changed a b) where
  sorted := sorted_changed hb
  renews n v hv := by
    rw [Table.get?_upsert (sorted_changed hb)]
    rcases get?_changed_or (a := a) hb hv with hSent | ⟨hKept, w, hw, hSame⟩
    · rw [hSent]
      exact ⟨v, rfl, hSelf _ (Table.mem_of_get? hv)⟩
    · rw [hKept]
      exact ⟨w, hw, hSame⟩
  keeps n hn := by
    refine Table.get?_upsert_of_not_named ?_ a
    intro hNamed
    obtain ⟨v, hv⟩ := (sorted_changed hb).exists_get? hNamed
    rw [((get?_changed hb n v).mp hv).1] at hn
    cases hn
  differs n v w hv := ((get?_changed hb n v).mp hv).2 w
  own n v hv := ((get?_changed hb n v).mp hv).1
  least other h := by
    -- The names that are sent differ from each other, and any other upsert needs all of them.
    have hNames := List.subperm_of_subset (sorted_changed hb).nodup (names_changed_subset hb h)
    have hLength := hNames.length_le
    rwa [Table.names, List.length_map, List.length_map] at hLength
  eq_nil_iff := by
    constructor
    · intro hNil n v hv
      rcases get?_changed_or (a := a) hb hv with hSent | ⟨_, hEqual⟩
      · rw [hNil] at hSent
        cases hSent
      · exact hEqual
    · intro hEqual
      rw [List.eq_nil_iff_forall_not_mem]
      rintro ⟨n, v⟩ hMem
      have hFound := ((sorted_changed hb).get?_eq_some_iff n v).mpr hMem
      obtain ⟨hOwn, hDiffer⟩ := (get?_changed hb n v).mp hFound
      obtain ⟨w, hw, hSame⟩ := hEqual n v hOwn
      rw [hDiffer w hw] at hSame
      cases hSame

end

end Json

open Json

/-- Of two values that are written as objects, the members that are sent are the least upsert: put into the
object of the baseline they give the members of the current one and leave the others alone, and no fewer
members do. What is not an object on both sides is sent whole. -/
theorem changedMembers_is_least_upsert [Codec β] (baseline current : β) :
    (∀ a b : Object, (Codec.encode baseline : Value) = .object a → Codec.encode current = .object b →
      (Value.object b).Proper → ∃ delta,
        changedMembers (Codec.encode baseline) (Codec.encode current) = .object delta ∧
        IsLeastUpsert a b delta) ∧
    (¬((Codec.encode baseline : Value).IsObject ∧ (Codec.encode current : Value).IsObject) →
      changedMembers (Codec.encode baseline) (Codec.encode current) = Codec.encode current) := by
  constructor
  · intro a b hBaseline hCurrent hProper
    cases hProper with
    | object sorted hMembers =>
      refine ⟨changed a b, ?_, isLeastUpsert_changed sorted fun m hm => (hMembers m hm).beq_self⟩
      rw [hBaseline, hCurrent]
      rfl
  · generalize (Codec.encode baseline : Value) = v
    generalize (Codec.encode current : Value) = w
    intro hPlain
    cases v <;> cases w <;> first
      | rfl
      | exact absurd ⟨trivial, trivial⟩ hPlain

theorem least_upsert_beside_equal_zeros :
    let zero (x : Float) : Value := .object [("x", .array [.number (.real x)])]
    let a : Object := [("k", zero 0.0), ("m", .number (.integer 1)), ("n", .null)]
    let b : Object := [("k", zero (-0.0)), ("m", .number (.real 1.0)), ("o", .array [])]
    let delta : Object := [("m", .number (.real 1.0)), ("o", .array [])]
    changedMembers (.object a) (.object b) = .object delta ∧ IsLeastUpsert a b delta := by
  intro zero a b delta
  have hSame : changedMembers (.object a) (.object b) = .object delta := rfl
  have hZero : (zero (-0.0)).Proper := by
    refine .object (List.pairwise_singleton _ _) (List.forall_mem_singleton.mpr (.array ?_))
    exact List.forall_mem_singleton.mpr (.real (by decide))
  have hProper : (Value.object b).Proper := by
    refine .object (by unfold Table.Sorted; decide) ?_
    simp only [b, List.forall_mem_cons]
    exact ⟨hZero, .real (by decide), .array nofun, nofun⟩
  obtain ⟨_, hDelta, hLeast⟩ :=
    (changedMembers_is_least_upsert (Value.object a) (Value.object b)).1 a b rfl rfl hProper
  obtain rfl := Value.object.inj (hDelta.symm.trans hSame)
  exact ⟨hSame, hLeast⟩

end Redfish
