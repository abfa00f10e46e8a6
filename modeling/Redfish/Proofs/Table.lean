import Mathlib.Data.List.Perm.Basic
import Mathlib.Data.List.Nodup
import Redfish.Table

/-!
# Tables by their lookups

A table built by `put` has its names in increasing order, so it is determined by what is found under
each name. The lookup of a put value needs no order.
-/

namespace Redfish.Table

/-- Each name once, in increasing order. -/
def Sorted (t : Table α) : Prop := t.Pairwise fun a b => a.1 < b.1

@[simp] theorem get?_nil (n : String) : get? ([] : Table α) n = none := rfl

theorem get?_cons (a : String × α) (t : Table α) (n : String) :
    get? (a :: t) n = if n = a.1 then some a.2 else get? t n := by
  obtain ⟨m, v⟩ := a
  by_cases h : n = m
  · simp [get?, h]
  · simp [get?, List.lookup_cons, beq_eq_false_iff_ne.mpr h, h]

theorem mem_of_get? {t : Table α} {n : String} {v : α} (h : get? t n = some v) : (n, v) ∈ t := by
  induction t with
  | nil => cases h
  | cons a t ih =>
    rw [get?_cons] at h
    split at h
    · rename_i hName
      cases h
      rw [hName]
      exact List.mem_cons_self
    · exact List.mem_cons_of_mem _ (ih h)

theorem get?_eq_none_iff (t : Table α) (n : String) : get? t n = none ↔ ∀ a ∈ t, a.1 ≠ n := by
  induction t with
  | nil => simp
  | cons a t ih =>
    rw [get?_cons, List.forall_mem_cons, ← ih]
    by_cases h : n = a.1
    · simp [h]
    · simp [h, Ne.symm h]

theorem get?_of_mem {t : Table α} (hNodup : (t.map (·.1)).Nodup) {n : String} {v : α}
    (h : (n, v) ∈ t) : get? t n = some v := by
  induction t with
  | nil => cases h
  | cons a t ih =>
    obtain ⟨hFresh, hRest⟩ := List.nodup_cons.mp hNodup
    rw [get?_cons]
    rcases List.mem_cons.mp h with rfl | hMem
    · simp
    · have hName : n ≠ a.1 := fun e => hFresh (List.mem_map.mpr ⟨(n, v), hMem, e⟩)
      rw [if_neg hName]
      exact ih hRest hMem

theorem Sorted.nodup {t : Table α} (h : t.Sorted) : (t.map (·.1)).Nodup := by
  refine List.pairwise_map.mpr (List.Pairwise.imp ?_ h)
  intro a b hLt hName
  rw [hName] at hLt
  exact String.lt_irrefl _ hLt

theorem Sorted.get?_eq_some_iff {t : Table α} (h : t.Sorted) (n : String) (v : α) :
    get? t n = some v ↔ (n, v) ∈ t :=
  ⟨mem_of_get?, get?_of_mem h.nodup⟩

theorem Sorted.filter {t : Table α} (h : t.Sorted) (p : String × α → Bool) :
    Sorted (t.filter p) := List.Pairwise.filter p h

theorem Sorted.get?_filter {t : Table α} (h : t.Sorted) (p : String × α → Bool) (n : String) (v : α) :
    get? (t.filter p) n = some v ↔ get? t n = some v ∧ p (n, v) = true := by
  rw [(h.filter p).get?_eq_some_iff, h.get?_eq_some_iff, List.mem_filter]

theorem Sorted.eq_of_get? {t u : Table α} (ht : t.Sorted) (hu : u.Sorted)
    (h : ∀ n, t.get? n = u.get? n) : t = u := by
  have hMem : ∀ a, a ∈ t ↔ a ∈ u := by
    rintro ⟨n, v⟩
    rw [← ht.get?_eq_some_iff, ← hu.get?_eq_some_iff, h]
  have hPerm : t.Perm u := (List.perm_ext_iff_of_nodup ht.nodup.of_map hu.nodup.of_map).mpr hMem
  refine hPerm.eq_of_pairwise ?_ ht hu
  intro a b _ _ hLt hGt
  exact absurd hGt (String.lt_asymm hLt)

theorem get?_put (name : String) (value : α) (t : Table α) (n : String) :
    get? (put name value t) n = if n = name then some value else get? t n := by
  induction t with
  | nil => simp [put, get?_cons]
  | cons a t ih =>
    obtain ⟨m, v⟩ := a
    simp only [put]
    split
    · rename_i hName
      subst hName
      by_cases h : n = name <;> simp [get?_cons, h]
    · rename_i hName
      split
      · simp only [get?_cons]
      · rw [get?_cons, ih, get?_cons]
        by_cases h : n = m
        · simp [h, Ne.symm hName]
        · simp [h]

theorem put_put (name : String) (v w : α) (t : Table α) : put name v (put name w t) = put name v t := by
  induction t with
  | nil => simp [put]
  | cons a t ih =>
    obtain ⟨n, u⟩ := a
    by_cases hName : name = n
    · simp only [put, if_pos hName, if_true]
    · by_cases hLt : name < n
      · simp only [put, if_neg hName, if_pos hLt, if_true]
      · simp only [put, if_neg hName, if_neg hLt, ih]

theorem mem_put {name : String} {value : α} {t : Table α} {a : String × α}
    (h : a ∈ put name value t) : a = (name, value) ∨ a ∈ t := by
  induction t with
  | nil => exact .inl (List.mem_singleton.mp h)
  | cons b t ih =>
    simp only [put] at h
    split at h
    · exact (List.mem_cons.mp h).imp_right (List.mem_cons_of_mem _)
    · split at h
      · exact List.mem_cons.mp h
      · rcases List.mem_cons.mp h with rfl | h
        · exact .inr List.mem_cons_self
        · exact (ih h).imp_right (List.mem_cons_of_mem _)

theorem Sorted.put {t : Table α} (h : t.Sorted) (name : String) (value : α) :
    Sorted (put name value t) := by
  induction t with
  | nil => exact List.pairwise_singleton ..
  | cons b t ih =>
    obtain ⟨hFirst, hRest⟩ := List.pairwise_cons.mp h
    simp only [Table.put]
    split
    · rename_i hName
      exact List.pairwise_cons.mpr ⟨fun a ha => hName ▸ hFirst a ha, hRest⟩
    · rename_i hName
      split
      · rename_i hLt
        refine List.pairwise_cons.mpr ⟨?_, h⟩
        intro a ha
        rcases List.mem_cons.mp ha with rfl | ha
        · exact hLt
        · exact String.lt_trans hLt (hFirst a ha)
      · rename_i hLt
        refine List.pairwise_cons.mpr ⟨?_, ih hRest⟩
        intro a ha
        rcases mem_put ha with rfl | ha
        · exact String.not_le.mp fun hLe => hName (String.le_antisymm (String.not_lt.mp hLt) hLe).symm
        · exact hFirst a ha

theorem sorted_foldl_put (es : List (String × α)) (t : Table α) (h : t.Sorted) :
    Sorted (es.foldl (fun t e => t.put e.1 e.2) t) := by
  induction es generalizing t with
  | nil => exact h
  | cons e es ih => exact ih _ (h.put e.1 e.2)

theorem sorted_ofList (es : List (String × α)) : (ofList es).Sorted :=
  sorted_foldl_put es [] List.Pairwise.nil

theorem put_of_forall_lt {t : Table α} {name : String} (h : ∀ a ∈ t, a.1 < name) (value : α) :
    put name value t = t ++ [(name, value)] := by
  induction t with
  | nil => rfl
  | cons b t ih =>
    obtain ⟨hFirst, hLater⟩ := List.forall_mem_cons.mp h
    rw [put, if_neg (String.ne_of_lt hFirst).symm, if_neg (String.lt_asymm hFirst), ih hLater,
      List.cons_append]

theorem Sorted.foldl_put {es t : Table α} (h : Sorted (t ++ es)) :
    es.foldl (fun t e => t.put e.1 e.2) t = t ++ es := by
  induction es generalizing t with
  | nil => rw [List.foldl_nil, List.append_nil]
  | cons e es ih =>
    have hLast : ∀ a ∈ t, a.1 < e.1 := fun a ha =>
      (List.pairwise_append.mp h).2.2 a ha e List.mem_cons_self
    rw [List.foldl_cons, put_of_forall_lt hLast, ih (by rwa [List.append_assoc]), List.append_assoc,
      List.singleton_append]

theorem Sorted.ofList_eq {t : Table α} (h : t.Sorted) : ofList t = t :=
  Sorted.foldl_put (t := []) h

theorem get?_foldl_put (es : List (String × α)) (hNodup : (es.map (·.1)).Nodup) (t : Table α)
    (n : String) : get? (es.foldl (fun t e => t.put e.1 e.2) t) n = (get? es n).or (get? t n) := by
  induction es generalizing t with
  | nil => rfl
  | cons e es ih =>
    obtain ⟨hFresh, hRest⟩ := List.nodup_cons.mp hNodup
    rw [List.foldl_cons, ih hRest, get?_put, get?_cons]
    by_cases h : n = e.1
    · have hNone : get? es n = none := by
        rw [get?_eq_none_iff]
        intro a ha hName
        exact hFresh (List.mem_map.mpr ⟨a, ha, hName.trans h⟩)
      simp [h, h ▸ hNone]
    · simp [h]

theorem get?_ofList {es : List (String × α)} (hNodup : (es.map (·.1)).Nodup) (n : String) :
    get? (ofList es) n = get? es n := by
  rw [ofList, get?_foldl_put es hNodup]
  simp

theorem get?_perm {es fs : List (String × α)} (hPerm : es.Perm fs) (hNodup : (es.map (·.1)).Nodup)
    (n : String) : get? es n = get? fs n := by
  have hNodup' : (fs.map (·.1)).Nodup := (hPerm.map _).nodup_iff.mp hNodup
  apply Option.ext
  intro v
  exact ⟨fun h => get?_of_mem hNodup' (hPerm.mem_iff.mp (mem_of_get? h)),
    fun h => get?_of_mem hNodup (hPerm.mem_iff.mpr (mem_of_get? h))⟩

theorem ofList_perm {es fs : List (String × α)} (hPerm : es.Perm fs) (hNodup : (es.map (·.1)).Nodup) :
    ofList es = ofList fs := by
  refine (sorted_ofList es).eq_of_get? (sorted_ofList fs) ?_
  intro n
  rw [get?_ofList hNodup, get?_ofList ((hPerm.map _).nodup_iff.mp hNodup), get?_perm hPerm hNodup]

theorem ofList_eq_nil_iff {es : List (String × α)} (hNodup : (es.map (·.1)).Nodup) :
    ofList es = [] ↔ es = [] := by
  constructor
  · intro h
    cases es with
    | nil => rfl
    | cons e es =>
      have hFirst := get?_ofList hNodup e.1
      rw [h, get?_cons, if_pos rfl] at hFirst
      cases hFirst
  · rintro rfl
    rfl

section

variable {l : List β} {name : β → String} {entry : β → Option (String × α)}

theorem nodup_filterMap (hName : ∀ b a, entry b = some a → a.1 = name b) (hNodup : (l.map name).Nodup) :
    ((l.filterMap entry).map (·.1)).Nodup := by
  refine List.Sublist.nodup ?_ hNodup
  clear hNodup
  induction l with
  | nil => exact List.Sublist.slnil
  | cons b l ih =>
    rw [List.filterMap_cons, List.map_cons]
    cases hEntry : entry b with
    | none => exact ih.cons _
    | some a =>
      rw [List.map_cons, hName b a hEntry]
      exact ih.cons_cons _

theorem get?_ofList_filterMap (hName : ∀ b a, entry b = some a → a.1 = name b)
    (hNodup : (l.map name).Nodup) (n : String) (v : α) :
    get? (ofList (l.filterMap entry)) n = some v ↔ ∃ b ∈ l, entry b = some (n, v) := by
  have hDistinct := nodup_filterMap hName hNodup
  rw [get?_ofList hDistinct, ← List.mem_filterMap]
  exact ⟨mem_of_get?, get?_of_mem hDistinct⟩

end

end Redfish.Table
