import Redfish.Json.Record
import Redfish.Proofs.Json.Outline
import Redfish.Proofs.Table

/-!
# Records by what stands under each name

An object decodes as a record exactly if its members fit the members of the record, and then every
member of the record holds what stands under its name, or its blank value where nothing does. So the
order of an object does not count, and a member can be put in place of another without touching the
rest.
-/

namespace Redfish.Json

def Text.spells (t : Text) (n : String) : Bool :=
  match t.content with
  | .ok s => s == n
  | .error _ => false

theorem Text.spells_of_content {t : Text} {s : String} (h : t.content = .ok s) (n : String) :
    t.spells n = (s == n) := by rw [spells, h]

theorem Text.spells_plain (s n : String) : (Text.plain s).spells n = (s == n) := rfl

namespace Members

def find? (n : String) : List (Text × Outline) → Option Outline
  | [] => none
  | (t, o) :: ms => if t.spells n then some o else find? n ms

def put (n : String) (x : Outline) : List (Text × Outline) → List (Text × Outline)
  | [] => [(.plain n, x)]
  | (t, o) :: ms => if t.spells n then (t, x) :: ms else (t, o) :: put n x ms

/-- Puts the members of a table into an object. What is put under a name may depend on what stood
there. -/
def amend (revise : Value → Option Outline → Outline) (delta : Table Value)
    (ms : List (Text × Outline)) : List (Text × Outline) :=
  delta.foldl (fun ms d => put d.1 (revise d.2 (find? d.1 ms)) ms) ms

theorem find?_cons (t : Text) (o : Outline) (ms : List (Text × Outline)) (n : String) :
    find? n ((t, o) :: ms) = if t.spells n then some o else find? n ms := rfl

theorem find?_put_self (n : String) (x : Outline) (ms : List (Text × Outline)) :
    find? n (put n x ms) = some x := by
  induction ms with
  | nil => simp [put, find?, Text.spells_plain]
  | cons m ms ih =>
    obtain ⟨t, o⟩ := m
    simp only [put]
    split
    · rename_i hName
      rw [find?_cons, if_pos hName]
    · rename_i hName
      rw [find?_cons, if_neg hName, ih]

theorem find?_put_of_ne {n k : String} (h : k ≠ n) (x : Outline) (ms : List (Text × Outline)) :
    find? k (put n x ms) = find? k ms := by
  induction ms with
  | nil => simp [put, find?, Text.spells_plain, Ne.symm h]
  | cons m ms ih =>
    obtain ⟨t, o⟩ := m
    simp only [put]
    split
    · rename_i hName
      have hOther : t.spells k = false := by
        unfold Text.spells at hName ⊢
        split at hName
        · simp only [beq_iff_eq] at hName
          rw [hName]
          exact beq_eq_false_iff_ne.mpr (Ne.symm h)
        · cases hName
      simp [find?_cons, hOther]
    · rw [find?_cons, find?_cons, ih]

theorem find?_amend (revise : Value → Option Outline → Outline) (delta : Table Value)
    (hNodup : (delta.map (·.1)).Nodup) (ms : List (Text × Outline)) (n : String) :
    find? n (amend revise delta ms) =
      match delta.get? n with
      | some v => some (revise v (find? n ms))
      | none => find? n ms := by
  induction delta generalizing ms with
  | nil => rfl
  | cons d delta ih =>
    obtain ⟨hFresh, hRest⟩ := List.nodup_cons.mp hNodup
    rw [amend, List.foldl_cons]
    change find? n (amend revise delta _) = _
    rw [ih hRest, Table.get?_cons]
    by_cases h : n = d.1
    · have hNone : Table.get? delta d.1 = none := by
        rw [Table.get?_eq_none_iff]
        intro a ha hName
        exact hFresh (List.mem_map.mpr ⟨a, ha, hName⟩)
      subst h
      simp [hNone, find?_put_self]
    · rw [if_neg h, find?_put_of_ne h]

end Members

namespace Record

open Members

/-- The members of a record are told apart by their names, and setting one leaves the others alone. -/
structure Independent (known : List (Member α)) : Prop where
  nodup : (known.map (·.name)).Nodup
  get_set : ∀ m ∈ known, ∀ v a, m.get (m.set v a) = v
  get_set_of_ne : ∀ m ∈ known, ∀ k ∈ known, m.name ≠ k.name → ∀ v a, m.get (k.set v a) = m.get a

theorem independent_of_pairwise {known : List (Member α)} (hNodup : (known.map (·.name)).Nodup)
    (hSelf : ∀ m ∈ known, ∀ v a, m.get (m.set v a) = v)
    (hOther : known.Pairwise fun m k =>
      (∀ v a, m.get (k.set v a) = m.get a) ∧ ∀ v a, k.get (m.set v a) = k.get a) :
    Independent known := by
  refine ⟨hNodup, hSelf, ?_⟩
  intro m hm k hk hNe
  clear hNodup hSelf
  induction known with
  | nil => cases hm
  | cons first known ih =>
    obtain ⟨hFirst, hRest⟩ := List.pairwise_cons.mp hOther
    rcases List.mem_cons.mp hm with hmFirst | hm
    · rcases List.mem_cons.mp hk with hkFirst | hk
      · exact absurd (congrArg Member.name (hmFirst.trans hkFirst.symm)) hNe
      · rw [hmFirst]
        exact (hFirst k hk).1
    · rcases List.mem_cons.mp hk with hkFirst | hk
      · rw [hkFirst]
        exact (hFirst m hm).2
      · exact ih hRest hm hk

/-- The members of an object fit the known ones: each known one stands there at most once and decodes,
and the others pass the check for them. -/
inductive Fits (known : List (Member α)) (other : Outline → Except Fault Unit) (levels : Nat) :
    List String → List (Text × Outline) → Prop
  | done {seen : List String} : Fits known other levels seen []
  | unknown {seen : List String} {t : Text} {o : Outline} {ms : List (Text × Outline)} {n : String}
      (hName : t.content = .ok n) (hUnknown : known.find? (·.name == n) = none)
      (hOther : other o = .ok ()) (rest : Fits known other levels seen ms) :
      Fits known other levels seen ((t, o) :: ms)
  | known {seen : List String} {t : Text} {o : Outline} {ms : List (Text × Outline)} {n : String}
      {m : Member α} {v : m.Content}
      (hName : t.content = .ok n) (hKnown : known.find? (·.name == n) = some m) (hSeen : n ∉ seen)
      (hValue : m.codec.decode levels o = .ok v) (rest : Fits known other levels (n :: seen) ms) :
      Fits known other levels seen ((t, o) :: ms)

variable {known : List (Member α)} {other : Outline → Except Fault Unit} {levels : Nat}

theorem find?_member (hNodup : (known.map (·.name)).Nodup) {m : Member α} (hm : m ∈ known) :
    known.find? (·.name == m.name) = some m := by
  induction known with
  | nil => cases hm
  | cons k known ih =>
    obtain ⟨hFresh, hRest⟩ := List.nodup_cons.mp hNodup
    rcases List.mem_cons.mp hm with rfl | hMem
    · simp
    · have hName : k.name ≠ m.name := fun e => hFresh (List.mem_map.mpr ⟨m, hMem, e.symm⟩)
      rw [List.find?_cons_of_neg (by simpa using hName)]
      exact ih hRest hMem

theorem name_of_find? {n : String} {m : Member α} (h : known.find? (·.name == n) = some m) :
    m ∈ known ∧ m.name = n :=
  ⟨List.mem_of_find?_eq_some h, by simpa using List.find?_some h⟩

theorem eq_of_name_eq (hNodup : (known.map (·.name)).Nodup) {m k : Member α} (hm : m ∈ known)
    (hk : k ∈ known) (h : m.name = k.name) : m = k := by
  have hFound := find?_member hNodup hm
  rw [h, find?_member hNodup hk] at hFound
  exact (Option.some.inj hFound).symm

theorem fits_of_absorb {seen : List String} {a b : α} {ms : List (Text × Outline)}
    (h : absorb known other levels seen a ms = .ok b) : Fits known other levels seen ms := by
  induction ms generalizing seen a with
  | nil => exact .done
  | cons m ms ih =>
    obtain ⟨t, o⟩ := m
    obtain ⟨n, hName, hRest⟩ := bind_eq_ok_iff.mp h
    cases hKnown : known.find? (·.name == n) with
    | none =>
      rw [hKnown] at hRest
      obtain ⟨⟨⟩, hOther, hRest⟩ := bind_eq_ok_iff.mp hRest
      exact .unknown hName hKnown hOther (ih hRest)
    | some k =>
      simp only [hKnown] at hRest
      split at hRest
      · cases hRest
      · rename_i hSeen
        obtain ⟨a', hAssign, hRest⟩ := bind_eq_ok_iff.mp hRest
        obtain ⟨v, hValue, _⟩ := map_eq_ok_iff.mp hAssign
        exact .known hName hKnown (by simpa using hSeen) hValue (ih hRest)

theorem absorb_of_fits {seen : List String} {ms : List (Text × Outline)}
    (h : Fits known other levels seen ms) (a : α) :
    ∃ b, absorb known other levels seen a ms = .ok b := by
  induction h generalizing a with
  | done => exact ⟨a, rfl⟩
  | unknown hName hUnknown hOther _ ih =>
    obtain ⟨b, hb⟩ := ih a
    refine ⟨b, bind_eq_ok_iff.mpr ⟨_, hName, ?_⟩⟩
    rw [hUnknown]
    exact bind_eq_ok_iff.mpr ⟨(), hOther, hb⟩
  | @known _ _ _ _ _ m v hName hKnown hSeen hValue _ ih =>
    obtain ⟨b, hb⟩ := ih (m.set v a)
    refine ⟨b, bind_eq_ok_iff.mpr ⟨_, hName, ?_⟩⟩
    simp only [hKnown, List.contains_iff_mem, hSeen, if_false]
    exact bind_eq_ok_iff.mpr ⟨_, map_eq_ok_iff.mpr ⟨v, hValue, rfl⟩, hb⟩

theorem Fits.find?_of_seen {seen : List String} {ms : List (Text × Outline)}
    (h : Fits known other levels seen ms) {n : String} {m : Member α}
    (hKnown : known.find? (·.name == n) = some m) (hSeen : n ∈ seen) : find? n ms = none := by
  induction h with
  | done => rfl
  | @unknown _ _ _ _ k hName hUnknown _ _ ih =>
    have hNe : k ≠ n := fun e => by rw [e, hKnown] at hUnknown; cases hUnknown
    simp [find?_cons, Text.spells_of_content hName, hNe, ih hSeen]
  | @known _ _ _ _ k _ _ hName _ hFresh _ _ ih =>
    have hNe : k ≠ n := fun e => hFresh (e ▸ hSeen)
    simp [find?_cons, Text.spells_of_content hName, hNe, ih (List.mem_cons_of_mem _ hSeen)]

theorem get_absorb (hKnown : Independent known) {seen : List String} {a b : α}
    {ms : List (Text × Outline)} (h : absorb known other levels seen a ms = .ok b) {m : Member α}
    (hm : m ∈ known) :
    match find? m.name ms with
    | some o => m.codec.decode levels o = .ok (m.get b)
    | none => m.get b = m.get a := by
  induction ms generalizing seen a with
  | nil =>
    cases h
    rfl
  | cons p ms ih =>
    obtain ⟨t, o⟩ := p
    obtain ⟨n, hName, hRest⟩ := bind_eq_ok_iff.mp h
    rw [find?_cons, Text.spells_of_content hName]
    cases hFound : known.find? (·.name == n) with
    | none =>
      have hNe : n ≠ m.name := by
        rintro rfl
        rw [find?_member hKnown.nodup hm] at hFound
        cases hFound
      rw [hFound] at hRest
      obtain ⟨⟨⟩, _, hRest⟩ := bind_eq_ok_iff.mp hRest
      simpa [hNe] using ih hRest
    | some k =>
      simp only [hFound] at hRest
      split at hRest
      · cases hRest
      · obtain ⟨a', hAssign, hRest⟩ := bind_eq_ok_iff.mp hRest
        obtain ⟨v, hValue, rfl⟩ := map_eq_ok_iff.mp hAssign
        obtain ⟨hMem, rfl⟩ := name_of_find? hFound
        by_cases hNe : k.name = m.name
        · obtain rfl := eq_of_name_eq hKnown.nodup hMem hm hNe
          have hRest' := ih hRest
          rw [(fits_of_absorb hRest).find?_of_seen hFound List.mem_cons_self] at hRest'
          simpa [hRest', hKnown.get_set k hm] using hValue
        · have hRest' := ih hRest
          rw [hKnown.get_set_of_ne m hm k hMem (Ne.symm hNe)] at hRest'
          simpa [hNe] using hRest'

theorem decode_of_absorb (hKnown : Independent known) {seen : List String} {a b : α}
    {ms : List (Text × Outline)} (h : absorb known other levels seen a ms = .ok b) {m : Member α}
    (hm : m ∈ known) {o : Outline} (hFound : find? m.name ms = some o) :
    m.codec.decode levels o = .ok (m.get b) := by
  have hGet := get_absorb hKnown h hm
  rw [hFound] at hGet
  exact hGet

theorem get_of_absorb (hKnown : Independent known) {seen : List String} {a b : α}
    {ms : List (Text × Outline)} (h : absorb known other levels seen a ms = .ok b) {m : Member α}
    (hm : m ∈ known) (hAbsent : find? m.name ms = none) : m.get b = m.get a := by
  have hGet := get_absorb hKnown h hm
  rw [hAbsent] at hGet
  exact hGet

/-- What every decoded member leaves in place holds after an object was read. -/
theorem absorb_invariant {P : α → Prop}
    (hSet : ∀ m ∈ known, ∀ levels o v, m.codec.decode levels o = .ok v → ∀ a, P a → P (m.set v a))
    {seen : List String} {a b : α} {ms : List (Text × Outline)}
    (h : absorb known other levels seen a ms = .ok b) (ha : P a) : P b := by
  induction ms generalizing seen a with
  | nil =>
    cases h
    exact ha
  | cons p ms ih =>
    obtain ⟨t, o⟩ := p
    obtain ⟨n, _, hRest⟩ := bind_eq_ok_iff.mp h
    cases hFound : known.find? (·.name == n) with
    | none =>
      rw [hFound] at hRest
      obtain ⟨⟨⟩, _, hRest⟩ := bind_eq_ok_iff.mp hRest
      exact ih hRest ha
    | some m =>
      simp only [hFound] at hRest
      split at hRest
      · cases hRest
      · obtain ⟨a', hAssign, hRest⟩ := bind_eq_ok_iff.mp hRest
        obtain ⟨v, hValue, rfl⟩ := map_eq_ok_iff.mp hAssign
        exact ih hRest (hSet m (List.mem_of_find?_eq_some hFound) _ _ v hValue a ha)

theorem absorb_preserves {P : α → Prop} (hSet : ∀ m ∈ known, ∀ v a, P a → P (m.set v a))
    {seen : List String} {a b : α} {ms : List (Text × Outline)}
    (h : absorb known other levels seen a ms = .ok b) (ha : P a) : P b :=
  absorb_invariant (fun m hm _ _ v _ => hSet m hm v) h ha

theorem absorb_establishes {P : α → Prop} (hSet : ∀ k ∈ known, ∀ v a, P a → P (k.set v a))
    {n : String} {m : Member α} (hKnown : known.find? (·.name == n) = some m)
    (hBrought : ∀ v a, P (m.set v a)) {seen : List String} {a b : α} {ms : List (Text × Outline)}
    (h : absorb known other levels seen a ms = .ok b) {o : Outline} (hFound : find? n ms = some o) :
    P b := by
  induction ms generalizing seen a with
  | nil => cases hFound
  | cons p ms ih =>
    obtain ⟨t, o'⟩ := p
    obtain ⟨k, hName, hRest⟩ := bind_eq_ok_iff.mp h
    rw [find?_cons, Text.spells_of_content hName] at hFound
    by_cases hFirst : k = n
    · subst hFirst
      simp only [hKnown] at hRest
      split at hRest
      · cases hRest
      · obtain ⟨a', hAssign, hRest⟩ := bind_eq_ok_iff.mp hRest
        obtain ⟨v, _, rfl⟩ := map_eq_ok_iff.mp hAssign
        exact absorb_preserves hSet hRest (hBrought v a)
    · rw [if_neg (by simpa using hFirst)] at hFound
      split at hRest
      · obtain ⟨⟨⟩, _, hRest⟩ := bind_eq_ok_iff.mp hRest
        exact ih hRest hFound
      · split at hRest
        · cases hRest
        · obtain ⟨a', _, hRest⟩ := bind_eq_ok_iff.mp hRest
          exact ih hRest hFound

theorem absorbItems_invariant {P : α → Prop}
    (hSet : ∀ m ∈ known, ∀ levels o v, m.codec.decode levels o = .ok v → ∀ a, P a → P (m.set v a))
    {a b : α} {os : List Outline} (h : absorbItems levels known a os = .ok b) (ha : P a) : P b := by
  induction known generalizing a os with
  | nil =>
    cases os with
    | nil =>
      cases h
      exact ha
    | cons => cases h
  | cons m known ih =>
    obtain ⟨hFirst, hRest⟩ := List.forall_mem_cons.mp hSet
    cases os with
    | nil =>
      cases h
      exact ha
    | cons o os =>
      obtain ⟨a', hAssign, hItems⟩ := bind_eq_ok_iff.mp h
      obtain ⟨v, hValue, rfl⟩ := map_eq_ok_iff.mp hAssign
      exact ih hRest hItems (hFirst _ _ v hValue a ha)

theorem absorbItems_preserves {P : α → Prop} (hSet : ∀ m ∈ known, ∀ v a, P a → P (m.set v a))
    {a b : α} {os : List Outline} (h : absorbItems levels known a os = .ok b) (ha : P a) : P b :=
  absorbItems_invariant (fun m hm _ _ v _ => hSet m hm v) h ha

theorem Fits.put {seen : List String} {ms : List (Text × Outline)}
    (h : Fits known other levels seen ms) {n : String} {m : Member α} {x : Outline} {v : m.Content}
    (hKnown : known.find? (·.name == n) = some m) (hSeen : n ∉ seen)
    (hValue : m.codec.decode levels x = .ok v) : Fits known other levels seen (put n x ms) := by
  induction h with
  | done => exact .known rfl hKnown hSeen hValue .done
  | @unknown _ _ _ _ k hName hUnknown hOther _ ih =>
    have hNe : k ≠ n := fun e => by rw [e, hKnown] at hUnknown; cases hUnknown
    simp only [Members.put, Text.spells_of_content hName, beq_iff_eq, hNe, if_false]
    exact .unknown hName hUnknown hOther (ih hSeen)
  | @known _ _ _ _ k _ _ hName hKnown' hFresh hValue' rest ih =>
    simp only [Members.put, Text.spells_of_content hName, beq_iff_eq]
    split
    · rename_i hEq
      subst hEq
      exact .known hName hKnown hSeen hValue rest
    · rename_i hNe
      refine .known hName hKnown' hFresh hValue' (ih ?_)
      exact fun hMem => (List.mem_cons.mp hMem).elim (fun e => hNe e.symm) hSeen

theorem Fits.amend {revise : Value → Option Outline → Outline} {delta : Table Value}
    (hNodup : (delta.map (·.1)).Nodup) {ms : List (Text × Outline)}
    (h : Fits known other levels [] ms)
    (hDelta : ∀ n v, delta.get? n = some v → ∃ m, known.find? (·.name == n) = some m ∧
      ∃ w, m.codec.decode levels (revise v (find? n ms)) = .ok w) :
    Fits known other levels [] (amend revise delta ms) := by
  induction delta generalizing ms with
  | nil => exact h
  | cons d delta ih =>
    obtain ⟨hFresh, hRest⟩ := List.nodup_cons.mp hNodup
    obtain ⟨m, hFound, w, hValue⟩ := hDelta d.1 d.2 (by simp [Table.get?_cons])
    refine ih hRest (h.put hFound List.not_mem_nil hValue) ?_
    intro n v hv
    have hNe : n ≠ d.1 := by
      rintro rfl
      exact hFresh (List.mem_map.mpr ⟨_, Table.mem_of_get? hv, rfl⟩)
    rw [find?_put_of_ne hNe]
    exact hDelta n v (by rwa [Table.get?_cons, if_neg hNe])

/-- A record is read again after a table was put into its object. Every known member that the table
names is what was put there for it, and the others are as they were. -/
theorem absorb_amend (hKnown : Independent known) (revise : Value → Option Outline → Outline)
    {delta : Table Value} (hNodup : (delta.map (·.1)).Nodup) {a b : α} {ms : List (Text × Outline)}
    (h : absorb known other levels [] a ms = .ok b)
    (hDelta : ∀ n v, delta.get? n = some v → ∃ m, known.find? (·.name == n) = some m ∧
      ∃ w, m.codec.decode levels (revise v (find? n ms)) = .ok w) :
    ∃ b', absorb known other levels [] a (amend revise delta ms) = .ok b' ∧ ∀ m ∈ known,
      (delta.get? m.name = none → m.get b' = m.get b) ∧
      ∀ v, delta.get? m.name = some v →
        m.codec.decode levels (revise v (find? m.name ms)) = .ok (m.get b') := by
  obtain ⟨b', hb'⟩ := absorb_of_fits ((fits_of_absorb h).amend hNodup hDelta) a
  refine ⟨b', hb', ?_⟩
  intro m hm
  have hFind := find?_amend revise delta hNodup ms m.name
  constructor
  · intro hNone
    rw [hNone] at hFind
    cases hFound : find? m.name ms with
    | none =>
      have hAfter := get_of_absorb hKnown hb' hm (hFind.trans hFound)
      exact hAfter.trans (get_of_absorb hKnown h hm hFound).symm
    | some o =>
      have hAfter := decode_of_absorb hKnown hb' hm (hFind.trans hFound)
      exact Except.ok.inj (hAfter.symm.trans (decode_of_absorb hKnown h hm hFound))
  · intro v hv
    rw [hv] at hFind
    exact decode_of_absorb hKnown hb' hm hFind

theorem absorb_cons_of_unknown {t : Text} {n : String} (hName : t.content = .ok n)
    (hUnknown : known.find? (·.name == n) = none) (seen : List String) (a : α) (o : Outline)
    (ms : List (Text × Outline)) :
    absorb known other levels seen a ((t, o) :: ms) =
      (other o >>= fun _ => absorb known other levels seen a ms) := by
  rw [absorb, hName, ok_bind, hUnknown]

theorem absorb_cons_of_known {t : Text} {n : String} (hName : t.content = .ok n) {m : Member α}
    (hKnown : known.find? (·.name == n) = some m) (seen : List String) (a : α) (o : Outline)
    (ms : List (Text × Outline)) :
    absorb known other levels seen a ((t, o) :: ms) = if n ∈ seen then .error (.data .duplicateField)
      else m.assign levels o a >>= fun a => absorb known other levels (n :: seen) a ms := by
  rw [absorb, hName, ok_bind, hKnown]
  simp only [List.contains_iff_mem]

theorem absorb_put_of_unknown {n : String} (hUnknown : known.find? (·.name == n) = none) (x : Outline)
    (seen : List String) (a : α) (ms : List (Text × Outline)) :
    absorb known (fun _ => .ok ()) levels seen a (put n x ms) =
      absorb known (fun _ => .ok ()) levels seen a ms := by
  induction ms generalizing seen a with
  | nil => exact absorb_cons_of_unknown rfl hUnknown seen a x []
  | cons m ms ih =>
    obtain ⟨t, o⟩ := m
    simp only [Members.put]
    split
    · rename_i hName
      unfold Text.spells at hName
      split at hName
      · rename_i hContent
        obtain rfl := beq_iff_eq.mp hName
        rw [absorb_cons_of_unknown hContent hUnknown, absorb_cons_of_unknown hContent hUnknown]
      · cases hName
    · simp only [absorb, ih]

theorem absorb_amend_of_unknown {revise : Value → Option Outline → Outline} {delta : Table Value}
    (hUnknown : ∀ d ∈ delta, known.find? (·.name == d.1) = none) (a : α) (ms : List (Text × Outline)) :
    absorb known (fun _ => .ok ()) levels [] a (amend revise delta ms) =
      absorb known (fun _ => .ok ()) levels [] a ms := by
  induction delta generalizing ms with
  | nil => rfl
  | cons d delta ih =>
    obtain ⟨hFirst, hRest⟩ := List.forall_mem_cons.mp hUnknown
    exact (ih hRest _).trans (absorb_put_of_unknown hFirst _ _ _ _)

variable [Record α]

theorem decode_object_iff {ms : List (Text × Outline)} {close : Close} {a : α} :
    decode levels (.object ms close) = .ok a ↔ ∃ inner, deeper levels = .ok inner ∧
      absorb members Outline.skip inner [] blank ms = .ok a ∧ close.check = .ok () := by
  constructor
  · intro h
    obtain ⟨inner, hInner, h⟩ := bind_eq_ok_iff.mp h
    obtain ⟨b, hAbsorb, h⟩ := bind_eq_ok_iff.mp h
    obtain ⟨⟨⟩, hClose, h⟩ := bind_eq_ok_iff.mp h
    cases h
    exact ⟨inner, hInner, hAbsorb, hClose⟩
  · rintro ⟨inner, hInner, hAbsorb, hClose⟩
    refine bind_eq_ok_iff.mpr ⟨inner, hInner, bind_eq_ok_iff.mpr ⟨a, hAbsorb, ?_⟩⟩
    exact bind_eq_ok_iff.mpr ⟨(), hClose, rfl⟩

theorem decode_invariant {P : α → Prop} (hSet : ∀ m ∈ members (α := α), ∀ levels o v,
      m.codec.decode levels o = .ok v → ∀ a, P a → P (m.set v a))
    (hBlank : P blank) {o : Outline} {a : α} (h : decode levels o = .ok a) : P a := by
  cases o with
  | object ms close =>
    obtain ⟨inner, _, hAbsorb, _⟩ := decode_object_iff.mp h
    exact absorb_invariant hSet hAbsorb hBlank
  | array os flaw =>
    obtain ⟨inner, _, h⟩ := bind_eq_ok_iff.mp h
    obtain ⟨b, hItems, h⟩ := bind_eq_ok_iff.mp h
    obtain ⟨⟨⟩, _, h⟩ := bind_eq_ok_iff.mp h
    cases h
    exact absorbItems_invariant hSet hItems hBlank
  | word | number | text | missing => cases h

theorem decode_preserves {P : α → Prop} (hSet : ∀ m ∈ members (α := α), ∀ v a, P a → P (m.set v a))
    (hBlank : P blank) {o : Outline} {a : α} (h : decode levels o = .ok a) : P a :=
  decode_invariant (fun m hm _ _ v _ => hSet m hm v) hBlank h

theorem get?_written (hNodup : ((members (α := α)).map (·.name)).Nodup) (a : α) (n : String)
    (v : Value) :
    Table.get? (Table.ofList (written a)) n = some v ↔ ∃ m ∈ members (α := α), m.name = n ∧
      m.omitted (m.get a) = false ∧ m.codec.encode (m.get a) = v := by
  have hEntry : ∀ (m : Member α) (e : String × Value), m.written a = some e ↔
      m.omitted (m.get a) = false ∧ (m.name, m.codec.encode (m.get a)) = e := by
    intro m e
    unfold Member.written
    cases m.omitted (m.get a) <;> simp
  have hName : ∀ (m : Member α) (e : String × Value), m.written a = some e → e.1 = m.name :=
    fun m e h => by rw [← ((hEntry m e).mp h).2]
  rw [written, Table.get?_ofList_filterMap hName hNodup]
  simp only [hEntry, Prod.mk.injEq]
  exact exists_congr fun m => and_congr_right fun _ => and_left_comm

theorem get?_written_name (hNodup : ((members (α := α)).map (·.name)).Nodup) (a : α) {m : Member α}
    (hm : m ∈ members (α := α)) :
    Table.get? (Table.ofList (written a)) m.name =
      if m.omitted (m.get a) then none else some (m.codec.encode (m.get a)) := by
  split
  · rename_i hOmitted
    rw [Option.eq_none_iff_forall_ne_some]
    intro v hv
    obtain ⟨k, hk, hName, hWritten, _⟩ := (get?_written hNodup a _ v).mp hv
    obtain rfl := eq_of_name_eq hNodup hk hm hName
    rw [hOmitted] at hWritten
    cases hWritten
  · rename_i hWritten
    exact (get?_written hNodup a _ _).mpr ⟨m, hm, rfl, Bool.eq_false_iff.mpr hWritten, rfl⟩

theorem exists_of_mem_written (hNodup : ((members (α := α)).map (·.name)).Nodup) {a : α}
    {d : String × Value} (hd : d ∈ Table.ofList (written a)) : ∃ m ∈ members (α := α), m.name = d.1 ∧
      m.omitted (m.get a) = false ∧ m.codec.encode (m.get a) = d.2 :=
  (get?_written hNodup a d.1 d.2).mp (((Table.sorted_ofList _).get?_eq_some_iff d.1 d.2).mpr hd)

end Record

end Redfish.Json
