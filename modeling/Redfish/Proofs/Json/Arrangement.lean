import Redfish.Proofs.Json.Record

/-!
# The order of members

Whether the members of an object fit a record can be told from each of them alone, as long as none that
is known stands there twice. So they fit in any order, members that are not known can stand anywhere
between them, and a value can be put in place of another one.
-/

namespace Redfish.Json

theorem Text.spells_iff (t : Text) (n : String) : t.spells n = true ↔ t.content = .ok n := by
  unfold Text.spells
  split
  · rename_i s hContent
    rw [hContent, beq_iff_eq]
    exact ⟨congrArg _, Except.ok.inj⟩
  · rename_i hContent
    rw [hContent]
    exact ⟨nofun, nofun⟩

/-- The document is an object with these members, with nothing but blanks around it. -/
def Spells (bs : Bytes) (ms : List (Text × Outline)) : Prop :=
  ∃ rest, Outline.read bs = (.object ms .closed, some rest) ∧ Outline.skipBlanks rest = []

theorem Spells.run_eq {bs : Bytes} {ms : List (Text × Outline)} (h : Spells bs ms) (d : Decoder α) :
    d.run bs = d Decoder.levels (.object ms .closed) := by
  obtain ⟨rest, hRead, hRest⟩ := h
  unfold Decoder.run
  rw [hRead]
  simp only [hRest, if_true]
  cases d Decoder.levels (.object ms .closed) <;> rfl

theorem spells_of_run {d : Decoder α} {bs : Bytes} {a : α} (h : d.run bs = .ok a)
    {ms : List (Text × Outline)} (hObject : (Outline.read bs).1 = .object ms .closed) : Spells bs ms := by
  unfold Decoder.run at h
  rcases hRead : Outline.read bs with ⟨o, rest⟩
  rw [hRead] at h hObject
  obtain rfl : o = .object ms .closed := hObject
  obtain ⟨_, _, h⟩ := bind_eq_ok_iff.mp h
  cases rest with
  | none => cases h
  | some rest =>
    dsimp only at h
    split at h
    · rename_i hBlank
      exact ⟨rest, hRead, hBlank⟩
    · cases h

/-- A value that can be read: its numbers are finite, the surrogates of its texts are in pairs, and it
opens no more levels of nesting than there are. -/
inductive Outline.Readable : (levels : Nat) → Outline → Prop
  | word {levels : Nat} (w : Word) : Readable levels (.word w none)
  | number {levels : Nat} {n : Numeral} {v : Number} (h : n.value = .ok v) : Readable levels (.number n)
  | text {levels : Nat} {t : Text} {s : String} (h : t.content = .ok s) : Readable levels (.text t)
  | array {levels inner : Nat} {items : List Outline} (hInner : deeper levels = .ok inner)
      (h : ∀ o ∈ items, Readable inner o) : Readable levels (.array items none)
  | object {levels inner : Nat} {ms : List (Text × Outline)} (hInner : deeper levels = .ok inner)
      (hNames : ∀ p ∈ ms, ∃ n, p.1.content = .ok n) (h : ∀ p ∈ ms, Readable inner p.2) :
      Readable levels (.object ms .closed)

namespace Outline

theorem exists_itemValues {levels : Nat} {items : List Outline}
    (h : ∀ o ∈ items, ∃ v, o.value levels = .ok v) : ∃ vs, itemValues levels items = .ok vs := by
  induction items with
  | nil => exact ⟨[], rfl⟩
  | cons o items ih =>
    obtain ⟨⟨v, hv⟩, hItems⟩ := List.forall_mem_cons.mp h
    obtain ⟨vs, hvs⟩ := ih hItems
    exact ⟨v :: vs, bind_eq_ok_iff.mpr ⟨v, hv, bind_eq_ok_iff.mpr ⟨vs, hvs, rfl⟩⟩⟩

theorem exists_memberValues {levels : Nat} {ms : List (Text × Outline)}
    (hNames : ∀ p ∈ ms, ∃ n, p.1.content = .ok n) (h : ∀ p ∈ ms, ∃ v, p.2.value levels = .ok v) :
    ∃ vs, memberValues levels ms = .ok vs := by
  induction ms with
  | nil => exact ⟨[], rfl⟩
  | cons p ms ih =>
    obtain ⟨⟨n, hn⟩, hNames⟩ := List.forall_mem_cons.mp hNames
    obtain ⟨⟨v, hv⟩, hMembers⟩ := List.forall_mem_cons.mp h
    obtain ⟨vs, hvs⟩ := ih hNames hMembers
    refine ⟨(n, v) :: vs, bind_eq_ok_iff.mpr ⟨n, hn, bind_eq_ok_iff.mpr ⟨v, hv, ?_⟩⟩⟩
    exact bind_eq_ok_iff.mpr ⟨vs, hvs, rfl⟩

theorem Readable.exists_value {levels : Nat} {o : Outline} (h : o.Readable levels) :
    ∃ v, o.value levels = .ok v := by
  induction h with
  | word w => exact ⟨_, rfl⟩
  | number h => exact ⟨_, map_eq_ok_iff.mpr ⟨_, h, rfl⟩⟩
  | text h => exact ⟨_, map_eq_ok_iff.mpr ⟨_, h, rfl⟩⟩
  | array hInner _ ih =>
    obtain ⟨vs, hvs⟩ := exists_itemValues ih
    exact ⟨_, bind_eq_ok_iff.mpr ⟨_, hInner, bind_eq_ok_iff.mpr ⟨vs, hvs, rfl⟩⟩⟩
  | object hInner hNames _ ih =>
    obtain ⟨vs, hvs⟩ := exists_memberValues hNames ih
    exact ⟨_, bind_eq_ok_iff.mpr ⟨_, hInner, bind_eq_ok_iff.mpr ⟨vs, hvs, rfl⟩⟩⟩

end Outline

namespace Record

open Members

def FitsAlone (known : List (Member α)) (other : Outline → Except Fault Unit) (levels : Nat)
    (p : Text × Outline) : Prop :=
  ∃ n, p.1.content = .ok n ∧
    match known.find? (·.name == n) with
    | none => other p.2 = .ok ()
    | some m => ∃ v, m.codec.decode levels p.2 = .ok v

def knownName? (known : List (Member α)) (p : Text × Outline) : Option String :=
  match p.1.content with
  | .ok n => if (known.find? (·.name == n)).isSome then some n else none
  | .error _ => none

variable {known : List (Member α)} {other : Outline → Except Fault Unit} {levels : Nat}
  {ms ms' extra : List (Text × Outline)} {n : String} {t : Text} {o : Outline}

theorem knownName?_of_known {m : Member α} (hName : t.content = .ok n)
    (hKnown : known.find? (·.name == n) = some m) : knownName? known (t, o) = some n := by
  unfold knownName?
  simp [hName, hKnown]

theorem knownName?_of_unknown (hName : t.content = .ok n)
    (hUnknown : known.find? (·.name == n) = none) : knownName? known (t, o) = none := by
  unfold knownName?
  simp [hName, hUnknown]

theorem fits_iff {seen : List String} :
    Fits known other levels seen ms ↔ (∀ p ∈ ms, FitsAlone known other levels p) ∧
      (ms.filterMap (knownName? known)).Nodup ∧ (ms.filterMap (knownName? known)).Disjoint seen := by
  induction ms generalizing seen with
  | nil => simpa using Fits.done
  | cons p ms ih =>
    obtain ⟨t, o⟩ := p
    constructor
    · rintro (_ | ⟨hName, hUnknown, hOther, rest⟩ | ⟨hName, hKnown, hSeen, hValue, rest⟩)
      · obtain ⟨hAlone, hNodup, hFresh⟩ := ih.mp rest
        rw [List.filterMap_cons_none (knownName?_of_unknown hName hUnknown)]
        refine ⟨List.forall_mem_cons.mpr ⟨⟨_, hName, ?_⟩, hAlone⟩, hNodup, hFresh⟩
        simpa only [hUnknown] using hOther
      · obtain ⟨hAlone, hNodup, hFresh⟩ := ih.mp rest
        obtain ⟨hNew, hFresh⟩ := List.disjoint_cons_right.mp hFresh
        rw [List.filterMap_cons_some (knownName?_of_known hName hKnown)]
        refine ⟨List.forall_mem_cons.mpr ⟨⟨_, hName, ?_⟩, hAlone⟩, List.nodup_cons.mpr ⟨hNew, hNodup⟩,
          List.disjoint_cons_left.mpr ⟨hSeen, hFresh⟩⟩
        simpa only [hKnown] using ⟨_, hValue⟩
    · rintro ⟨hAlone, hNodup, hFresh⟩
      obtain ⟨⟨n, hName, hValue⟩, hAlone⟩ := List.forall_mem_cons.mp hAlone
      cases hKnown : known.find? (·.name == n) with
      | none =>
        rw [List.filterMap_cons_none (knownName?_of_unknown hName hKnown)] at hNodup hFresh
        rw [hKnown] at hValue
        exact .unknown hName hKnown hValue (ih.mpr ⟨hAlone, hNodup, hFresh⟩)
      | some m =>
        rw [List.filterMap_cons_some (knownName?_of_known hName hKnown)] at hNodup hFresh
        obtain ⟨hNew, hNodup⟩ := List.nodup_cons.mp hNodup
        obtain ⟨hSeen, hFresh⟩ := List.disjoint_cons_left.mp hFresh
        rw [hKnown] at hValue
        obtain ⟨v, hValue⟩ := hValue
        have hRest := ih.mpr ⟨hAlone, hNodup, List.disjoint_cons_right.mpr ⟨hNew, hFresh⟩⟩
        exact .known hName hKnown hSeen hValue hRest

theorem find?_eq_none_of_notMem (h : n ∉ known.map (·.name)) : known.find? (·.name == n) = none := by
  rw [List.find?_eq_none]
  intro m hm hName
  exact h (List.mem_map.mpr ⟨m, hm, beq_iff_eq.mp hName⟩)

theorem exists_of_find? (h : find? n ms = some o) : ∃ t, (t, o) ∈ ms ∧ t.spells n = true := by
  induction ms with
  | nil => cases h
  | cons p ms ih =>
    obtain ⟨t, x⟩ := p
    rw [find?_cons] at h
    split at h
    · rename_i hName
      obtain rfl := Option.some.inj h
      exact ⟨t, List.mem_cons_self, hName⟩
    · obtain ⟨u, hMem, hName⟩ := ih h
      exact ⟨u, List.mem_cons_of_mem _ hMem, hName⟩

theorem Fits.find?_of_mem {seen : List String} (h : Fits known other levels seen ms) {m : Member α}
    (hKnown : known.find? (·.name == n) = some m) (hMem : (t, o) ∈ ms) (hName : t.content = .ok n) :
    find? n ms = some o := by
  induction h with
  | done => cases hMem
  | @unknown _ u _ _ k hName' hUnknown _ _ ih =>
    have hNe : k ≠ n := fun e => by rw [e, hKnown] at hUnknown; cases hUnknown
    rcases List.mem_cons.mp hMem with hHead | hMem
    · obtain ⟨rfl, rfl⟩ := Prod.mk.inj hHead
      exact absurd (Except.ok.inj (hName'.symm.trans hName)) hNe
    · simpa [find?_cons, Text.spells_of_content hName', hNe] using ih hMem
  | @known _ u _ _ k _ _ hName' hKnown' _ _ rest ih =>
    rw [find?_cons, Text.spells_of_content hName']
    rcases List.mem_cons.mp hMem with hHead | hMem
    · obtain ⟨rfl, rfl⟩ := Prod.mk.inj hHead
      obtain rfl := Except.ok.inj (hName'.symm.trans hName)
      simp
    · by_cases hEq : k = n
      · -- A known name that was met stands nowhere in the rest.
        rw [rest.find?_of_seen hKnown (List.mem_cons.mpr (.inl hEq.symm))] at ih
        cases ih hMem
      · simpa [hEq] using ih hMem

theorem Fits.find?_eq_some_iff {seen : List String} (h : Fits known other levels seen ms) {m : Member α}
    (hKnown : known.find? (·.name == n) = some m) :
    find? n ms = some o ↔ ∃ t, (t, o) ∈ ms ∧ t.content = .ok n := by
  constructor
  · intro hFound
    obtain ⟨t, hMem, hName⟩ := exists_of_find? hFound
    exact ⟨t, hMem, (t.spells_iff n).mp hName⟩
  · rintro ⟨t, hMem, hName⟩
    exact h.find?_of_mem hKnown hMem hName

theorem decode_of_mem (hKnown : Independent known) {seen : List String} {a b : α}
    (h : absorb known other levels seen a ms = .ok b) {m : Member α} (hm : m ∈ known)
    (hMem : (t, o) ∈ ms) (hName : t.content = .ok m.name) : m.codec.decode levels o = .ok (m.get b) :=
  decode_of_absorb hKnown h hm
    ((fits_of_absorb h).find?_of_mem (find?_member hKnown.nodup hm) hMem hName)

/-- Members that are not known pass the check for such members. -/
def AllOther (known : List (Member α)) (other : Outline → Except Fault Unit)
    (extra : List (Text × Outline)) : Prop :=
  ∀ p ∈ extra, ∃ n, p.1.content = .ok n ∧ known.find? (·.name == n) = none ∧ other p.2 = .ok ()

theorem Fits.perm_append (h : Fits known other levels [] ms) (hExtra : AllOther known other extra)
    (hPerm : ms'.Perm (ms ++ extra)) : Fits known other levels [] ms' := by
  obtain ⟨hAlone, hNodup, _⟩ := fits_iff.mp h
  have hNone : extra.filterMap (knownName? known) = [] := by
    rw [List.filterMap_eq_nil_iff]
    intro p hp
    obtain ⟨n, hName, hUnknown, _⟩ := hExtra p hp
    exact knownName?_of_unknown hName hUnknown
  refine fits_iff.mpr ⟨?_, ?_, List.disjoint_nil_right _⟩
  · intro p hp
    rcases List.mem_append.mp (hPerm.mem_iff.mp hp) with hp | hp
    · exact hAlone p hp
    · obtain ⟨n, hName, hUnknown, hOther⟩ := hExtra p hp
      refine ⟨n, hName, ?_⟩
      rw [hUnknown]
      exact hOther
  · rw [(hPerm.filterMap _).nodup_iff, List.filterMap_append, hNone, List.append_nil]
    exact hNodup

theorem find?_perm_append (h : Fits known other levels [] ms) (hExtra : AllOther known other extra)
    (hPerm : ms'.Perm (ms ++ extra)) {m : Member α} (hKnown : known.find? (·.name == n) = some m) :
    find? n ms' = find? n ms := by
  have hFits := h.perm_append hExtra hPerm
  refine Option.ext fun o => ?_
  rw [hFits.find?_eq_some_iff hKnown, h.find?_eq_some_iff hKnown]
  constructor
  · rintro ⟨t, hMem, hName⟩
    rcases List.mem_append.mp (hPerm.mem_iff.mp hMem) with hMem | hMem
    · exact ⟨t, hMem, hName⟩
    · obtain ⟨k, hName', hUnknown, _⟩ := hExtra _ hMem
      obtain rfl := Except.ok.inj (hName.symm.trans hName')
      rw [hKnown] at hUnknown
      cases hUnknown
  · rintro ⟨t, hMem, hName⟩
    exact ⟨t, hPerm.mem_iff.mpr (List.mem_append_left _ hMem), hName⟩

theorem get_absorb_congr (hKnown : Independent known) {seen seen' : List String} {a b b' : α}
    (h : absorb known other levels seen a ms = .ok b)
    (h' : absorb known other levels seen' a ms' = .ok b') {m : Member α} (hm : m ∈ known)
    (hSame : find? m.name ms' = find? m.name ms) : m.get b' = m.get b := by
  cases hFound : find? m.name ms with
  | none =>
    rw [get_of_absorb hKnown h' hm (hSame.trans hFound), get_of_absorb hKnown h hm hFound]
  | some o =>
    have hAfter := decode_of_absorb hKnown h' hm (hSame.trans hFound)
    exact Except.ok.inj (hAfter.symm.trans (decode_of_absorb hKnown h hm hFound))

theorem absorb_perm_append (hKnown : Independent known) {a b : α}
    (h : absorb known other levels [] a ms = .ok b) (hExtra : AllOther known other extra)
    (hPerm : ms'.Perm (ms ++ extra)) :
    ∃ b', absorb known other levels [] a ms' = .ok b' ∧ ∀ m ∈ known, m.get b' = m.get b := by
  have hFits := fits_of_absorb h
  obtain ⟨b', hb'⟩ := absorb_of_fits (hFits.perm_append hExtra hPerm) a
  refine ⟨b', hb', ?_⟩
  intro m hm
  exact get_absorb_congr hKnown h hb' hm
    (find?_perm_append hFits hExtra hPerm (find?_member hKnown.nodup hm))

section

variable {before after : List (Text × Outline)} {x x' : Outline}

theorem find?_replace_of_ne (hName : t.content = .ok n) {k : String} (hNe : k ≠ n) :
    find? k (before ++ (t, x') :: after) = find? k (before ++ (t, x) :: after) := by
  induction before with
  | nil => simp [find?_cons, Text.spells_of_content hName, Ne.symm hNe]
  | cons p before ih =>
    obtain ⟨u, y⟩ := p
    simp only [List.cons_append, find?_cons, ih]

theorem Fits.replace (h : Fits known other levels [] (before ++ (t, x) :: after))
    (hNew : FitsAlone known other levels (t, x')) :
    Fits known other levels [] (before ++ (t, x') :: after) := by
  obtain ⟨hAlone, hNodup, hSeen⟩ := fits_iff.mp h
  have hNames : (before ++ (t, x') :: after).filterMap (knownName? known) =
      (before ++ (t, x) :: after).filterMap (knownName? known) := by
    have hName : knownName? known (t, x') = knownName? known (t, x) := rfl
    simp only [List.filterMap_append, List.filterMap_cons, hName]
  rw [List.forall_mem_append, List.forall_mem_cons] at hAlone
  obtain ⟨hBefore, _, hAfter⟩ := hAlone
  refine fits_iff.mpr ⟨?_, hNames ▸ hNodup, hNames ▸ hSeen⟩
  rw [List.forall_mem_append, List.forall_mem_cons]
  exact ⟨hBefore, hNew, hAfter⟩

theorem absorb_replace (hKnown : Independent known) {a b : α}
    (h : absorb known other levels [] a (before ++ (t, x) :: after) = .ok b) {m : Member α}
    (hm : m ∈ known) (hName : t.content = .ok m.name) {v : m.Content}
    (hValue : m.codec.decode levels x' = .ok v) :
    ∃ b', absorb known other levels [] a (before ++ (t, x') :: after) = .ok b' ∧ m.get b' = v ∧
      ∀ k ∈ known, k.name ≠ m.name → k.get b' = k.get b := by
  have hNew : FitsAlone known other levels (t, x') := by
    refine ⟨_, hName, ?_⟩
    rw [find?_member hKnown.nodup hm]
    exact ⟨v, hValue⟩
  obtain ⟨b', hb'⟩ := absorb_of_fits ((fits_of_absorb h).replace hNew) a
  refine ⟨b', hb', ?_, ?_⟩
  · have hGet := decode_of_mem hKnown hb' hm List.mem_append_cons_self hName
    exact Except.ok.inj (hGet.symm.trans hValue)
  · intro k hk hNe
    exact get_absorb_congr hKnown h hb' hk (find?_replace_of_ne hName hNe)

theorem absorb_replace_of_unknown (hKnown : Independent known) {a b : α}
    (h : absorb known other levels [] a (before ++ (t, x) :: after) = .ok b)
    (hName : t.content = .ok n) (hUnknown : known.find? (·.name == n) = none)
    (hOther : other x' = .ok ()) :
    ∃ b', absorb known other levels [] a (before ++ (t, x') :: after) = .ok b' ∧
      ∀ m ∈ known, m.get b' = m.get b := by
  have hNew : FitsAlone known other levels (t, x') := by
    refine ⟨n, hName, ?_⟩
    rw [hUnknown]
    exact hOther
  obtain ⟨b', hb'⟩ := absorb_of_fits ((fits_of_absorb h).replace hNew) a
  refine ⟨b', hb', ?_⟩
  intro m hm
  have hNe : m.name ≠ n := by
    rintro rfl
    rw [find?_member hKnown.nodup hm] at hUnknown
    cases hUnknown
  exact get_absorb_congr hKnown h hb' hm (find?_replace_of_ne hName hNe)

end

end Record

end Redfish.Json
