import Redfish.Proofs.Json.Place

/-!
# What a text shows of a record

The text of a record is an object, in which each member stands under its name, or an array, in which
each has its place. Either way a reader finds under each name a value or nothing. The text is read
exactly if each value can be, and the record then holds what the values say.
-/

namespace Redfish.Json

def itemOf (names : List String) (items : List Outline) (n : String) : Option Outline :=
  items[names.idxOf n]?

/-- What a text holds for members of these names, in their order. What else stands in an object has to
keep to the grammar alone. -/
inductive Shows (names : List String) : Outline → (String → Option Outline) → Prop
  | object {ms : List (Text × Outline)}
      (hNames : ∀ p ∈ ms, ∃ n, p.1.content = .ok n ∧ (n ∉ names → p.2.flaw? = none))
      (hOnce : ∀ n ∈ names, ms.countP (·.1.spells n) ≤ 1) :
      Shows names (.object ms .closed) (Members.find? · ms)
  | array {items : List Outline} (hLength : items.length ≤ names.length) :
      Shows names (.array items none) (itemOf names items)

theorem Shows.unique {names : List String} {o : Outline} {shown shown' : String → Option Outline}
    (h : Shows names o shown) (h' : Shows names o shown') : shown = shown' := by
  cases h <;> cases h' <;> rfl

theorem skip_eq_ok_iff (o : Outline) : o.skip = .ok () ↔ o.flaw? = none := by
  unfold Outline.skip refuse
  cases o.flaw? <;> simp

theorem refuse_eq_ok_iff (flaw : Option Fault) : refuse flaw = .ok () ↔ flaw = none := by
  cases flaw <;> simp [refuse]

theorem Close.check_eq_ok_iff (close : Close) : close.check = .ok () ↔ close = .closed := by
  cases close <;> simp [Close.check]

theorem Members.find?_of_countP_le_one {ms : List (Text × Outline)} {n : String}
    (hOnce : ms.countP (·.1.spells n) ≤ 1) {p : Text × Outline} (hp : p ∈ ms)
    (hName : p.1.content = .ok n) : find? n ms = some p.2 := by
  induction ms with
  | nil => cases hp
  | cons q ms ih =>
    obtain ⟨t, o⟩ := q
    rw [find?_cons]
    by_cases hFirst : t.spells n = true
    · rw [if_pos hFirst]
      have hRestOnce : ms.countP (·.1.spells n) + 1 ≤ 1 := by
        rwa [← List.countP_cons_of_pos (p := (·.1.spells n)) (a := (t, o)) hFirst]
      rcases List.mem_cons.mp hp with rfl | hRest
      · rfl
      · have hCount : 0 < ms.countP (·.1.spells n) :=
          List.countP_pos_iff.mpr ⟨p, hRest, (p.1.spells_iff n).mpr hName⟩
        omega
    · rw [if_neg hFirst]
      have hRestOnce : ms.countP (·.1.spells n) ≤ 1 := by
        rwa [← List.countP_cons_of_neg (p := (·.1.spells n)) (a := (t, o)) hFirst]
      rcases List.mem_cons.mp hp with rfl | hRest
      · exact absurd ((t.spells_iff n).mpr hName) hFirst
      · exact ih hRestOnce hRest

/-- A value is what was decoded, or the blank one where there is nothing to decode. -/
def DecodesTo (d : Decoder β) (levels : Nat) (blank : β) : Option Outline → β → Prop
  | some o, b => d levels o = .ok b
  | none, b => b = blank

theorem DecodesTo.unique {d : Decoder β} {levels : Nat} {blank b b' : β} {x : Option Outline}
    (h : DecodesTo d levels blank x b) (h' : DecodesTo d levels blank x b') : b = b' := by
  cases x with
  | some o => exact Except.ok.inj (Eq.trans (Eq.symm h) h')
  | none => exact Eq.trans h (Eq.symm h')

namespace Record

open Members

variable {known : List (Member α)} {levels : Nat}

def Matches (known : List (Member α)) (levels : Nat) (blank : α) (shown : String → Option Outline)
    (a : α) : Prop :=
  ∀ m ∈ known, DecodesTo m.codec.decode levels (m.get blank) (shown m.name) (m.get a)

theorem isSome_find?_iff (n : String) :
    (known.find? (·.name == n)).isSome = true ↔ n ∈ known.map (·.name) := by
  rw [List.find?_isSome, List.mem_map]
  simp only [beq_iff_eq]

theorem knownName?_eq_some_iff (p : Text × Outline) (n : String) :
    knownName? known p = some n ↔ p.1.content = .ok n ∧ n ∈ known.map (·.name) := by
  unfold knownName?
  cases p.1.content with
  | error => exact ⟨nofun, nofun⟩
  | ok k =>
    simp only [isSome_find?_iff, Option.ite_none_right_eq_some, Option.some.injEq, Except.ok.injEq]
    constructor
    · rintro ⟨hMem, rfl⟩
      exact ⟨rfl, hMem⟩
    · rintro ⟨rfl, hMem⟩
      exact ⟨hMem, rfl⟩

theorem count_knownName? {n : String} (hn : n ∈ known.map (·.name)) (ms : List (Text × Outline)) :
    (ms.filterMap (knownName? known)).count n = ms.countP (·.1.spells n) := by
  rw [List.count_filterMap]
  apply List.countP_congr
  intro p _
  rw [beq_iff_eq, knownName?_eq_some_iff, Text.spells_iff, and_iff_left hn]

theorem nodup_knownNames_iff (ms : List (Text × Outline)) :
    (ms.filterMap (knownName? known)).Nodup ↔
      ∀ n ∈ known.map (·.name), ms.countP (·.1.spells n) ≤ 1 := by
  rw [List.nodup_iff_count_le_one]
  constructor
  · intro h n hn
    rw [← count_knownName? hn]
    exact h n
  · intro h n
    by_cases hn : n ∈ known.map (·.name)
    · rw [count_knownName? hn]
      exact h n hn
    · rw [List.count_eq_zero_of_not_mem]
      · exact Nat.zero_le 1
      · intro hMem
        obtain ⟨p, _, hp⟩ := List.mem_filterMap.mp hMem
        exact hn ((knownName?_eq_some_iff p n).mp hp).2

theorem itemOf_name (hNodup : (known.map (·.name)).Nodup) (items : List Outline) {i : Nat}
    {m : Member α} (hm : known[i]? = some m) : itemOf (known.map (·.name)) items m.name = items[i]? := by
  obtain ⟨hi, rfl⟩ := List.getElem?_eq_some_iff.mp hm
  have hIndex : i < (known.map (·.name)).length := by rwa [List.length_map]
  have hName := hNodup.idxOf_getElem i hIndex
  rw [List.getElem_map] at hName
  rw [itemOf, hName]

theorem length_le_of_absorbItems {a b : α} {items : List Outline}
    (h : absorbItems levels known a items = .ok b) : items.length ≤ known.length := by
  induction known generalizing a items with
  | nil =>
    cases items with
    | nil => exact Nat.le_refl 0
    | cons => cases h
  | cons m known ih =>
    cases items with
    | nil => exact Nat.zero_le _
    | cons o items =>
      obtain ⟨_, _, hItems⟩ := bind_eq_ok_iff.mp h
      exact Nat.succ_le_succ (ih hItems)

theorem absorbItems_of_values {items : List Outline} (hLength : items.length ≤ known.length)
    (hValues : ∀ (i : Nat) (m : Member α) (o : Outline), known[i]? = some m → items[i]? = some o →
      ∃ v, m.codec.decode levels o = .ok v) (a : α) :
    ∃ b, absorbItems levels known a items = .ok b := by
  induction known generalizing a items with
  | nil =>
    obtain rfl := List.length_eq_zero_iff.mp (Nat.le_zero.mp hLength)
    exact ⟨a, rfl⟩
  | cons m known ih =>
    cases items with
    | nil => exact ⟨a, rfl⟩
    | cons o items =>
      obtain ⟨v, hValue⟩ := hValues 0 m o rfl rfl
      obtain ⟨b, hb⟩ := ih (Nat.le_of_succ_le_succ hLength) (fun i => hValues (i + 1)) (m.set v a)
      exact ⟨b, bind_eq_ok_iff.mpr ⟨_, map_eq_ok_iff.mpr ⟨v, hValue, rfl⟩, hb⟩⟩

variable [Record α] {inner : Nat} {o : Outline} {a : α}

theorem exists_shows_of_decode (hKnown : Independent (members (α := α)))
    (hInner : deeper levels = .ok inner) (h : decode levels o = .ok a) :
    ∃ shown, Shows ((members (α := α)).map (·.name)) o shown ∧ Matches members inner blank shown a := by
  cases o with
  | object ms close =>
    obtain ⟨_, hDeeper, hAbsorb, hClose⟩ := decode_object_iff.mp h
    obtain rfl := Except.ok.inj (hInner.symm.trans hDeeper)
    obtain rfl := close.check_eq_ok_iff.mp hClose
    obtain ⟨hAlone, hNodup, _⟩ := fits_iff.mp (fits_of_absorb hAbsorb)
    refine ⟨_, .object ?_ ((nodup_knownNames_iff ms).mp hNodup), ?_⟩
    · intro p hp
      obtain ⟨n, hName, hFits⟩ := hAlone p hp
      refine ⟨n, hName, ?_⟩
      intro hUnknown
      rw [find?_eq_none_of_notMem hUnknown] at hFits
      exact (skip_eq_ok_iff p.2).mp hFits
    · intro m hm
      have hGet := get_absorb hKnown hAbsorb hm
      change DecodesTo _ _ _ (find? m.name ms) _
      cases hFound : find? m.name ms with
      | some | none =>
        rw [hFound] at hGet
        exact hGet
  | array items flaw =>
    obtain ⟨_, hDeeper, h⟩ := bind_eq_ok_iff.mp h
    obtain rfl := Except.ok.inj (hInner.symm.trans hDeeper)
    obtain ⟨b, hItems, h⟩ := bind_eq_ok_iff.mp h
    obtain ⟨⟨⟩, hFlaw, h⟩ := bind_eq_ok_iff.mp h
    obtain rfl := Except.ok.inj h
    obtain rfl := (refuse_eq_ok_iff flaw).mp hFlaw
    refine ⟨_, .array ?_, ?_⟩
    · rw [List.length_map]
      exact length_le_of_absorbItems hItems
    · intro m hm
      obtain ⟨i, hi⟩ := List.getElem?_of_mem hm
      have hGet := get_absorbItems hKnown hItems hi
      rw [itemOf_name hKnown.nodup items hi]
      cases hFound : items[i]? with
      | some | none =>
        rw [hFound] at hGet
        exact hGet
  | word | number | text | missing => cases h

theorem exists_of_shows (hKnown : Independent (members (α := α))) (hInner : deeper levels = .ok inner)
    {shown : String → Option Outline} (h : Shows ((members (α := α)).map (·.name)) o shown)
    (hValues : ∀ m ∈ members (α := α), ∀ x, shown m.name = some x →
      ∃ v, m.codec.decode inner x = .ok v) : ∃ a : α, decode levels o = .ok a := by
  cases h with
  | @object ms hNames hOnce =>
    have hFits : Fits (members (α := α)) Outline.skip inner [] ms := by
      refine fits_iff.mpr ⟨?_, (nodup_knownNames_iff ms).mpr hOnce, List.disjoint_nil_right _⟩
      intro p hp
      obtain ⟨n, hName, hSkipped⟩ := hNames p hp
      refine ⟨n, hName, ?_⟩
      cases hFound : (members (α := α)).find? (·.name == n) with
      | none =>
        refine (skip_eq_ok_iff p.2).mpr (hSkipped fun hMem => ?_)
        rw [← isSome_find?_iff, hFound] at hMem
        cases hMem
      | some m =>
        obtain ⟨hm, rfl⟩ := name_of_find? hFound
        refine hValues m hm p.2 ?_
        exact find?_of_countP_le_one (hOnce m.name (List.mem_map_of_mem hm)) hp hName
    obtain ⟨a, ha⟩ := absorb_of_fits hFits blank
    exact ⟨a, decode_object_iff.mpr ⟨inner, hInner, ha, rfl⟩⟩
  | @array items hLength =>
    rw [List.length_map] at hLength
    have hItems : ∃ a : α, absorbItems inner members blank items = .ok a := by
      refine absorbItems_of_values hLength ?_ blank
      intro i m x hm hx
      refine hValues m (List.mem_of_getElem? hm) x ?_
      rw [itemOf_name hKnown.nodup _ hm, hx]
    obtain ⟨a, ha⟩ := hItems
    exact ⟨a, bind_eq_ok_iff.mpr ⟨inner, hInner, bind_eq_ok_iff.mpr ⟨a, ha, rfl⟩⟩⟩

theorem decode_eq_ok_iff [LawfulRecord α] (hInner : deeper levels = .ok inner) :
    decode levels o = .ok a ↔
      ∃ shown, Shows ((members (α := α)).map (·.name)) o shown ∧ Matches members inner blank shown a := by
  have hKnown := LawfulRecord.independent (α := α)
  constructor
  · exact exists_shows_of_decode hKnown hInner
  · rintro ⟨shown, hShown, hMatches⟩
    obtain ⟨b, hb⟩ : ∃ b : α, decode levels o = .ok b := by
      refine exists_of_shows hKnown hInner hShown ?_
      intro m hm x hx
      have hRead := hMatches m hm
      rw [hx] at hRead
      exact ⟨_, hRead⟩
    obtain ⟨shown', hShown', hMatches'⟩ := exists_shows_of_decode hKnown hInner hb
    obtain rfl := hShown.unique hShown'
    have hSame : b = a := LawfulRecord.ext b a fun m hm => (hMatches' m hm).unique (hMatches m hm)
    rw [hb, hSame]

end Record

end Redfish.Json
