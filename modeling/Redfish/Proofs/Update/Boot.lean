import Redfish.Proofs.Json.Preserved
import Redfish.Schema.Boot
import Redfish.Update

/-!
# Amending boot settings

Of boot settings only the members that are new or differ are sent. Put into the settings that they were
compared with, they make them the new settings, except that nothing can be sent for what the new ones
leave out.
-/

namespace Redfish

open Json

instance : LawfulEnumeration BootSourceOverrideEnabled := ⟨fun a => by cases a <;> rfl⟩

instance : LawfulEnumeration BootSource := ⟨fun a => by cases a <;> rfl⟩

instance : LawfulEnumeration BootSourceOverrideMode := ⟨fun a => by cases a <;> rfl⟩

structure Json.Member.Faithful (m : Member α) : Prop where
  reads_back : ∀ levels v, 1 < levels → m.omitted v = false →
    m.codec.decode levels (m.codec.encode v).exactOutline = .ok v
  injective : ∀ v w, m.omitted v = false → m.omitted w = false →
    (m.codec.encode v == m.codec.encode w) = true → v = w

namespace Json.Member

theorem faithful_enumeration [DecidableEq β] [Enumeration β] [LawfulEnumeration β] (name : String)
    (get : α → Option β) (set : Option β → α → α) :
    letI : Codec β := Enumeration.codec
    (Member.optional name get set).Faithful := by
  let _ : Codec β := Enumeration.codec
  constructor
  · intro levels v _ hWritten
    cases v with
    | none => cases hWritten
    | some b => exact Codec.roundTrips_some Value.noConfusion (roundTrips_enumeration levels b)
  · intro v w hv hw hEqual
    cases v with
    | none => cases hv
    | some b =>
      cases w with
      | none => cases hw
      | some b' => exact congrArg some (name_injective (eq_of_beq hEqual))

theorem texts_injective {as bs : List String}
    (h : itemsBeq (as.map Value.text) (bs.map Value.text) = true) : as = bs := by
  induction as generalizing bs with
  | nil =>
    cases bs with
    | nil => rfl
    | cons => cases h
  | cons a as ih =>
    cases bs with
    | nil => cases h
    | cons b bs =>
      obtain ⟨hFirst, hRest⟩ := Bool.and_eq_true_iff.mp h
      rw [eq_of_beq hFirst, ih hRest]

theorem faithful_texts (name : String) (get : α → List String) (set : List String → α → α) :
    (Member.listed name get set).Faithful where
  reads_back levels _ hLevels _ :=
    Codec.roundTrips_list hLevels fun s _ => Codec.roundTrips_text (levels - 1) s
  injective _ _ _ _ h := texts_injective h

end Json.Member

namespace Boot

theorem independent : Record.Independent (Record.members (α := Boot)) := by
  apply Record.independent_of_pairwise
  · decide
  · simp [Record.members, Member.optional, Member.listed]
  · simp [Record.members, Member.optional, Member.listed]

theorem faithful : ∀ m ∈ Record.members (α := Boot), m.Faithful := by
  simp only [Record.members, List.forall_mem_cons]
  refine ⟨?_, ?_, ?_, ?_, nofun⟩
  · exact Member.faithful_enumeration ..
  · exact Member.faithful_enumeration ..
  · exact Member.faithful_enumeration ..
  · exact Member.faithful_texts ..

theorem eq_of_members {a b : Boot} (h : ∀ m ∈ Record.members (α := Boot), m.get a = m.get b) :
    a = b := by
  simp only [Record.members, List.forall_mem_cons] at h
  obtain ⟨hEnabled, hTarget, hMode, hOrder, _⟩ := h
  cases a
  cases b
  simp_all [Member.optional, Member.listed]

instance : LawfulRecord Boot := ⟨independent, fun _ _ => eq_of_members⟩

theorem preserves_member (depth : Nat) (b : Boot) :
    ∀ m ∈ Record.members (α := Boot), m.Preserves (depth + 1) b := by
  simp only [Record.members, List.forall_mem_cons]
  refine ⟨?_, ?_, ?_, ?_, nofun⟩
  · exact Member.preserves_optional Codec.preserves_enumeration rfl
  · exact Member.preserves_optional Codec.preserves_enumeration rfl
  · exact Member.preserves_optional Codec.preserves_enumeration rfl
  · exact Member.preserves_listed Codec.preserves_text rfl

theorem preserves {depth : Nat} (b : Boot) : Codec.Preserves (depth + 2) b :=
  Record.preserves (preserves_member depth b)

/-- The settings of `c`, and those of `o` that `c` leaves out. -/
def overlay (o c : Boot) : Boot where
  overrideEnabled := c.overrideEnabled.or o.overrideEnabled
  overrideTarget := c.overrideTarget.or o.overrideTarget
  overrideMode := c.overrideMode.or o.overrideMode
  order := if c.order.isEmpty then o.order else c.order

theorem get_overlay (o c : Boot) : ∀ m ∈ Record.members (α := Boot),
    m.get (o.overlay c) = if m.omitted (m.get c) then m.get o else m.get c := by
  have hOr : ∀ {β : Type} (new old : Option β), new.or old = if new.isNone then old else new := by
    intro β new old
    cases new <;> rfl
  simp only [Record.members, List.forall_mem_cons]
  exact ⟨hOr _ _, hOr _ _, hOr _ _, rfl, nofun⟩

theorem overlay_self (o : Boot) : o.overlay o = o := by
  apply eq_of_members
  intro m hm
  rw [get_overlay o o m hm, ite_self]

/-- What is sent to make the settings `o` the settings `c`. -/
def sent (o c : Boot) : Object :=
  (Table.ofList (Record.written c)).filter fun m =>
    !(Table.get? (Table.ofList (Record.written o)) m.1 == some m.2)

theorem changedMembers_encode (o c : Boot) :
    changedMembers (Codec.encode o) (Codec.encode c) = .object (o.sent c) := rfl

theorem sorted_sent (o c : Boot) : (o.sent c).Sorted := (Table.sorted_ofList _).filter _

theorem get?_sent (o c : Boot) (n : String) (v : Value) :
    (o.sent c).get? n = some v ↔ Table.get? (Table.ofList (Record.written c)) n = some v ∧
      (Table.get? (Table.ofList (Record.written o)) n == some v) = false := by
  rw [sent, (Table.sorted_ofList _).get?_filter, Bool.not_eq_true']

theorem get_of_not_sent {o c : Boot} {m : Member Boot} (hm : m ∈ Record.members (α := Boot))
    (hSent : (o.sent c).get? m.name = none) (hWritten : m.omitted (m.get c) = false) :
    m.get o = m.get c := by
  have hNew := Record.get?_written_name independent.nodup c hm
  have hOld := Record.get?_written_name independent.nodup o hm
  rw [if_neg (Bool.eq_false_iff.mp hWritten)] at hNew
  have hSame : (Table.get? (Table.ofList (Record.written o)) m.name ==
      some (m.codec.encode (m.get c))) = true := by
    rw [← Bool.not_eq_false]
    intro hDiffer
    rw [(get?_sent o c _ _).mpr ⟨hNew, hDiffer⟩] at hSent
    cases hSent
  rw [hOld] at hSame
  split at hSame
  · cases hSame
  · rename_i hPresent
    exact (faithful m hm).injective _ _ (Bool.eq_false_iff.mpr hPresent) hWritten hSame

theorem sent_eq_some {o c : Boot} {n : String} {v : Value} (h : (o.sent c).get? n = some v) :
    ∃ m ∈ Record.members (α := Boot), m.name = n ∧ m.omitted (m.get c) = false ∧
      m.codec.encode (m.get c) = v :=
  (Record.get?_written independent.nodup c n v).mp ((get?_sent o c n v).mp h).1

/-- Settings put in place by what was sent for them are read as the new ones. -/
theorem decode_amended {arrives : Value → Outline} (hArrives : KeepsCanonical arrives) {levels : Nat}
    (hLevels : 2 < levels) {ms : List (Text × Outline)} {close : Close} {o : Boot}
    (h : Record.decode levels (.object ms close) = .ok o) (c : Boot) :
    Record.decode levels (.object (Members.amend (fun v _ => arrives v) (o.sent c) ms) close) =
      .ok (o.overlay c) := by
  obtain ⟨inner, hInner, hAbsorb, hClose⟩ := Record.decode_object_iff.mp h
  have hDeep : 1 < inner := by
    unfold deeper at hInner
    split at hInner
    · omega
    · cases hInner
      omega
  have hReads : ∀ n v, (o.sent c).get? n = some v → ∃ m ∈ Record.members (α := Boot), m.name = n ∧
      m.omitted (m.get c) = false ∧ m.codec.decode inner (arrives v) = .ok (m.get c) := by
    intro n v hv
    obtain ⟨m, hm, hName, hWritten, rfl⟩ := sent_eq_some hv
    refine ⟨m, hm, hName, hWritten, ?_⟩
    rw [hArrives ((preserves_member 0 c m hm).canonical hWritten (by decide : 1 < 2))]
    exact (faithful m hm).reads_back inner _ hDeep hWritten
  obtain ⟨b, hb, hMembers⟩ := Record.absorb_amend independent (fun v _ => arrives v)
    (sorted_sent o c).nodup hAbsorb (fun n v hv => by
      obtain ⟨m, hm, rfl, _, hRead⟩ := hReads n v hv
      exact ⟨m, Record.find?_member independent.nodup hm, _, hRead⟩)
  have hOverlay : b = o.overlay c := by
    apply eq_of_members
    intro m hm
    rw [get_overlay o c m hm]
    cases hSent : (o.sent c).get? m.name with
    | none =>
      rw [(hMembers m hm).1 hSent]
      split
      · rfl
      · rename_i hWritten
        exact get_of_not_sent hm hSent (Bool.eq_false_iff.mpr hWritten)
    | some v =>
      obtain ⟨k, hk, hName, hWritten, hRead⟩ := hReads _ _ hSent
      obtain rfl := Record.eq_of_name_eq independent.nodup hk hm hName
      rw [if_neg (Bool.eq_false_iff.mp hWritten)]
      exact Except.ok.inj (((hMembers k hm).2 v hSent).symm.trans hRead)
  rw [← hOverlay]
  exact Record.decode_object_iff.mpr ⟨inner, hInner, hb, hClose⟩

theorem enumeration_beq_self [DecidableEq β] [Enumeration β] (v : Option β) :
    letI : Codec β := Enumeration.codec
    (Codec.encode v == Codec.encode v) = true := by
  cases v with
  | none => rfl
  | some b => exact beq_self_eq_true (Enumeration.name b)

theorem encode_beq_self : ∀ m ∈ Record.members (α := Boot), ∀ b : Boot,
    (m.codec.encode (m.get b) == m.codec.encode (m.get b)) = true := by
  simp only [Record.members, List.forall_mem_cons]
  refine ⟨?_, ?_, ?_, ?_, nofun⟩
  · exact fun b => enumeration_beq_self b.overrideEnabled
  · exact fun b => enumeration_beq_self b.overrideTarget
  · exact fun b => enumeration_beq_self b.overrideMode
  · exact fun b => itemsBeq_self (List.forall_mem_map.mpr fun s _ => beq_self_eq_true s)

theorem sent_eq_nil_iff (o c : Boot) : o.sent c = [] ↔ o.overlay c = o := by
  constructor
  · intro hNil
    apply eq_of_members
    intro m hm
    rw [get_overlay o c m hm]
    split
    · rfl
    · rename_i hWritten
      refine (get_of_not_sent hm ?_ (Bool.eq_false_iff.mpr hWritten)).symm
      rw [hNil]
      rfl
  · intro hSame
    rw [List.eq_nil_iff_forall_not_mem]
    rintro ⟨n, v⟩ hMem
    have hSent := (sorted_sent o c).get?_eq_some_iff n v |>.mpr hMem
    obtain ⟨hNew, hOld⟩ := (get?_sent o c n v).mp hSent
    obtain ⟨m, hm, rfl, hWritten, rfl⟩ := sent_eq_some hSent
    have hGet := get_overlay o c m hm
    rw [hSame, hWritten, if_neg Bool.false_ne_true] at hGet
    rw [Record.get?_written_name independent.nodup o hm, hGet, hWritten,
      if_neg Bool.false_ne_true] at hOld
    exact absurd (encode_beq_self m hm c) (Bool.eq_false_iff.mp hOld)

end Boot

end Redfish
