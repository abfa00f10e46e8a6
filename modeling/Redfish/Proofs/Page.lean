import Redfish.Collection
import Redfish.Proofs.Json.Shown

/-!
# The text of a page

A page shows its identity and its name, links to its members, a count of them and a link to the next
page. Any of these may be missing. A document is read as a page exactly if it shows these and nothing
else under their names.
-/

namespace Redfish

open Json

/-- A text. One that is missing is empty. -/
inductive IsText : Option Outline → String → Prop
  | absent : IsText none ""
  | text {t : Text} {s : String} (h : t.content = .ok s) : IsText (some (.text t)) s

/-- A text that may be missing or null. -/
inductive IsTextOrNull : Option Outline → Option String → Prop
  | absent : IsTextOrNull none none
  | null : IsTextOrNull (some (.word .null none)) none
  | text {t : Text} {s : String} (h : t.content = .ok s) : IsTextOrNull (some (.text t)) (some s)

/-- A natural number of 64 bits that may be missing or null. -/
inductive IsCount : Option Outline → Prop
  | absent : IsCount none
  | null : IsCount (some (.word .null none))
  | number {n : Numeral} {i : Int} (h : n.value = .ok (.integer i)) (hNatural : 0 ≤ i)
      (hBound : i < UInt64.size) : IsCount (some (.number n))

def IsLink (o : Outline) (uri : String) : Prop :=
  ∃ shown, Shows ["@odata.id"] o shown ∧ IsText (shown "@odata.id") uri

/-- An array of links to these URIs. One that is missing is empty. -/
inductive AreLinks : Option Outline → List String → Prop
  | absent : AreLinks none []
  | array {items : List Outline} {uris : List String} (h : List.Forall₂ IsLink items uris) :
      AreLinks (some (.array items none)) uris

/-- A document that is a page with these members and this link to the next page. -/
inductive IsPage (bs : Bytes) (uris : List String) (next : Option String) : Prop
  | intro {o : Outline} {rest : Bytes} {shown : String → Option Outline}
      (hRead : Outline.read bs = (o, some rest)) (hEnd : Outline.skipBlanks rest = [])
      (hShown : Shows
        ["@odata.id", "Name", "Members", "Members@odata.count", "Members@odata.nextLink"] o shown)
      (hId : ∃ id, IsText (shown "@odata.id") id) (hName : ∃ name, IsText (shown "Name") name)
      (hMembers : AreLinks (shown "Members") uris) (hCount : IsCount (shown "Members@odata.count"))
      (hNext : IsTextOrNull (shown "Members@odata.nextLink") next)

section

variable {levels inner : Nat} {o : Outline} {x : Option Outline}

theorem decodesTo_text_iff {s : String} : DecodesTo Codec.decode levels "" x s ↔ IsText x s := by
  constructor
  · intro h
    cases x with
    | none =>
      obtain rfl : s = "" := h
      exact .absent
    | some o =>
      cases o with
      | text t => exact .text h
      | word | number | array | object | missing => cases h
  · rintro (_ | h)
    · rfl
    · exact h

theorem decodesTo_textOrNull_iff {s : Option String} :
    DecodesTo Codec.decode levels none x s ↔ IsTextOrNull x s := by
  constructor
  · intro h
    cases x with
    | none =>
      obtain rfl : s = none := h
      exact .absent
    | some o =>
      cases o with
      | word w flaw =>
        cases w with
        | null =>
          obtain ⟨⟨⟩, hFlaw, h⟩ := bind_eq_ok_iff.mp h
          obtain rfl := (refuse_eq_ok_iff flaw).mp hFlaw
          obtain rfl := Except.ok.inj h
          exact .null
        | yes | no => cases h
      | text t =>
        obtain ⟨r, hContent, rfl⟩ := map_eq_ok_iff.mp h
        exact .text hContent
      | number | array | object | missing => cases h
  · rintro (_ | _ | h)
    · rfl
    · rfl
    · exact map_eq_ok_iff.mpr ⟨_, h, rfl⟩

theorem exists_natural_iff {bound : Nat} : (∃ k, Decoder.natural bound levels o = .ok k) ↔
    ∃ n i, o = .number n ∧ n.value = .ok (.integer i) ∧ 0 ≤ i ∧ i < bound := by
  constructor
  · rintro ⟨k, h⟩
    obtain ⟨v, hNumber, h⟩ := bind_eq_ok_iff.mp h
    cases o with
    | number n =>
      cases v with
      | integer i =>
        dsimp only at h
        split at h
        · rename_i hBound
          exact ⟨n, i, rfl, hNumber, hBound⟩
        · cases h
      | real => cases h
    | word | text | array | object | missing => cases hNumber
  · rintro ⟨n, i, rfl, hValue, hBound⟩
    exact ⟨i.toNat, bind_eq_ok_iff.mpr ⟨_, hValue, if_pos hBound⟩⟩

theorem exists_decodesTo_count_iff :
    (∃ v : Option UInt64, DecodesTo Codec.decode levels none x v) ↔ IsCount x := by
  constructor
  · rintro ⟨v, h⟩
    cases x with
    | none => exact .absent
    | some o =>
      cases o with
      | word w flaw =>
        cases w with
        | null =>
          obtain ⟨⟨⟩, hFlaw, _⟩ := bind_eq_ok_iff.mp h
          obtain rfl := (refuse_eq_ok_iff flaw).mp hFlaw
          exact .null
        | yes | no => cases h
      | number n =>
        obtain ⟨_, hCount, _⟩ := map_eq_ok_iff.mp h
        obtain ⟨k, hNatural, _⟩ := map_eq_ok_iff.mp hCount
        obtain ⟨m, i, hNumber, hValue, hBound⟩ := exists_natural_iff.mp ⟨k, hNatural⟩
        obtain rfl := Outline.number.inj hNumber
        exact .number hValue hBound.1 hBound.2
      | text | array | object | missing => cases h
  · rintro (_ | _ | ⟨hValue, hNatural, hBound⟩)
    · exact ⟨none, rfl⟩
    · exact ⟨none, rfl⟩
    · rename_i n i
      obtain ⟨k, hk⟩ : ∃ k, Decoder.natural UInt64.size levels (.number n) = .ok k :=
        exists_natural_iff.mpr ⟨n, i, rfl, hValue, hNatural, hBound⟩
      exact ⟨_, map_eq_ok_iff.mpr ⟨_, map_eq_ok_iff.mpr ⟨k, hk, rfl⟩, rfl⟩⟩

namespace Link

theorem independent : Record.Independent (Record.members (α := Link)) := by
  apply Record.independent_of_pairwise
  · decide
  · simp [Record.members, Member.always]
  · simp [Record.members]

instance : LawfulRecord Link := ⟨independent, fun _ _ h => congrArg mk (h _ (List.mem_singleton_self _))⟩

theorem decode_eq_ok_iff (hInner : deeper levels = .ok inner) (l : Link) :
    (Codec.decode : Decoder Link) levels o = .ok l ↔ IsLink o l.uri := by
  refine (Record.decode_eq_ok_iff hInner).trans ?_
  unfold IsLink
  apply exists_congr
  intro shown
  apply and_congr_right
  intro _
  have hUri : DecodesTo Codec.decode inner "" (shown "@odata.id") l.uri ↔
      IsText (shown "@odata.id") l.uri := decodesTo_text_iff
  exact List.forall_mem_singleton.trans hUri

end Link

theorem Decoder.items_eq_ok_iff {d : Decoder β} {items : List Outline} {bs : List β} :
    Decoder.items d levels items = .ok bs ↔ List.Forall₂ (fun o b => d levels o = .ok b) items bs := by
  induction items generalizing bs with
  | nil =>
    rw [List.forall₂_nil_left_iff]
    exact ⟨fun h => (Except.ok.inj h).symm, fun h => congrArg Except.ok h.symm⟩
  | cons o items ih =>
    rw [List.forall₂_cons_left_iff]
    constructor
    · intro h
      obtain ⟨b, hb, h⟩ := bind_eq_ok_iff.mp h
      obtain ⟨rest, hRest, h⟩ := bind_eq_ok_iff.mp h
      exact ⟨b, rest, hb, ih.mp hRest, (Except.ok.inj h).symm⟩
    · rintro ⟨b, rest, hb, hRest, rfl⟩
      exact bind_eq_ok_iff.mpr ⟨b, hb, bind_eq_ok_iff.mpr ⟨rest, ih.mpr hRest, rfl⟩⟩

theorem decodesTo_links_iff (hInner : deeper levels = .ok inner) {next : Nat}
    (hNext : deeper inner = .ok next) {links : List Link} :
    DecodesTo Codec.decode levels [] x links ↔ AreLinks x (links.map (·.uri)) := by
  have hItems : ∀ items, Decoder.items Codec.decode inner items = .ok links ↔
      List.Forall₂ IsLink items (links.map (·.uri)) := by
    intro items
    rw [Decoder.items_eq_ok_iff, List.forall₂_map_right_iff]
    simp only [Link.decode_eq_ok_iff hNext]
  constructor
  · intro h
    cases x with
    | none =>
      obtain rfl : links = [] := h
      exact .absent
    | some o =>
      cases o with
      | array items flaw =>
        obtain ⟨_, hDeeper, h⟩ := bind_eq_ok_iff.mp h
        obtain rfl := Except.ok.inj (hInner.symm.trans hDeeper)
        obtain ⟨read, hRead, h⟩ := bind_eq_ok_iff.mp h
        obtain ⟨⟨⟩, hFlaw, h⟩ := bind_eq_ok_iff.mp h
        obtain rfl := Except.ok.inj h
        obtain rfl := (refuse_eq_ok_iff flaw).mp hFlaw
        exact .array ((hItems items).mp hRead)
      | word | number | text | object | missing => cases h
  · intro h
    generalize hUris : links.map (·.uri) = uris at h
    cases h with
    | absent => exact List.map_eq_nil_iff.mp hUris
    | @array items _ h =>
      subst hUris
      refine bind_eq_ok_iff.mpr ⟨inner, hInner, bind_eq_ok_iff.mpr ⟨links, (hItems items).mpr h, ?_⟩⟩
      rfl

end

namespace Collection

theorem independent : Record.Independent (Record.members (α := Collection)) := by
  apply Record.independent_of_pairwise
  · decide
  · simp [Record.members, Member.always, Member.optional]
  · simp [Record.members, Member.always, Member.optional]

theorem eq_of_members {c d : Collection}
    (h : ∀ m ∈ Record.members (α := Collection), m.get c = m.get d) : c = d := by
  simp only [Record.members, List.forall_mem_cons] at h
  obtain ⟨hId, hName, hMembers, hCount, hNext, _⟩ := h
  cases c
  cases d
  simp_all [Member.always, Member.optional]

instance : LawfulRecord Collection := ⟨independent, fun _ _ => eq_of_members⟩

end Collection

theorem Json.Decoder.run_eq_ok_iff {d : Decoder β} {bs : Bytes} {b : β} : d.run bs = .ok b ↔
    ∃ o rest, Outline.read bs = (o, some rest) ∧ Outline.skipBlanks rest = [] ∧
      d Decoder.levels o = .ok b := by
  unfold Decoder.run
  rcases Outline.read bs with ⟨o, rest⟩
  constructor
  · intro h
    obtain ⟨a, ha, h⟩ := bind_eq_ok_iff.mp h
    cases rest with
    | none => cases h
    | some rest =>
      dsimp only at h
      split at h
      · rename_i hEnd
        obtain rfl := Except.ok.inj h
        exact ⟨o, rest, rfl, hEnd, ha⟩
      · cases h
  · rintro ⟨_, _, hRead, hEnd, hb⟩
    obtain ⟨rfl, rfl⟩ := Prod.mk.inj hRead
    refine bind_eq_ok_iff.mpr ⟨b, hb, ?_⟩
    exact if_pos hEnd

/-- The documents that are read as pages are the pages. -/
theorem isPage_iff {bs : Bytes} {uris : List String} {next : Option String} :
    IsPage bs uris next ↔
      ∃ c, Collection.ofBytes bs = .ok c ∧ c.memberUris = uris ∧ c.nextLink = next := by
  have hInner : deeper Decoder.levels = .ok 127 := rfl
  constructor
  · rintro ⟨hRead, hEnd, hShown, ⟨id, hId⟩, ⟨name, hName⟩, hMembers, hCount, hNext⟩
    obtain ⟨count, hCount⟩ : ∃ v : Option UInt64, DecodesTo Codec.decode 127 none _ v :=
      exists_decodesTo_count_iff.mpr hCount
    let links : List Link := uris.map fun uri => ⟨uri⟩
    have hUris : links.map (·.uri) = uris := by
      rw [List.map_map]
      exact List.map_id uris
    rw [← hUris] at hMembers
    refine ⟨⟨id, name, links, count, next⟩, ?_, hUris, rfl⟩
    refine Decoder.run_eq_ok_iff.mpr ⟨_, _, hRead, hEnd, (Record.decode_eq_ok_iff hInner).mpr ?_⟩
    refine ⟨_, hShown, ?_⟩
    simp only [Record.Matches, Record.members, List.forall_mem_cons]
    exact ⟨decodesTo_text_iff.mpr hId, decodesTo_text_iff.mpr hName,
      (decodesTo_links_iff rfl rfl).mpr hMembers, hCount, decodesTo_textOrNull_iff.mpr hNext,
      List.forall_mem_nil _⟩
  · rintro ⟨c, hRead, rfl, rfl⟩
    obtain ⟨o, rest, hRead, hEnd, hDecode⟩ := Decoder.run_eq_ok_iff.mp hRead
    obtain ⟨shown, hShown, hMatches⟩ := (Record.decode_eq_ok_iff hInner).mp hDecode
    simp only [Record.Matches, Record.members, List.forall_mem_cons] at hMatches
    obtain ⟨hId, hName, hMembers, hCount, hNext, _⟩ := hMatches
    exact ⟨hRead, hEnd, hShown, ⟨_, decodesTo_text_iff.mp hId⟩, ⟨_, decodesTo_text_iff.mp hName⟩,
      (decodesTo_links_iff rfl rfl).mp hMembers, exists_decodesTo_count_iff.mp ⟨_, hCount⟩,
      decodesTo_textOrNull_iff.mp hNext⟩

end Redfish
