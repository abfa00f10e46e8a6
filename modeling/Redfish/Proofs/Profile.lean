import Redfish.Profile.Codec
import Redfish.Proofs.Json.Preserved

/-!
# Profiles as they are written and read

A profile is read as a draft that has to get an endpoint. A profile always has its endpoint written, so
what was written for it is a complete draft. The profiles of a file stand in an object under their names.
-/

namespace Redfish

open Json

namespace Profile

namespace Draft

theorem independent : Record.Independent (Record.members (α := Draft)) := by
  apply Record.independent_of_pairwise
  · decide
  · simp [Record.members, Member.always, Member.optional, update, setEndpoint, setUsername, setPassword,
      setCa, setInsecure, setTimeoutSecs]
  · simp [Record.members, Member.always, Member.optional, update, setEndpoint, setUsername, setPassword,
      setCa, setInsecure, setTimeoutSecs]

theorem profile_eq_of_members {a b : Draft}
    (h : ∀ m ∈ Record.members (α := Draft), m.get a = m.get b) : a.profile = b.profile := by
  simp only [Record.members, List.forall_mem_cons] at h
  obtain ⟨⟨endpoint, username, password, ca, insecure, timeoutSecs⟩, hasEndpoint⟩ := a
  simp_all [Member.always, Member.optional]

theorem preserves_member (depth : Nat) (d : Draft) :
    ∀ m ∈ Record.members (α := Draft), m.Preserves depth d := by
  simp only [Record.members, List.forall_mem_cons]
  refine ⟨?_, ?_, ?_, ?_, ?_, ?_, nofun⟩
  · exact Member.preserves_always (Codec.preserves_text _)
  · exact Member.preserves_optional Codec.preserves_text rfl
  · exact Member.preserves_optional Codec.preserves_text rfl
  · exact Member.preserves_optional Codec.preserves_text rfl
  · exact Member.preserves_always (Codec.preserves_bool _)
  · exact Member.preserves_optional Codec.preserves_uint64 rfl

theorem hasEndpoint_of_decode {levels : Nat} {d e : Draft}
    (h : Record.decode levels (Record.encode d).exactOutline = .ok e) : e.hasEndpoint = true := by
  refine Record.decode_establishes (P := fun e : Draft => e.hasEndpoint = true) independent.nodup ?_
    List.mem_cons_self (fun _ _ => rfl) rfl h
  simp only [Record.members, List.forall_mem_cons]
  exact ⟨fun _ _ _ => rfl, fun _ _ => id, fun _ _ => id, fun _ _ => id, fun _ _ => id, fun _ _ => id, nofun⟩

end Draft

theorem preserves {depth : Nat} (p : Profile) : Codec.Preserves (depth + 1) p := by
  have hMembers := Draft.preserves_member depth ⟨p, true⟩
  refine ⟨Record.nullFree_encode Draft.independent.nodup hMembers, ?_, ?_⟩
  · exact fun _ => Record.canonical_of_preserves Draft.independent.nodup hMembers
  · intro levels hLevels
    obtain ⟨d, hd, hSame⟩ := Record.decode_of_preserves Draft.independent hMembers hLevels
    -- Whether a draft has an endpoint is not among its members, so they alone do not give the draft back.
    have hProfile : d.profile = p := Draft.profile_eq_of_members hSame
    have hComplete : d.complete? = some p := by
      rw [Draft.complete?, if_pos (Draft.hasEndpoint_of_decode hd), hProfile]
    refine bind_eq_ok_iff.mpr ⟨d, hd, ?_⟩
    rw [hComplete]

end Profile

namespace ProfileFile

variable [Codec α] {depth : Nat}

theorem decodeTable_outlines {levels : Nat} {es : Table α}
    (h : ∀ e ∈ es, Codec.RoundTrips levels e.2) (t : Table α) :
    decodeTable levels t (memberOutlines (es.map fun e => (e.1, Codec.encode e.2))) =
      .ok (es.foldl (fun t e => t.put e.1 e.2) t) := by
  induction es generalizing t with
  | nil => rfl
  | cons e es ih =>
    obtain ⟨hFirst, hRest⟩ := List.forall_mem_cons.mp h
    exact bind_eq_ok_iff.mpr ⟨e.1, rfl, bind_eq_ok_iff.mpr ⟨e.2, hFirst, ih hRest (t.put e.1 e.2)⟩⟩

theorem preserves_table {t : Table α} (hSorted : t.Sorted) (h : ∀ e ∈ t, Codec.Preserves depth e.2) :
    Codec.Preserves (depth + 1) t where
  nullFree := by
    refine .object ?_
    intro m hm
    obtain ⟨e, he, rfl⟩ := List.mem_map.mp hm
    exact (h e he).nullFree
  canonical
    | levels + 2, hLevels => by
      refine .object (List.pairwise_map.mpr hSorted) ?_
      intro m hm
      obtain ⟨e, he, rfl⟩ := List.mem_map.mp hm
      exact (h e he).canonical (levels + 1) (by omega)
  reads_back levels hLevels := by
    have hTable := decodeTable_outlines (fun e he => (h e he).reads_back (levels - 1) (by omega)) []
    refine bind_eq_ok_iff.mpr ⟨levels - 1, if_neg (by omega), bind_eq_ok_iff.mpr ⟨t, ?_, rfl⟩⟩
    exact hTable.trans (congrArg Except.ok hSorted.ofList_eq)

theorem sorted_of_decodeTable {levels : Nat} {ms : List (Text × Outline)} {t u : Table α}
    (h : decodeTable levels t ms = .ok u) (hSorted : t.Sorted) : u.Sorted := by
  induction ms generalizing t with
  | nil =>
    cases h
    exact hSorted
  | cons m ms ih =>
    obtain ⟨n, _, h⟩ := bind_eq_ok_iff.mp h
    obtain ⟨a, _, h⟩ := bind_eq_ok_iff.mp h
    exact ih h (hSorted.put n a)

theorem sorted_of_table {levels : Nat} {o : Outline} {t : Table α}
    (h : Codec.decode levels o = .ok t) : t.Sorted := by
  cases o with
  | object ms close =>
    obtain ⟨inner, _, h⟩ := bind_eq_ok_iff.mp h
    obtain ⟨u, hTable, h⟩ := bind_eq_ok_iff.mp h
    obtain ⟨⟨⟩, _, h⟩ := bind_eq_ok_iff.mp h
    cases h
    exact sorted_of_decodeTable hTable List.Pairwise.nil
  | array | word | number | text | missing => cases h

/-- The profiles of a file that was read stand in the order of their names. -/
theorem sorted_of_decode {levels : Nat} {o : Outline} {f : ProfileFile}
    (h : Codec.decode levels o = .ok f) : f.profiles.Sorted := by
  refine Record.decode_invariant (P := fun f : ProfileFile => f.profiles.Sorted) ?_ List.Pairwise.nil h
  simp only [Record.members, List.forall_mem_cons]
  exact ⟨fun _ _ _ _ _ => id, fun _ _ _ hTable _ _ => sorted_of_table hTable, nofun⟩

instance : LawfulRecord ProfileFile where
  independent := by
    apply Record.independent_of_pairwise
    · decide
    · simp [Record.members, Member.always, Member.optional]
    · simp [Record.members, Member.always, Member.optional]
  ext a b h := by
    simp only [Record.members, List.forall_mem_cons] at h
    obtain ⟨hActive, hProfiles, _⟩ := h
    cases a
    cases b
    simp_all [Member.always, Member.optional]

theorem preserves {f : ProfileFile} (hSorted : f.profiles.Sorted) : Codec.Preserves (depth + 3) f := by
  apply Record.preserves
  simp only [Record.members, List.forall_mem_cons]
  refine ⟨?_, ?_, nofun⟩
  · exact Member.preserves_optional Codec.preserves_text rfl
  · exact Member.preserves_always (preserves_table hSorted fun e _ => e.2.preserves)

end ProfileFile

end Redfish
