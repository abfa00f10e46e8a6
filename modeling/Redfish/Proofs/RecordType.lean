import Redfish.Proofs.Enumeration
import Redfish.Proofs.MemoryCollection
import Redfish.Proofs.Profile
import Redfish.Proofs.ResourceType

/-!
# Records that are written and read again

Links, status objects, boot settings, profiles and profile files are read by the program and written by
it. What is written for any of them is an object without `null`, from which the same record is read.
-/

namespace Redfish

open Json

theorem Status.preserves {depth : Nat} (s : Status) : Codec.Preserves (depth + 1) s := by
  apply Record.preserves
  simp only [Record.members, List.forall_mem_cons]
  refine ⟨?_, ?_, ?_, List.forall_mem_nil _⟩
  · exact Member.preserves_optional Codec.preserves_enumeration rfl
  · exact Member.preserves_optional Codec.preserves_enumeration rfl
  · exact Member.preserves_optional Codec.preserves_enumeration rfl

inductive RecordType
  | link
  | status
  | boot
  | profile
  | profileFile
  deriving DecidableEq, Repr

namespace RecordType

@[reducible] def Carrier : RecordType → Type
  | link => Link
  | status => Status
  | boot => Boot
  | profile => Profile
  | profileFile => ProfileFile

instance codec : (t : RecordType) → Codec t.Carrier
  | link | status | boot | profile | profileFile => inferInstance

/-- The profiles of a file are a map: each name once, in increasing order. -/
def WellFormed : (t : RecordType) → t.Carrier → Prop
  | profileFile, f => f.profiles.Sorted
  | link, _ | status, _ | boot, _ | profile, _ => True

/-- The names on the wire, each with what is written under it. -/
def entries : (t : RecordType) → t.Carrier → List (String × Option Value)
  | link, l => [("@odata.id", some (.text l.uri))]
  | status, s => [
    ("State", s.state.map fun v => .text (Enumeration.name v)),
    ("Health", s.health.map fun v => .text (Enumeration.name v)),
    ("HealthRollup", s.healthRollup.map fun v => .text (Enumeration.name v))]
  | boot, b => [
    ("BootSourceOverrideEnabled", b.overrideEnabled.map fun v => .text (Enumeration.name v)),
    ("BootSourceOverrideTarget", b.overrideTarget.map fun v => .text (Enumeration.name v)),
    ("BootSourceOverrideMode", b.overrideMode.map fun v => .text (Enumeration.name v)),
    ("BootOrder", if b.order.isEmpty then none else some (.array (b.order.map .text)))]
  | profile, p => [
    ("endpoint", some (.text p.endpoint)),
    ("username", p.username.map .text),
    ("password", p.password.map .text),
    ("ca", p.ca.map .text),
    ("insecure", some (.bool p.insecure)),
    ("timeout_secs", p.timeoutSecs.map fun n => .number (.integer n.toNat))]
  | profileFile, f => [
    ("profile", f.active.map .text),
    ("profiles", some (.object (f.profiles.map fun e => (e.1, Codec.encode e.2))))]

theorem hasMembers_encode (t : RecordType) (a : t.Carrier) :
    (Codec.encode a : Value).HasMembers (t.entries a) := by
  cases t with
  | link => exact Record.hasMembers_encode Link.independent.nodup a
  | status =>
    have h := Record.hasMembers_encode Status.independent.nodup a
    simp only [Record.members, List.map_cons, List.map_nil, Member.entry_optional] at h
    exact h
  | boot =>
    have h := Record.hasMembers_encode Boot.independent.nodup a
    simp only [Record.members, List.map_cons, List.map_nil, Member.entry_optional, Member.entry_listed] at h
    exact h
  | profile =>
    have h := Record.hasMembers_encode Profile.Draft.independent.nodup ⟨a, true⟩
    simp only [Record.members, List.map_cons, List.map_nil, Member.entry_optional, Member.entry_always] at h
    exact h
  | profileFile =>
    have h := Record.hasMembers_encode (LawfulRecord.independent (α := ProfileFile)).nodup a
    simp only [Record.members, List.map_cons, List.map_nil, Member.entry_optional, Member.entry_always] at h
    exact h

theorem preserves (t : RecordType) {a : t.Carrier} (h : t.WellFormed a) : Codec.Preserves 3 a := by
  cases t with
  | link => exact Link.preserves a
  | status => exact Status.preserves a
  | boot => exact Boot.preserves a
  | profile => exact Profile.preserves a
  | profileFile => exact ProfileFile.preserves h

theorem wellFormed_of_run (t : RecordType) {bs : Bytes} {a : t.Carrier}
    (h : (Codec.decode : Decoder t.Carrier).run bs = .ok a) : t.WellFormed a := by
  cases t with
  | profileFile => exact ProfileFile.sorted_of_decode (Decoder.decode_of_run h)
  | link | status | boot | profile => trivial

end RecordType

/-- What is written for a record is the object of its members, without those that are absent and without
`null`, and the record is read from it; every record that was read is one of which this holds. A text is
read as a value of an enumeration that is written as the text if it is one of the names, and as `Unknown`
if it is not, and read again as the same value. -/
theorem records_and_names_are_read_back :
    (∀ (t : RecordType) (a : t.Carrier), t.WellFormed a →
      (Codec.encode a : Value).HasMembers (t.entries a) ∧ (Codec.encode a : Value).NullFree ∧
      (Codec.decode : Decoder t.Carrier).run (Codec.encode a : Value).render = .ok a) ∧
    (∀ (t : RecordType) (bs : Bytes) (a : t.Carrier),
      (Codec.decode : Decoder t.Carrier).run bs = .ok a → t.WellFormed a) ∧
    ∀ (t : EnumerationType) (s : String), ∃ a : t.Carrier,
      (Codec.decode : Decoder t.Carrier).run (Value.text s).render = .ok a ∧
      Codec.encode a = .text (if s ∈ t.wireNames then s else "Unknown") ∧
      (Codec.decode : Decoder t.Carrier).run (Codec.encode a : Value).render = .ok a := by
  refine ⟨?_, fun t _ _ => t.wellFormed_of_run, ?_⟩
  · intro t a hWellFormed
    have hPreserves := t.preserves hWellFormed
    exact ⟨t.hasMembers_encode a, hPreserves.nullFree, hPreserves.run_render (by decide)⟩
  · intro t s
    refine ⟨Enumeration.ofName s, t.run_text s, ?_, ?_⟩
    · rw [t.encode_eq, t.name_ofName]
    · rw [t.encode_eq, t.run_text, LawfulEnumeration.ofName_name]

theorem file_with_gaps_is_read_back :
    let file : ProfileFile :=
      ⟨none, [("", Profile.blank), ("null", { Profile.blank with password := some "\"" })]⟩
    RecordType.profileFile.WellFormed file ∧
    (Codec.encode file : Value).render = Bytes.ofText
      ("\x7b\"profiles\":\x7b\"\":\x7b\"endpoint\":\"\",\"insecure\":false\x7d," ++
        "\"null\":\x7b\"endpoint\":\"\",\"insecure\":false,\"password\":\"\\\"\"\x7d\x7d\x7d") ∧
    (Codec.encode file : Value).NullFree ∧
    (Codec.decode : Decoder ProfileFile).run (Codec.encode file : Value).render = .ok file ∧
    ∃ source : BootSource,
      (Codec.decode : Decoder BootSource).run (Value.text "None").render = .ok source ∧
      Codec.encode source = .text "None" := by
  intro file
  obtain ⟨hWritten, hRead, hNames⟩ := records_and_names_are_read_back
  have hWellFormed : RecordType.profileFile.WellFormed file := List.pairwise_pair.mpr (by decide)
  obtain ⟨_, hNullFree, hBack⟩ := hWritten .profileFile file hWellFormed
  obtain ⟨source, hSource, hName, _⟩ := hNames .bootSource "None"
  exact ⟨hRead .profileFile _ _ hBack, rfl, hNullFree, hBack, source, hSource, hName⟩

end Redfish
