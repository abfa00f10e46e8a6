import Mathlib.Data.List.Forall2
import Redfish.Journal.Settings

/-!
# Redaction

Of a field with a sensitive name a line shows that it is there and nothing of its value. Every other field
is shown with its value. Names are compared without regard to case.
-/

namespace Redfish

open Http

namespace JournalSettings

def SameName (a b : String) : Prop := a.toList.map Char.toLower = b.toList.map Char.toLower

instance (a b : String) : Decidable (SameName a b) :=
  inferInstanceAs (Decidable (a.toList.map Char.toLower = b.toList.map Char.toLower))

/-- Values under the name are left out: it is one of the sensitive ones, in letters of any case. -/
def Hides (s : JournalSettings) (name : String) : Prop :=
  s.redactSensitive = true ∧ ∃ listed ∈ s.sensitiveHeaders, SameName listed name

instance (s : JournalSettings) (name : String) : Decidable (s.Hides name) :=
  inferInstanceAs (Decidable (_ ∧ ∃ listed ∈ s.sensitiveHeaders, SameName listed name))

inductive Shows (s : JournalSettings) (f : String × HeaderValue) : String → Prop
  | hidden (h : s.Hides f.1) : Shows s f (f.1 ++ "=[REDACTED]")
  | plain (h : ¬s.Hides f.1) : Shows s f (f.1 ++ "=" ++ f.2.shown)

/-- Fields of the same names in the same order, which differ in values that are left out at most. -/
def AgreeOpenly (s : JournalSettings) (h h' : Headers) : Prop :=
  List.Forall₂ (fun f f' => f.1 = f'.1 ∧ (¬s.Hides f.1 → f.2 = f'.2)) h.fields h'.fields

def withSensitiveHeaders (names : List String) (s : JournalSettings) : JournalSettings :=
  names.foldl (fun s name => s.withSensitiveHeader name) s

variable {s : JournalSettings}

theorem toLower_eq_iff (a b : String) : a.toLower = b.toLower ↔ SameName a b := by
  unfold SameName String.toLower
  rw [← String.toList_inj, String.toList_map, String.toList_map]

theorem isRedacted_iff (name : String) : s.isRedacted name = true ↔ s.Hides name := by
  unfold isRedacted Hides
  rw [Bool.and_eq_true, List.any_eq_true]
  simp only [beq_iff_eq, toLower_eq_iff]

theorem shows_showField (f : String × HeaderValue) : s.Shows f (s.showField f.1 f.2) := by
  unfold showField
  split
  · rename_i hRedacted
    rw [String.append_assoc]
    exact .hidden ((isRedacted_iff f.1).mp hRedacted)
  · rename_i hShown
    exact .plain fun h => hShown ((isRedacted_iff f.1).mpr h)

theorem Shows.congr {f f' : String × HeaderValue} {shown shown' : String} (h : s.Shows f shown)
    (h' : s.Shows f' shown') (hName : f.1 = f'.1) (hValue : ¬s.Hides f.1 → f.2 = f'.2) :
    shown = shown' := by
  cases h with
  | hidden hHides =>
    cases h' with
    | hidden => rw [hName]
    | plain hOpen => exact absurd (hName ▸ hHides) hOpen
  | plain hOpen =>
    cases h' with
    | hidden hHides => exact absurd (hName ▸ hHides) hOpen
    | plain => rw [hName, hValue hOpen]

theorem AgreeOpenly.showHeaders_eq {h h' : Headers} (hAgree : s.AgreeOpenly h h') :
    s.showHeaders h = s.showHeaders h' := by
  have hFields : h.fields.map (fun f => s.showField f.1 f.2) =
      h'.fields.map fun f => s.showField f.1 f.2 := by
    rw [← List.forall₂_eq_eq_eq, List.forall₂_map_left_iff, List.forall₂_map_right_iff]
    refine List.Forall₂.imp ?_ hAgree
    rintro f f' ⟨hName, hValue⟩
    exact (shows_showField f).congr (shows_showField f') hName hValue
  unfold showHeaders
  rw [hFields]

theorem withSensitiveHeaders_eq (names : List String) (s : JournalSettings) :
    s.withSensitiveHeaders names = { s with sensitiveHeaders := s.sensitiveHeaders ++ names } := by
  induction names generalizing s with
  | nil =>
    rw [List.append_nil]
    rfl
  | cons name names ih =>
    change (s.withSensitiveHeader name).withSensitiveHeaders names = _
    rw [ih]
    exact congrArg (fun listed => { s with sensitiveHeaders := listed }) (List.append_assoc _ [name] names)

theorem Hides.withSensitiveHeaders {name : String} (h : s.Hides name) (names : List String) :
    (s.withSensitiveHeaders names).Hides name := by
  obtain ⟨hOn, listed, hListed, hSame⟩ := h
  rw [withSensitiveHeaders_eq]
  exact ⟨hOn, listed, List.mem_append_left names hListed, hSame⟩

theorem AgreeOpenly.withSensitiveHeaders {h h' : Headers} (hAgree : s.AgreeOpenly h h')
    (names : List String) : (s.withSensitiveHeaders names).AgreeOpenly h h' := by
  refine List.Forall₂.imp ?_ hAgree
  rintro f f' ⟨hName, hValue⟩
  exact ⟨hName, fun hOpen => hValue fun hHides => hOpen (hHides.withSensitiveHeaders names)⟩

end JournalSettings

open JournalSettings

/-- Fields that differ in hidden values alone are shown alike. Each value has its entry, in order, and one
that is not hidden stands in it. With more sensitive names nothing is shown that was hidden before. -/
theorem redaction_hides_listed_values (s : JournalSettings) :
    (∀ h h', s.AgreeOpenly h h' → s.showHeaders h = s.showHeaders h') ∧
    (∀ h : Headers, ∃ entries, List.Forall₂ s.Shows h.fields entries ∧
      s.showHeaders h = ", ".intercalate entries) ∧
    ∀ names, (∀ name, s.Hides name → (s.withSensitiveHeaders names).Hides name) ∧
      ∀ h h', s.AgreeOpenly h h' →
        (s.withSensitiveHeaders names).showHeaders h = (s.withSensitiveHeaders names).showHeaders h' := by
  refine ⟨fun _ _ hAgree => hAgree.showHeaders_eq, ?_, ?_⟩
  · intro h
    refine ⟨_, ?_, rfl⟩
    rw [List.forall₂_map_right_iff, List.forall₂_same]
    exact fun f _ => shows_showField f
  · intro names
    exact ⟨fun _ hHides => hHides.withSensitiveHeaders names,
      fun _ _ hAgree => (hAgree.withSensitiveHeaders names).showHeaders_eq⟩

theorem redaction_hides_repeated_values :
    let s : JournalSettings := ⟨.debug, .warn, true, true, ["Cookie", "X-Auth-Token"]⟩
    let h : Headers := ⟨[("x-auth-token", [⟨[0x61], false⟩, ⟨[0x62], false⟩]), ("accept", [⟨[0x63], false⟩])]⟩
    let h' : Headers := ⟨[("x-auth-token", [⟨[0x64], false⟩, ⟨[], true⟩]), ("accept", [⟨[0x63], false⟩])]⟩
    s.Hides "x-auth-token" ∧ s.AgreeOpenly h h' ∧ s.showHeaders h = s.showHeaders h' ∧
      s.showHeaders h = "x-auth-token=[REDACTED], x-auth-token=[REDACTED], accept=\"c\"" ∧
      (s.withSensitiveHeaders ["accept"]).Hides "x-auth-token" := by
  intro s h h'
  have hHides : s.Hides "x-auth-token" := by decide
  have hOpen : ¬s.Hides "accept" := by decide
  have hAgree : s.AgreeOpenly h h' :=
    .cons ⟨rfl, absurd hHides⟩ (.cons ⟨rfl, absurd hHides⟩ (.cons ⟨rfl, fun _ => rfl⟩ .nil))
  have hRedaction := redaction_hides_listed_values s
  refine ⟨hHides, hAgree, hRedaction.1 h h' hAgree, ?_, (hRedaction.2.2 ["accept"]).1 _ hHides⟩
  have hRedacted : s.isRedacted "x-auth-token" = true := (isRedacted_iff _).mpr hHides
  have hShown : s.isRedacted "accept" = false := by
    rw [← Bool.not_eq_true, isRedacted_iff]
    exact hOpen
  change ", ".intercalate [s.showField "x-auth-token" _, s.showField "x-auth-token" _,
    s.showField "accept" _] = _
  unfold showField
  rw [hRedacted, hShown]
  rfl

end Redfish
