import Mathlib.Data.List.Basic
import Redfish.Profile.Loading
import Redfish.Proofs.Table
import Redfish.Proofs.Text

/-!
# What the variables override

A variable replaces the setting that it names, in the selected profile and nowhere else. For the endpoint
and the name of the profile an empty text is as good as none; the other variables also override a setting
when they are empty. Variables that are applied again change nothing, and those that later ones replace
leave no trace.
-/

namespace Redfish

namespace ProfileFile

/-- One of the words for yes, in letters of any case and between characters that are blank. -/
def Affirms (text : String) : Prop :=
  ∃ before word after : List Char, text.toList = before ++ (word ++ after) ∧
    (∀ c ∈ before, isBlank c = true) ∧ (∀ c ∈ after, isBlank c = true) ∧
    word.map Char.toLower ∈ ["1".toList, "true".toList, "yes".toList]

theorem toLower_of_isBlank {c : Char} (h : isBlank c = true) : c.toLower = c := by
  unfold isBlank at h
  simp only [List.any_cons, List.any_nil, Bool.or_eq_true, Bool.and_eq_true, decide_eq_true_eq,
    Bool.or_false] at h
  have hLetter : ¬(c.val ≥ 'A'.val ∧ c.val ≤ 'Z'.val) := by
    intro ⟨hLow, hHigh⟩
    have hLow' : 65 ≤ c.toNat := UInt32.le_iff_toNat_le.mp hLow
    have hHigh' : c.toNat ≤ 90 := UInt32.le_iff_toNat_le.mp hHigh
    omega
  exact dif_neg hLetter

theorem isBlank_of_mem_word {word : List Char} {c : Char} (hc : c ∈ word)
    (h : word.map Char.toLower ∈ ["1".toList, "true".toList, "yes".toList]) : isBlank c = false := by
  rw [← Bool.not_eq_true]
  intro hBlank
  have hLetters : (["1".toList, "true".toList, "yes".toList].all fun w => w.all (!isBlank ·)) = true :=
    rfl
  have hMem : c ∈ word.map Char.toLower := List.mem_map.mpr ⟨c, hc, toLower_of_isBlank hBlank⟩
  have hPlain := List.all_eq_true.mp (List.all_eq_true.mp hLetters _ h) c hMem
  rw [hBlank] at hPlain
  cases hPlain

theorem contains_toLower (word : List Char) :
    ["1", "true", "yes"].contains (String.ofList word).toLower = true ↔
      word.map Char.toLower ∈ ["1".toList, "true".toList, "yes".toList] := by
  have hLower : (String.ofList word).toLower.toList = word.map Char.toLower := by
    change (String.map Char.toLower (String.ofList word)).toList = _
    rw [String.toList_map, String.toList_ofList]
  rw [List.contains_iff_mem, ← hLower]
  simp only [List.mem_cons, String.toList_inj, List.not_mem_nil]

theorem saysYes_iff (text : String) : saysYes text = true ↔ Affirms text := by
  unfold saysYes
  dsimp only
  rw [contains_toLower]
  constructor
  · intro hWord
    have hFront : text.toList.takeWhile isBlank ++ text.toList.dropWhile isBlank = text.toList :=
      List.takeWhile_append_dropWhile
    generalize text.toList.dropWhile isBlank = rest at hWord hFront
    have hBack : rest.reverse.takeWhile isBlank ++ rest.reverse.dropWhile isBlank = rest.reverse :=
      List.takeWhile_append_dropWhile
    refine ⟨text.toList.takeWhile isBlank, _, (rest.reverse.takeWhile isBlank).reverse, ?_, ?_, ?_, hWord⟩
    · rw [← List.reverse_append, hBack, List.reverse_reverse, hFront]
    · exact fun c hc => List.mem_takeWhile_imp hc
    · exact fun c hc => List.mem_takeWhile_imp (List.mem_reverse.mp hc)
  · rintro ⟨before, word, after, hText, hBefore, hAfter, hWord⟩
    -- No letter of such a word is blank, so trimming stops where the word starts and ends.
    have hPlain : ∀ c ∈ word, isBlank c = false := fun c hc => isBlank_of_mem_word hc hWord
    have hSome : word ≠ [] := by
      rintro rfl
      revert hWord
      decide
    have hHead : ∀ c ∈ (word ++ after).head?, isBlank c = false := by
      rw [List.head?_append_of_ne_nil _ hSome]
      exact fun c hc => hPlain c (List.mem_of_mem_head? hc)
    have hLast : ∀ c ∈ word.reverse.head?, isBlank c = false :=
      fun c hc => hPlain c (List.mem_reverse.mp (List.mem_of_mem_head? hc))
    rw [hText, dropWhile_piece hBefore hHead, List.reverse_append,
      dropWhile_piece (fun c hc => hAfter c (List.mem_reverse.mp hc)) hLast, List.reverse_reverse]
    exact hWord

open Profile (Variable.active Variable.endpoint Variable.username Variable.password Variable.insecure)

/-- The endpoint is given by a text that is not empty. -/
def GivesEndpoint (valueOf? : String → Option String) : Prop :=
  ∃ e, valueOf? Variable.endpoint = some e ∧ e ≠ ""

/-- One of the other settings is given, be it by the empty text. -/
def GivesAccess (valueOf? : String → Option String) : Prop :=
  ∃ name ∈ [Variable.username, Variable.password, Variable.insecure], ∃ v, valueOf? name = some v

def activeName? (valueOf? : String → Option String) (file : ProfileFile) : Option String :=
  (valueOf? Variable.active).filter (!·.isEmpty) <|> file.active

/-- The name of the profile that the variables override settings of. -/
def selectedName (valueOf? : String → Option String) (file : ProfileFile) : String :=
  (activeName? valueOf? file).getD defaultName

section

variable {valueOf? : String → Option String} {loaded : Option ProfileFile}

theorem endpointVariable?_eq_some_iff (e : String) :
    endpointVariable? valueOf? = some e ↔ valueOf? Variable.endpoint = some e ∧ e ≠ "" := by
  unfold endpointVariable?
  rw [Option.filter_eq_some_iff]
  simp

theorem isSome_endpointVariable? :
    (endpointVariable? valueOf?).isSome = true ↔ GivesEndpoint valueOf? := by
  rw [Option.isSome_iff_exists]
  exact exists_congr fun e => endpointVariable?_eq_some_iff e

theorem isNone_endpointVariable? :
    (endpointVariable? valueOf?).isNone = true ↔ ¬GivesEndpoint valueOf? := by
  rw [← isSome_endpointVariable?, Bool.not_eq_true, Option.isSome_eq_false_iff]

theorem hasOverrides_iff :
    hasOverrides valueOf? = true ↔ GivesEndpoint valueOf? ∨ GivesAccess valueOf? := by
  unfold hasOverrides GivesAccess
  rw [Bool.or_eq_true, isSome_endpointVariable?, List.any_eq_true]
  simp only [Option.isSome_iff_exists]

/-- What the variables make of the file that was loaded. -/
inductive Overriding (valueOf? : String → Option String) (loaded : Option ProfileFile) :
    Except Error ProfileFile → Prop
  | missing (hLoaded : loaded = none) (hEndpoint : ¬GivesEndpoint valueOf?) :
      Overriding valueOf? loaded
        (.error (.config ("No config file found and " ++ Variable.endpoint ++ " is not set")))
  | kept {file : ProfileFile} (hLoaded : loaded = some file) (hEndpoint : ¬GivesEndpoint valueOf?)
      (hAccess : ¬GivesAccess valueOf?) :
      Overriding valueOf? loaded (.ok { file with active := activeName? valueOf? file })
  | unknown {file : ProfileFile} (hLoaded : loaded = some file) (hEndpoint : ¬GivesEndpoint valueOf?)
      (hAccess : GivesAccess valueOf?) (hProfile : file.profile? (selectedName valueOf? file) = none) :
      Overriding valueOf? loaded (.error (.config ("Profile '" ++ selectedName valueOf? file ++
        "' not found and " ++ Variable.endpoint ++ " is not set")))
  | replaced {file : ProfileFile} (hFile : file = loaded.getD empty)
      (hGiven : GivesEndpoint valueOf? ∨ GivesAccess valueOf?)
      (hKnown : GivesEndpoint valueOf? ∨ loaded = some file ∧
        file.profile? (selectedName valueOf? file) ≠ none) :
      Overriding valueOf? loaded (.ok ⟨some (selectedName valueOf? file),
        file.profiles.put (selectedName valueOf? file) (overrideProfile valueOf?
          ((file.profile? (selectedName valueOf? file)).getD Profile.blank))⟩)

theorem withOverrides_none (h : GivesEndpoint valueOf?) :
    withOverrides valueOf? none = withOverrides valueOf? (some empty) := by
  obtain ⟨e, hEndpoint⟩ := Option.isSome_iff_exists.mp (isSome_endpointVariable?.mpr h)
  unfold withOverrides
  rw [hEndpoint]

theorem overriding_of_file {file : ProfileFile} (hFile : file = loaded.getD empty)
    (hLoaded : loaded = some file ∨ GivesEndpoint valueOf?) :
    Overriding valueOf? loaded (withOverrides valueOf? (some file)) := by
  unfold withOverrides
  dsimp only
  rw [pure_bind]
  split
  · rename_i hNone
    rw [Bool.not_eq_true', ← Bool.not_eq_true, hasOverrides_iff, not_or] at hNone
    obtain ⟨hEndpoint, hAccess⟩ := hNone
    exact .kept (hLoaded.resolve_right hEndpoint) hEndpoint hAccess
  · rename_i hSome
    rw [Bool.not_eq_true', Bool.not_eq_false, hasOverrides_iff] at hSome
    split
    · rename_i hAbsent
      obtain ⟨hProfile, hEndpoint⟩ := Bool.and_eq_true_iff.mp hAbsent
      rw [isNone_endpointVariable?] at hEndpoint
      exact .unknown (hLoaded.resolve_right hEndpoint) hEndpoint (hSome.resolve_left hEndpoint)
        (Option.isNone_iff_eq_none.mp hProfile)
    · rename_i hPresent
      refine .replaced hFile hSome ?_
      by_cases hEndpoint : GivesEndpoint valueOf?
      · exact .inl hEndpoint
      · refine .inr ⟨hLoaded.resolve_right hEndpoint, fun hProfile => hPresent ?_⟩
        exact Bool.and_eq_true_iff.mpr
          ⟨Option.isNone_iff_eq_none.mpr hProfile, isNone_endpointVariable?.mpr hEndpoint⟩

theorem withOverrides_run : Overriding valueOf? loaded (withOverrides valueOf? loaded) := by
  cases loaded with
  | some file => exact overriding_of_file rfl (.inl rfl)
  | none =>
    by_cases hEndpoint : GivesEndpoint valueOf?
    · rw [withOverrides_none hEndpoint]
      exact overriding_of_file rfl (.inr hEndpoint)
    · have hNone := Option.isNone_iff_eq_none.mp (isNone_endpointVariable?.mpr hEndpoint)
      unfold withOverrides
      rw [hNone]
      exact .missing rfl hEndpoint

/-- `p` is `q` with exactly those settings replaced that the variables give. -/
structure Overridden (valueOf? : String → Option String) (q p : Profile) : Prop where
  endpoint : ∀ e, valueOf? Variable.endpoint = some e → e ≠ "" → p.endpoint = e
  endpoint_kept : ¬GivesEndpoint valueOf? → p.endpoint = q.endpoint
  username : ∀ u, valueOf? Variable.username = some u → p.username = some u
  username_kept : valueOf? Variable.username = none → p.username = q.username
  password : ∀ w, valueOf? Variable.password = some w → p.password = some w
  password_kept : valueOf? Variable.password = none → p.password = q.password
  insecure : ∀ t, valueOf? Variable.insecure = some t → (p.insecure = true ↔ Affirms t)
  insecure_kept : valueOf? Variable.insecure = none → p.insecure = q.insecure
  ca : p.ca = q.ca
  timeoutSecs : p.timeoutSecs = q.timeoutSecs

theorem overridden_overrideProfile (p : Profile) :
    Overridden valueOf? p (overrideProfile valueOf? p) := by
  constructor
  · intro e he hSome
    have hGiven := (endpointVariable?_eq_some_iff e).mpr ⟨he, hSome⟩
    unfold overrideProfile
    rw [hGiven]
    rfl
  · intro hEndpoint
    have hNone := Option.isNone_iff_eq_none.mp (isNone_endpointVariable?.mpr hEndpoint)
    unfold overrideProfile
    rw [hNone]
    rfl
  · intro u hu
    unfold overrideProfile
    rw [hu]
    rfl
  · intro hNone
    unfold overrideProfile
    rw [hNone]
    rfl
  · intro w hw
    unfold overrideProfile
    rw [hw]
    rfl
  · intro hNone
    unfold overrideProfile
    rw [hNone]
    rfl
  · intro t ht
    rw [← saysYes_iff]
    unfold overrideProfile
    rw [ht]
    rfl
  · intro hNone
    unfold overrideProfile
    rw [hNone]
    rfl
  · rfl
  · rfl

theorem profile?_put (active : Option String) (name : String) (p : Profile) (file : ProfileFile)
    (n : String) : profile? ⟨active, file.profiles.put name p⟩ n =
      if n = name then some p else file.profile? n := Table.get?_put name p file.profiles n

theorem Overriding.fails_iff {outcome : Except Error ProfileFile}
    (h : Overriding valueOf? loaded outcome) :
    (∃ e, outcome = .error e) ↔
      (loaded = none ∧ ¬GivesEndpoint valueOf?) ∨
      (GivesAccess valueOf? ∧ ¬GivesEndpoint valueOf? ∧
        (loaded.getD empty).profile? (selectedName valueOf? (loaded.getD empty)) = none) := by
  cases h with
  | missing hLoaded hEndpoint => exact iff_of_true ⟨_, rfl⟩ (.inl ⟨hLoaded, hEndpoint⟩)
  | unknown hLoaded hEndpoint hAccess hProfile =>
    subst hLoaded
    exact iff_of_true ⟨_, rfl⟩ (.inr ⟨hAccess, hEndpoint, hProfile⟩)
  | kept hLoaded hEndpoint hAccess =>
    refine iff_of_false nofun ?_
    rintro (⟨hMissing, _⟩ | ⟨hGiven, _⟩)
    · cases hLoaded.symm.trans hMissing
    · exact hAccess hGiven
  | replaced hFile hGiven hKnown =>
    subst hFile
    refine iff_of_false nofun ?_
    rintro (⟨hMissing, hEndpoint⟩ | ⟨_, hEndpoint, hProfile⟩)
    · obtain ⟨hLoaded, _⟩ := hKnown.resolve_left hEndpoint
      cases hLoaded.symm.trans hMissing
    · exact (hKnown.resolve_left hEndpoint).2 hProfile

theorem Overriding.profile?_of_ne {result : ProfileFile} (h : Overriding valueOf? loaded (.ok result))
    {n : String} (hn : n ≠ selectedName valueOf? (loaded.getD empty)) :
    result.profile? n = (loaded.getD empty).profile? n := by
  cases h with
  | kept hLoaded =>
    subst hLoaded
    rfl
  | replaced hFile =>
    subst hFile
    rw [profile?_put, if_neg hn]

theorem Overriding.profile?_ne_none {result : ProfileFile} (h : Overriding valueOf? loaded (.ok result))
    {n : String} (hn : (loaded.getD empty).profile? n ≠ none) : result.profile? n ≠ none := by
  cases h with
  | kept hLoaded =>
    subst hLoaded
    exact hn
  | replaced hFile =>
    subst hFile
    rw [profile?_put]
    split
    · exact Option.some_ne_none _
    · exact hn

/-- The variables override settings of the selected profile and nothing else. This fails exactly when
there is neither a file nor an endpoint, or when other settings are given without an endpoint for a
profile that the file does not have. -/
theorem withOverrides_replaces_given_settings (valueOf? : String → Option String)
    (loaded : Option ProfileFile) :
    let file := loaded.getD empty
    let selected := selectedName valueOf? file
    ((∃ e, withOverrides valueOf? loaded = .error e) ↔
      (loaded = none ∧ ¬GivesEndpoint valueOf?) ∨
      (GivesAccess valueOf? ∧ ¬GivesEndpoint valueOf? ∧ file.profile? selected = none)) ∧
    ∀ result, withOverrides valueOf? loaded = .ok result →
      (∀ n, n ≠ selected → result.profile? n = file.profile? n) ∧
      (∀ n, file.profile? n ≠ none → result.profile? n ≠ none) ∧
      (¬GivesEndpoint valueOf? ∧ ¬GivesAccess valueOf? →
        result.profiles = file.profiles ∧ result.active = activeName? valueOf? file) ∧
      (GivesEndpoint valueOf? ∨ GivesAccess valueOf? →
        result.active = some selected ∧ ∃ p, result.activeProfile? = some p ∧
          Overridden valueOf? ((file.profile? selected).getD Profile.blank) p) := by
  intro file selected
  refine ⟨withOverrides_run.fails_iff, ?_⟩
  intro result hResult
  have hRun : Overriding valueOf? loaded (.ok result) := hResult ▸ withOverrides_run
  refine ⟨fun _ => hRun.profile?_of_ne, fun _ => hRun.profile?_ne_none, ?_, ?_⟩
  · rintro ⟨hEndpoint, hAccess⟩
    cases hRun with
    | kept hLoaded =>
      subst hLoaded
      exact ⟨rfl, rfl⟩
    | replaced _ hGiven => exact absurd hGiven (not_or.mpr ⟨hEndpoint, hAccess⟩)
  · intro hGiven
    cases hRun with
    | kept _ hEndpoint hAccess => exact absurd hGiven (not_or.mpr ⟨hEndpoint, hAccess⟩)
    | replaced hFile =>
      subst hFile
      refine ⟨rfl, _, ?_, overridden_overrideProfile _⟩
      exact (profile?_put _ _ _ _ _).trans (if_pos rfl)

end

example :
    let lab : Profile := ⟨"http://lab", some "admin", some "pw", some "/ca", false, some 5⟩
    let valueOf? : String → Option String := fun name =>
      [("REDFISH_PROFILE", "lab"), ("REDFISH_USERNAME", ""), ("REDFISH_INSECURE", " Yes\n")].lookup name
    withOverrides valueOf? (some ⟨none, [("lab", lab), ("rack", lab)]⟩) =
      .ok ⟨some "lab", [("lab", { lab with username := some "", insecure := true }), ("rack", lab)]⟩ := by
  decide +kernel

section

variable {earlier later : String → Option String} {loaded : Option ProfileFile} {file : ProfileFile}

/-- The later variables select the same profile, and give each setting that the earlier ones give. -/
structure Covers (earlier later : String → Option String) : Prop where
  active : later Variable.active = earlier Variable.active
  endpoint : GivesEndpoint earlier → GivesEndpoint later
  username : later Variable.username = none → earlier Variable.username = none
  password : later Variable.password = none → earlier Variable.password = none
  insecure : later Variable.insecure = none → earlier Variable.insecure = none

theorem givesAccess_iff {valueOf? : String → Option String} : GivesAccess valueOf? ↔
    valueOf? Variable.username ≠ none ∨ valueOf? Variable.password ≠ none ∨
      valueOf? Variable.insecure ≠ none := by
  simp only [GivesAccess, List.exists_mem_cons_iff, List.not_mem_nil, false_and, exists_false, or_false,
    Option.ne_none_iff_exists']

theorem Covers.access (h : Covers earlier later) (hGiven : GivesAccess earlier) : GivesAccess later := by
  rw [givesAccess_iff] at hGiven ⊢
  exact hGiven.imp (mt h.username) (Or.imp (mt h.password) (mt h.insecure))

theorem orElse_again {a b : Option α} (h : a = none → b = none) (c : Option α) :
    (a <|> (b <|> c)) = (a <|> c) := by
  cases a with
  | none =>
    rw [h rfl]
    rfl
  | some a => rfl

theorem getD_again {a b : Option α} (h : a = none → b = none) (c : α) : a.getD (b.getD c) = a.getD c := by
  cases a with
  | none =>
    rw [h rfl]
    rfl
  | some a => rfl

theorem Covers.overrideProfile_eq (h : Covers earlier later) (p : Profile) :
    overrideProfile later (overrideProfile earlier p) = overrideProfile later p := by
  have hEndpoint : endpointVariable? later = none → endpointVariable? earlier = none := by
    intro hNone
    rw [← Option.isNone_iff_eq_none, isNone_endpointVariable?] at hNone ⊢
    exact mt h.endpoint hNone
  have hInsecure : (later Variable.insecure).map saysYes = none →
      (earlier Variable.insecure).map saysYes = none := by
    rw [Option.map_eq_none_iff, Option.map_eq_none_iff]
    exact h.insecure
  unfold overrideProfile
  simp only [getD_again hEndpoint, orElse_again h.username, orElse_again h.password, getD_again hInsecure]

theorem withOverrides_congr {file' : ProfileFile} (hProfiles : file.profiles = file'.profiles)
    (hActive : activeName? later file = activeName? later file') :
    withOverrides later (some file) = withOverrides later (some file') := by
  obtain ⟨active, profiles⟩ := file
  obtain ⟨active', profiles'⟩ := file'
  obtain rfl : profiles = profiles' := hProfiles
  unfold activeName? at hActive
  unfold withOverrides
  simp only [pure_bind, hActive]
  rfl

theorem withOverrides_of_replaced (hFile : file = loaded.getD empty)
    (hGiven : GivesEndpoint later ∨ GivesAccess later)
    (hKnown : GivesEndpoint later ∨ loaded = some file ∧ file.profile? (selectedName later file) ≠ none) :
    withOverrides later loaded = .ok ⟨some (selectedName later file),
      file.profiles.put (selectedName later file) (overrideProfile later
        ((file.profile? (selectedName later file)).getD Profile.blank))⟩ := by
  have hRun : Overriding later loaded (withOverrides later loaded) := withOverrides_run
  generalize withOverrides later loaded = outcome at hRun
  cases hRun with
  | missing hLoaded hEndpoint =>
    obtain ⟨hSome, _⟩ := hKnown.resolve_left hEndpoint
    cases hLoaded.symm.trans hSome
  | kept _ hEndpoint hAccess => exact absurd hGiven (not_or.mpr ⟨hEndpoint, hAccess⟩)
  | unknown hLoaded hEndpoint _ hProfile =>
    obtain ⟨hSome, hFound⟩ := hKnown.resolve_left hEndpoint
    obtain rfl := Option.some.inj (hLoaded.symm.trans hSome)
    exact absurd hProfile hFound
  | replaced hFile' =>
    subst hFile hFile'
    rfl

theorem Covers.withOverrides_eq (h : Covers earlier later) {first : ProfileFile}
    (hFirst : withOverrides earlier loaded = .ok first) :
    withOverrides later (some first) = withOverrides later loaded := by
  have hRun : Overriding earlier loaded (.ok first) := hFirst ▸ withOverrides_run
  cases hRun with
  | @kept file hLoaded _ _ =>
    subst hLoaded
    -- Only the name of the active profile was settled, and it is settled in the same way again.
    have hActive : activeName? later { file with active := activeName? earlier file } =
        activeName? later file := by
      unfold activeName?
      rw [h.active]
      cases (earlier Variable.active).filter (!·.isEmpty) <;> rfl
    exact withOverrides_congr rfl hActive
  | @replaced file hFile hGiven hKnown =>
    have hSame : selectedName later file = selectedName earlier file := by
      unfold selectedName activeName?
      rw [h.active]
    have hStays : ∀ profiles, selectedName later ⟨some (selectedName earlier file), profiles⟩ =
        selectedName earlier file := by
      intro profiles
      unfold selectedName activeName?
      rw [h.active]
      cases (earlier Variable.active).filter (!·.isEmpty) <;> rfl
    have hGiven' := hGiven.imp h.endpoint h.access
    have hAlone := withOverrides_of_replaced hFile hGiven'
      (hKnown.imp h.endpoint fun hFound => hSame ▸ hFound)
    have hFound : ∀ p, profile? ⟨some (selectedName earlier file),
        file.profiles.put (selectedName earlier file) p⟩ (selectedName earlier file) = some p :=
      fun p => (profile?_put _ _ _ _ _).trans (if_pos rfl)
    let replaced : ProfileFile := ⟨some (selectedName earlier file),
      file.profiles.put (selectedName earlier file) (overrideProfile earlier
        ((file.profile? (selectedName earlier file)).getD Profile.blank))⟩
    have hReplaced : (some replaced).getD empty = replaced := rfl
    have hAgain := withOverrides_of_replaced hReplaced.symm hGiven'
    rw [hStays, hFound] at hAgain
    rw [hAgain (.inr ⟨rfl, Option.some_ne_none _⟩), hAlone, hSame, Table.put_put, Option.getD_some,
      h.overrideProfile_eq]

theorem Covers.refl (valueOf? : String → Option String) : Covers valueOf? valueOf? :=
  ⟨rfl, id, id, id, id⟩

/-- All of the overriding variables are set, and they give an endpoint. -/
structure GivesAll (valueOf? : String → Option String) : Prop where
  endpoint : GivesEndpoint valueOf?
  username : valueOf? Variable.username ≠ none
  password : valueOf? Variable.password ≠ none
  insecure : valueOf? Variable.insecure ≠ none

theorem GivesAll.covers (h : GivesAll later) (hActive : later Variable.active = earlier Variable.active) :
    Covers earlier later where
  active := hActive
  endpoint _ := h.endpoint
  username hNone := absurd hNone h.username
  password hNone := absurd hNone h.password
  insecure hNone := absurd hNone h.insecure

theorem GivesEndpoint.exists_withOverrides (h : GivesEndpoint later) (loaded : Option ProfileFile) :
    ∃ result, withOverrides later loaded = .ok result :=
  ⟨_, withOverrides_of_replaced rfl (.inl h) (.inl h)⟩

/-- To override the settings once more changes nothing. Of two sets of variables that both give every
setting, for one and the same profile, only the later counts. -/
theorem withOverrides_again (valueOf? : String → Option String) (loaded : Option ProfileFile) :
    (∀ result, withOverrides valueOf? loaded = .ok result →
      withOverrides valueOf? (some result) = .ok result) ∧
    ∀ later, GivesAll valueOf? → GivesAll later → later Variable.active = valueOf? Variable.active →
      ∃ first last, withOverrides valueOf? loaded = .ok first ∧
        withOverrides later (some first) = .ok last ∧ withOverrides later loaded = .ok last := by
  refine ⟨?_, ?_⟩
  · intro result hResult
    rw [(Covers.refl valueOf?).withOverrides_eq hResult, hResult]
  · intro later hAll hLater hActive
    obtain ⟨first, hFirst⟩ := hAll.endpoint.exists_withOverrides loaded
    obtain ⟨last, hLast⟩ := hLater.endpoint.exists_withOverrides loaded
    exact ⟨first, last, hFirst, ((hLater.covers hActive).withOverrides_eq hFirst).trans hLast, hLast⟩

end

theorem withOverrides_without_file :
    let valueOf? : String → Option String := fun name =>
      [("REDFISH_ENDPOINT", "http://a"), ("REDFISH_USERNAME", "u"), ("REDFISH_PASSWORD", ""),
        ("REDFISH_INSECURE", "yes")].lookup name
    let later : String → Option String := fun name =>
      [("REDFISH_ENDPOINT", "http://b"), ("REDFISH_USERNAME", ""), ("REDFISH_PASSWORD", "p"),
        ("REDFISH_INSECURE", "")].lookup name
    let first : ProfileFile := ⟨some "default", [("default", ⟨"http://a", some "u", some "", none, true, none⟩)]⟩
    let last : ProfileFile := ⟨some "default", [("default", ⟨"http://b", some "", some "p", none, false, none⟩)]⟩
    withOverrides valueOf? none = .ok first ∧ withOverrides valueOf? (some first) = .ok first ∧
      withOverrides later none = .ok last ∧ withOverrides later (some first) = .ok last := by
  intro valueOf? later first last
  have hFirst : withOverrides valueOf? none = .ok first := by decide +kernel
  have hLast : withOverrides later none = .ok last := by decide +kernel
  obtain ⟨hAgain, hLater⟩ := withOverrides_again valueOf? none
  have hAll : GivesAll valueOf? := ⟨⟨"http://a", rfl, by decide⟩, nofun, nofun, nofun⟩
  have hAll' : GivesAll later := ⟨⟨"http://b", rfl, by decide⟩, nofun, nofun, nofun⟩
  obtain ⟨_, _, hFirst', hBoth, hLast'⟩ := hLater later hAll hAll' rfl
  obtain rfl := Except.ok.inj (hFirst.symm.trans hFirst')
  obtain rfl := Except.ok.inj (hLast.symm.trans hLast')
  exact ⟨hFirst, hAgain _ hFirst, hLast, hBoth⟩

end ProfileFile

end Redfish
