import Redfish.Proofs.Json.Arrangement
import Redfish.Proofs.Listing
import Redfish.Proofs.Simulation

/-!
# Annotations of a collection

A walk over the pages of a collection takes from a page its members and the link to the next page. What
else a page is read with are annotations. Nothing depends on those that can be read, and one that cannot
be read ends the walk.
-/

namespace Redfish

open Json SteadyTransport

namespace Collection

/-- The members of a page that no walk makes use of. -/
def annotations : List String := ["@odata.id", "Name", "Members@odata.count"]

def annotation? (p : Text × Outline) : Option String :=
  match p.1.content with
  | .ok n => if n ∈ annotations then some n else none
  | .error _ => none

/-- The members of a document without the annotations. -/
def core (ms : List (Text × Outline)) : List (Text × Outline) :=
  ms.filter fun p => (annotation? p).isNone

/-- Each annotation stands there at most once: the count as a natural number of 64 bits or as null, the
others as texts. -/
structure AnnotationsReadable (ms : List (Text × Outline)) : Prop where
  once : (ms.filterMap annotation?).Nodup
  text : ∀ p ∈ ms, annotation? p = some "@odata.id" ∨ annotation? p = some "Name" →
    ∃ t s, p.2 = .text t ∧ t.content = .ok s
  count : ∀ p ∈ ms, annotation? p = some "Members@odata.count" → p.2 = .word .null none ∨
    ∃ n i, p.2 = .number n ∧ n.value = .ok (.integer i) ∧ 0 ≤ i ∧ i < UInt64.size

/-- What a walk takes from a page. -/
def gist (c : Collection) : List Link × Option String := (c.members, c.nextLink)

theorem memberUris_of_gist {c d : Collection} (h : c.gist = d.gist) : c.memberUris = d.memberUris :=
  congrArg (fun g => g.1.map Link.uri) h

theorem next?_of_gist {c d : Collection} (h : c.gist = d.gist) : c.next? = d.next? :=
  congrArg (fun g => g.2.filter (!·.isEmpty)) h

theorem annotation?_eq_some_iff (p : Text × Outline) (n : String) :
    annotation? p = some n ↔ p.1.content = .ok n ∧ n ∈ annotations := by
  unfold annotation?
  split
  · rename_i s hName
    rw [hName]
    constructor
    · intro h
      split at h
      · rename_i hMem
        obtain rfl := Option.some.inj h
        exact ⟨rfl, hMem⟩
      · cases h
    · rintro ⟨hEq, hMem⟩
      obtain rfl := Except.ok.inj hEq
      rw [if_pos hMem]
  · rename_i hName
    rw [hName]
    exact ⟨nofun, nofun⟩

theorem exists_annotated_member {n : String} (h : n ∈ annotations) :
    ∃ m, (Record.members (α := Collection)).find? (·.name == n) = some m ∧
      ∀ v c, (m.set v c).gist = c.gist := by
  simp only [annotations, List.mem_cons, List.not_mem_nil, or_false] at h
  rcases h with rfl | rfl | rfl <;> exact ⟨_, rfl, fun _ _ => rfl⟩

theorem gist_set_congr {m : Member Collection} (hm : m ∈ Record.members (α := Collection))
    (hOther : m.name ∉ annotations) (v : m.Content) {c d : Collection} (h : c.gist = d.gist) :
    (m.set v c).gist = (m.set v d).gist := by
  obtain ⟨hMembers, hNext⟩ := Prod.mk.inj h
  simp only [Record.members, List.mem_cons, List.not_mem_nil, or_false] at hm
  rcases hm with rfl | rfl | rfl | rfl | rfl
  · exact absurd (by decide) hOther
  · exact absurd (by decide) hOther
  · exact congrArg (Prod.mk v) hNext
  · exact absurd (by decide) hOther
  · exact congrArg (Prod.mk · v) hMembers

section

variable {levels : Nat} {o : Outline}

theorem exists_text_iff : (∃ s, (Codec.decode : Decoder String) levels o = .ok s) ↔
    ∃ t s, o = .text t ∧ t.content = .ok s := by
  have hText : ∀ s, (Codec.decode : Decoder String) levels o = .ok s ↔ IsText (some o) s :=
    fun s => decodesTo_text_iff (x := some o)
  simp only [hText]
  constructor
  · rintro ⟨s, _ | h⟩
    exact ⟨_, s, rfl, h⟩
  · rintro ⟨t, s, rfl, h⟩
    exact ⟨s, .text h⟩

theorem exists_count_iff : (∃ v, (Codec.decode : Decoder (Option UInt64)) levels o = .ok v) ↔
    o = .word .null none ∨
      ∃ n i, o = .number n ∧ n.value = .ok (.integer i) ∧ 0 ≤ i ∧ i < UInt64.size := by
  refine (exists_decodesTo_count_iff (x := some o)).trans ?_
  constructor
  · rintro (_ | _ | ⟨hValue, hNatural, hBound⟩)
    · exact .inl rfl
    · exact .inr ⟨_, _, rfl, hValue, hNatural, hBound⟩
  · rintro (rfl | ⟨n, i, rfl, hValue, hNatural, hBound⟩)
    · exact .null
    · exact .number hValue hNatural hBound

theorem AnnotationsReadable.exists_value {ms : List (Text × Outline)} (h : AnnotationsReadable ms)
    {p : Text × Outline} (hp : p ∈ ms) {n : String} (hName : annotation? p = some n)
    {m : Member Collection} (hm : (Record.members (α := Collection)).find? (·.name == n) = some m) :
    ∃ v, m.codec.decode levels p.2 = .ok v := by
  obtain ⟨_, hMem⟩ := (annotation?_eq_some_iff p n).mp hName
  simp only [annotations, List.mem_cons, List.not_mem_nil, or_false] at hMem
  rcases hMem with rfl | rfl | rfl
  · obtain rfl := Option.some.inj hm
    exact exists_text_iff.mpr (h.text p hp (.inl hName))
  · obtain rfl := Option.some.inj hm
    exact exists_text_iff.mpr (h.text p hp (.inr hName))
  · obtain rfl := Option.some.inj hm
    exact exists_count_iff.mpr (h.count p hp hName)

/-- Two readings of a page that differ in the annotations they met. -/
structure Alike (seen seen' : List String) (c d : Collection) : Prop where
  seen_iff : ∀ n, n ∉ annotations → (n ∈ seen ↔ n ∈ seen')
  gist_eq : c.gist = d.gist

variable {seen seen' : List String} {c d : Collection}

theorem Alike.consumed (h : Alike seen seen' c d) {n : String} (hn : n ∈ annotations)
    {c' : Collection} (hGist : c'.gist = c.gist) : Alike (n :: seen) seen' c' d where
  seen_iff k hk := by
    rw [← h.seen_iff k hk, List.mem_cons, or_iff_right]
    rintro rfl
    exact hk hn
  gist_eq := hGist.trans h.gist_eq

theorem Alike.kept (h : Alike seen seen' c d) {m : Member Collection}
    (hm : m ∈ Record.members (α := Collection)) (hOther : m.name ∉ annotations) (v : m.Content) :
    Alike (m.name :: seen) (m.name :: seen') (m.set v c) (m.set v d) where
  seen_iff k hk := by rw [List.mem_cons, List.mem_cons, h.seen_iff k hk]
  gist_eq := gist_set_congr hm hOther v h.gist_eq

theorem absorb_kept {t : Text} (hNoted : annotation? (t, o) = none) {ms ms' : List (Text × Outline)}
    (hRest : ∀ n, n ∉ annotations → ∀ c' d', Alike (n :: seen) (n :: seen') c' d' →
      (Record.absorb Record.members Outline.skip levels (n :: seen) c' ms).map gist =
        (Record.absorb Record.members Outline.skip levels (n :: seen') d' ms').map gist)
    (hSame : (Record.absorb Record.members Outline.skip levels seen c ms).map gist =
      (Record.absorb Record.members Outline.skip levels seen' d ms').map gist)
    (hAlike : Alike seen seen' c d) :
    (Record.absorb Record.members Outline.skip levels seen c ((t, o) :: ms)).map gist =
      (Record.absorb Record.members Outline.skip levels seen' d ((t, o) :: ms')).map gist := by
  cases hName : t.content with
  | error e =>
    rw [Record.absorb, Record.absorb, hName]
    rfl
  | ok n =>
    have hOther : n ∉ annotations := by
      intro hMem
      rw [(annotation?_eq_some_iff (t, o) n).mpr ⟨hName, hMem⟩] at hNoted
      cases hNoted
    cases hKnown : (Record.members (α := Collection)).find? (·.name == n) with
    | none =>
      rw [Record.absorb_cons_of_unknown hName hKnown, Record.absorb_cons_of_unknown hName hKnown]
      cases Outline.skip o with
      | error e => rfl
      | ok _ => exact hSame
    | some m =>
      obtain ⟨hm, rfl⟩ := Record.name_of_find? hKnown
      rw [Record.absorb_cons_of_known hName hKnown, Record.absorb_cons_of_known hName hKnown]
      by_cases hMet : m.name ∈ seen
      · rw [if_pos hMet, if_pos ((hAlike.seen_iff _ hOther).mp hMet)]
      · rw [if_neg hMet, if_neg fun h => hMet ((hAlike.seen_iff _ hOther).mpr h)]
        unfold Member.assign
        cases m.codec.decode levels o with
        | error e => rfl
        | ok v => exact hRest _ hOther _ _ (hAlike.kept hm hOther v)

theorem absorb_core {ms : List (Text × Outline)} (hNodup : (ms.filterMap annotation?).Nodup)
    (hValues : ∀ p ∈ ms, ∀ n m, annotation? p = some n →
      (Record.members (α := Collection)).find? (·.name == n) = some m →
        ∃ v, m.codec.decode levels p.2 = .ok v)
    (hFresh : (ms.filterMap annotation?).Disjoint seen) (hAlike : Alike seen seen' c d) :
    (Record.absorb Record.members Outline.skip levels seen c ms).map gist =
      (Record.absorb Record.members Outline.skip levels seen' d (core ms)).map gist := by
  induction ms generalizing seen seen' c d with
  | nil => exact congrArg Except.ok hAlike.gist_eq
  | cons p ms ih =>
    obtain ⟨t, o⟩ := p
    obtain ⟨hFirst, hValues⟩ := List.forall_mem_cons.mp hValues
    cases hNoted : annotation? (t, o) with
    | some n =>
      -- Only the left reading meets the annotation, which leaves the gist alone.
      obtain ⟨hName, hMem⟩ := (annotation?_eq_some_iff _ n).mp hNoted
      obtain ⟨m, hKnown, hKeeps⟩ := exists_annotated_member hMem
      obtain ⟨v, hValue⟩ := hFirst n m hNoted hKnown
      rw [List.filterMap_cons_some hNoted] at hNodup hFresh
      obtain ⟨hNew, hNodup⟩ := List.nodup_cons.mp hNodup
      obtain ⟨hUnseen, hFresh⟩ := List.disjoint_cons_left.mp hFresh
      have hCore : core ((t, o) :: ms) = core ms := List.filter_cons_of_neg (by simp [hNoted])
      rw [hCore, Record.absorb_cons_of_known hName hKnown, if_neg hUnseen, Member.assign, hValue]
      exact ih hNodup hValues (List.disjoint_cons_right.mpr ⟨hNew, hFresh⟩)
        (hAlike.consumed hMem (hKeeps v c))
    | none =>
      rw [List.filterMap_cons_none hNoted] at hNodup hFresh
      have hCore : core ((t, o) :: ms) = (t, o) :: core ms :=
        List.filter_cons_of_pos (by simp [hNoted])
      rw [hCore]
      refine absorb_kept hNoted ?_ (ih hNodup hValues hFresh hAlike) hAlike
      intro n hOther c' d' hAlike'
      refine ih hNodup hValues (List.disjoint_cons_right.mpr ⟨?_, hFresh⟩) hAlike'
      intro hMem
      obtain ⟨p, _, hp⟩ := List.mem_filterMap.mp hMem
      exact hOther ((annotation?_eq_some_iff p n).mp hp).2

end

variable {bs bs' : Bytes} {ms ms' : List (Text × Outline)}

theorem ofBytes_of_spells (h : Spells bs ms) : ofBytes bs =
    Record.absorb Record.members Outline.skip (Decoder.levels - 1) [] Record.blank ms := by
  rw [ofBytes, h.run_eq]
  exact bind_pure (m := Except Fault) _

theorem ofBytes_gist_eq (h : Spells bs ms) (h' : Spells bs' ms') (hCore : core ms = core ms')
    (hReadable : AnnotationsReadable ms) (hReadable' : AnnotationsReadable ms') :
    (ofBytes bs).map gist = (ofBytes bs').map gist := by
  have hBlank : Alike [] [] Record.blank Record.blank := ⟨fun _ _ => .rfl, rfl⟩
  rw [ofBytes_of_spells h, ofBytes_of_spells h',
    absorb_core hReadable.once (fun p hp n m hName hm => hReadable.exists_value hp hName hm)
      (List.disjoint_nil_right _) hBlank,
    absorb_core hReadable'.once (fun p hp n m hName hm => hReadable'.exists_value hp hName hm)
      (List.disjoint_nil_right _) hBlank, hCore]

theorem filterMap_annotation? (ms : List (Text × Outline)) : ms.filterMap annotation? =
    (ms.filterMap (Record.knownName? (Record.members (α := Collection)))).filter (· ∈ annotations) := by
  rw [List.filter_filterMap]
  congr 1
  funext p
  unfold annotation? Record.knownName?
  cases p.1.content with
  | error => rfl
  | ok n =>
    by_cases hMem : n ∈ annotations
    · obtain ⟨m, hKnown, _⟩ := exists_annotated_member hMem
      simp only [hMem, if_true, hKnown, Option.isSome_some, Option.filter_some, decide_true]
    · simp only [hMem, if_false]
      split
      · simp only [Option.filter_some, hMem, decide_false, Bool.false_eq_true, if_false]
      · rfl

theorem annotationsReadable_of_ofBytes (h : Spells bs ms) {c : Collection} (hRead : ofBytes bs = .ok c) :
    AnnotationsReadable ms := by
  rw [ofBytes_of_spells h] at hRead
  obtain ⟨hAlone, hNodup, _⟩ := Record.fits_iff.mp (Record.fits_of_absorb hRead)
  have hValue : ∀ p ∈ ms, ∀ n m, annotation? p = some n →
      (Record.members (α := Collection)).find? (·.name == n) = some m →
        ∃ v, m.codec.decode (Decoder.levels - 1) p.2 = .ok v := by
    intro p hp n m hName hm
    obtain ⟨k, hContent, hFits⟩ := hAlone p hp
    obtain rfl := Except.ok.inj (hContent.symm.trans ((annotation?_eq_some_iff p n).mp hName).1)
    rw [hm] at hFits
    exact hFits
  constructor
  · rw [filterMap_annotation?]
    exact hNodup.filter _
  · rintro p hp (hName | hName)
    · exact exists_text_iff.mp (hValue p hp _ _ hName rfl)
    · exact exists_text_iff.mp (hValue p hp _ _ hName rfl)
  · intro p hp hName
    exact exists_count_iff.mp (hValue p hp _ _ hName rfl)

end Collection

def Collection.taken (start : String) (met : List String) (c : Collection) :
    Except Error (List String × Option String) :=
  match c.next? with
  | none => .ok (c.memberUris, none)
  | some link =>
    if link ∈ met then .error (.validation ("Collection " ++ start ++ " links back to page " ++ link))
    else .ok (c.memberUris, some link)

theorem Collection.taken_of_gist (start : String) (met : List String) {x y : Except Error Collection}
    (h : x.map gist = y.map gist) : x.bind (taken start met) = y.bind (taken start met) := by
  cases x with
  | error e =>
    cases y with
    | error => exact congrArg Except.error (Except.error.inj h)
    | ok => cases h
  | ok c =>
    cases y with
    | error => cases h
    | ok d =>
      have hGist : c.gist = d.gist := Except.ok.inj h
      change taken start met c = taken start met d
      unfold taken
      rw [next?_of_gist hGist, memberUris_of_gist hGist]

section

variable [SteadyTransport σ] {s t : σ}

theorem readPage_eq (start : String) (met : List String) (uri : String) (s : σ) :
    (readPage start met uri : Call σ _) s =
      ((page s uri).bind (Collection.taken start met), asked [uri] s) := by
  unfold readPage
  rw [Call.bind_run, getPage_eq]
  cases page s uri with
  | error e => rfl
  | ok c =>
    change _ = (Collection.taken start met c, _)
    unfold Collection.taken
    cases hNext : c.next? with
    | none =>
      simp only [hNext]
      rfl
    | some link =>
      by_cases hMet : link ∈ met
      · simp only [hNext, List.contains_iff_mem, hMet, if_true]
        rfl
      · simp only [hNext, List.contains_iff_mem, hMet, if_false]
        rfl

/-- A walk takes the same from the pages of both services. -/
def SamePages (s t : σ) : Prop :=
  ∀ uri, (page s uri).map Collection.gist = (page t uri).map Collection.gist

def AskedAlike (s t x y : σ) : Prop := ∃ us, x = asked us s ∧ y = asked us t

/-- Two runs that made the same requests and gave related results, or that both have no end. -/
inductive EndAlike (s t : σ) (related : β → β → Prop) : Option (β × σ) → Option (β × σ) → Prop
  | endless : EndAlike s t related none none
  | ended {b b' : β} (us : List String) (h : related b b') :
      EndAlike s t related (some (b, asked us s)) (some (b', asked us t))

theorem EndAlike.of_unasked {related : β → β → Prop} {b : β} (h : related b b) :
    EndAlike s t related (some (b, s)) (some (b, t)) := by
  have hEnded := EndAlike.ended (s := s) (t := t) [] h
  rwa [asked_nil, asked_nil] at hEnded

theorem EndAlike.imp {related related' : β → β → Prop} {x y : Option (β × σ)}
    (h : EndAlike s t related x y) (hImp : ∀ b b', related b b' → related' b b') :
    EndAlike s t related' x y := by
  cases h with
  | endless => exact .endless
  | ended us h => exact .ended us (hImp _ _ h)

theorem EndAlike.exists_of_ended {related : β → β → Prop} {x y : Option (β × σ)} {b : β} {s' : σ}
    (h : EndAlike s t related x y) (hEnded : x = some (b, s')) :
    ∃ us b', s' = asked us s ∧ y = some (b', asked us t) ∧ related b b' := by
  cases h with
  | endless => cases hEnded
  | ended us h =>
    cases hEnded
    exact ⟨us, _, rfl, rfl, h⟩

namespace SamePages

theorem symm (h : SamePages s t) : SamePages t s := fun uri => (h uri).symm

theorem readPage (h : SamePages s t) (start : String) (met : List String) (uri : String) :
    Simulates (AskedAlike s t) (fun _ => True) (readPage start met uri : Call σ _).run
      (Redfish.readPage start met uri : Call σ _).run where
  was_fit _ _ := trivial
  agrees x y hAsked _ := by
    obtain ⟨us, rfl, rfl⟩ := hAsked
    simp only [ExceptT.run, readPage_eq, page_asked]
    refine ⟨(Collection.taken_of_gist start met (h uri)).symm, us ++ [uri], ?_, ?_⟩
    · exact (asked_append us [uri] s).symm
    · exact (asked_append us [uri] t).symm

theorem walkPages (h : SamePages s t) {uri : String} {r : Except Error (List String) × σ}
    (hWalk : walkPages uri [] uri s = some r) :
    ∃ us, r.2 = asked us s ∧ Redfish.walkPages uri [] uri t = some (r.1, asked us t) := by
  obtain ⟨_, hAgrees⟩ := Simulates.walkPages (h.readPage uri) hWalk
  obtain ⟨t', hWalk', us, hState, rfl⟩ :=
    hAgrees t ⟨[], (asked_nil s).symm, (asked_nil t).symm⟩ trivial
  exact ⟨us, hState, hWalk'⟩

theorem getCollection (h : SamePages s t) (uri : String) :
    EndAlike s t (· = ·) (getCollection uri s) (Redfish.getCollection uri t) := by
  unfold Redfish.getCollection
  cases hWalk : Redfish.walkPages uri [] uri s with
  | some r =>
    obtain ⟨result, s'⟩ := r
    obtain ⟨us, rfl, hWalk'⟩ := h.walkPages hWalk
    rw [hWalk']
    exact .ended us rfl
  | none =>
    -- If the walk came to an end on the other service, it would on this one.
    have hWalk' : Redfish.walkPages uri [] uri t = none := by
      cases hOther : Redfish.walkPages uri [] uri t with
      | none => rfl
      | some r =>
        obtain ⟨_, _, hBack⟩ := h.symm.walkPages hOther
        cases hWalk.symm.trans hBack
    rw [hWalk']
    exact .endless

theorem listReferenced [Resource α] (h : SamePages s t) (uri : String) :
    EndAlike s t (fun listed listed' =>
        (∀ members s', Redfish.getCollection uri s = some (.ok members, s') →
          ∀ m ∈ members, (object s m : Except Error α) = object t m) → listed = listed')
      ((listReferenced uri : Listing σ α (List α)) s)
      ((Redfish.listReferenced uri : Listing σ α (List α)) t) := by
  by_cases hUri : uri = ""
  · subst hUri
    exact .of_unasked fun _ => rfl
  · rw [listReferenced_run hUri, listReferenced_run hUri]
    have hAlike := h.getCollection uri
    generalize hs : Redfish.getCollection uri s = x at hAlike
    generalize Redfish.getCollection uri t = y at hAlike
    cases hAlike with
    | endless => exact .endless
    | @ended result _ us hSame =>
      subst hSame
      cases result with
      | error e => exact .ended us fun _ => rfl
      | ok members =>
        dsimp only
        rw [fetchMembers_steady, fetchMembers_steady, object_asked, object_asked, ← asked_append,
          ← asked_append]
        refine .ended (us ++ members) ?_
        intro hSame
        rw [tally_congr (hSame members _ rfl)]

end SamePages

end

/-- Two answers, the same but for the annotations of a page. -/
inductive DiffersInAnnotations : Except Error Response → Except Error Response → Prop
  | same (answer : Except Error Response) : DiffersInAnnotations answer answer
  | annotated {response : Response} {body : Bytes} {ms ms' : List (Text × Outline)}
      (h : Spells response.body ms) (h' : Spells body ms')
      (hCore : Collection.core ms = Collection.core ms') :
      DiffersInAnnotations (.ok response) (.ok { response with body })

theorem DiffersInAnnotations.gist_eq {x y : Except Error Response} (h : DiffersInAnnotations x y)
    (uri : String)
    (hReadable : x ≠ y → ∀ response ms, x = .ok response ∨ y = .ok response →
      Spells response.body ms → Collection.AnnotationsReadable ms) :
    let read := fun response : Response => (Collection.ofBytes response.body).mapError (Error.decode uri)
    (x.bind read).map Collection.gist = (y.bind read).map Collection.gist := by
  intro read
  by_cases hSame : x = y
  · rw [hSame]
  · have hReadable := hReadable hSame
    cases h with
    | same => rfl
    | annotated hSpells hSpells' hCore =>
      have hGist := Collection.ofBytes_gist_eq hSpells hSpells' hCore
        (hReadable _ _ (.inl rfl) hSpells) (hReadable _ _ (.inr rfl) hSpells')
      change (read _).map _ = (read _).map _
      simp only [read, map_mapError, hGist]

namespace FixedService

/-- Where the two services answer differently, the annotations can be read. -/
def DiffersReadably (s t : FixedService) : Prop :=
  ∀ uri, s.answer .get uri ≠ t.answer .get uri → ∀ response ms,
    s.answer .get uri = .ok response ∨ t.answer .get uri = .ok response →
      Spells response.body ms → Collection.AnnotationsReadable ms

end FixedService

/-- Services whose pages differ in annotations that can be read are asked the same and give the same, whatever
the annotations say, as long as no member is one of those pages. A page with an annotation that cannot be read
is refused as a whole, and none of its members is asked for. -/
theorem collection_fetch_ignores_readable_annotations [Resource α] {s t : FixedService}
    (hAnnotated : ∀ uri, DiffersInAnnotations (s.answer .get uri) (t.answer .get uri)) :
    (s.DiffersReadably t → ∀ uri,
      EndAlike s t (· = ·) (getCollection uri s) (getCollection uri t) ∧
      EndAlike s t (fun listed listed' =>
          (∀ members s', getCollection uri s = some (.ok members, s') →
            ∀ m ∈ members, s.answer .get m = t.answer .get m) → listed = listed')
        ((listReferenced uri : Listing FixedService α (List α)) s)
        ((listReferenced uri : Listing FixedService α (List α)) t)) ∧
    ∀ uri response ms, s.answer .get uri = .ok response → Spells response.body ms →
      ¬Collection.AnnotationsReadable ms → ∃ fault,
        getCollection uri s = some (.error (.decode uri fault), s.got [uri]) ∧
        (uri ≠ "" → (listReferenced uri : Listing FixedService α (List α)) s =
          some (.error (.collection (.decode uri fault)), s.got [uri])) := by
  constructor
  · intro hReadable uri
    have hPages : SamePages s t := fun uri => (hAnnotated uri).gist_eq uri (hReadable uri)
    refine ⟨hPages.getCollection uri, (hPages.listReferenced (α := α) uri).imp ?_⟩
    intro listed listed' hSame hMembers
    refine hSame fun members s' hRead m hm => ?_
    exact congrArg (Except.bind · _) (hMembers members s' hRead m hm)
  · intro uri response ms hAnswer hSpells hUnreadable
    have hPage : ∃ fault, page s uri = .error (.decode uri fault) := by
      change ∃ fault, (s.answer .get uri).bind _ = _
      rw [hAnswer]
      cases hRead : Collection.ofBytes response.body with
      | ok c => exact absurd (Collection.annotationsReadable_of_ofBytes hSpells hRead) hUnreadable
      | error fault =>
        refine ⟨fault, ?_⟩
        change (Collection.ofBytes response.body).mapError _ = _
        rw [hRead]
        rfl
    obtain ⟨fault, hPage⟩ := hPage
    have hWalk := getCollection_of_error hPage
    refine ⟨fault, hWalk, ?_⟩
    intro hUri
    rw [listReferenced_run hUri, hWalk]
    rfl

def annotatedPage (annotations : String) : Bytes :=
  Bytes.ofText ("\x7b\"Members\":[\x7b\"@odata.id\":\"/a\"\x7d]" ++ annotations ++ "\x7d")

namespace FixedService

def ofPage (body : Bytes) : FixedService where
  answer method uri :=
    if uri = "/c" then .ok (.plain .ok body) else .error (.status method uri .notFound none)
  requests := []

variable {body body' : Bytes}

theorem ofPage_differs {ms ms' : List (Text × Outline)} (h : Spells body ms) (h' : Spells body' ms')
    (hCore : Collection.core ms = Collection.core ms') (uri : String) :
    DiffersInAnnotations ((ofPage body).answer .get uri) ((ofPage body').answer .get uri) := by
  by_cases hUri : uri = "/c"
  · subst hUri
    let response : Response := .plain .ok body
    exact show DiffersInAnnotations (.ok response) (.ok { response with body := body' }) from
      .annotated h h' hCore
  · simp only [ofPage, hUri, if_false]
    exact .same _

theorem ofPage_differsReadably {c c' : Collection} (h : Collection.ofBytes body = .ok c)
    (h' : Collection.ofBytes body' = .ok c') : (ofPage body).DiffersReadably (ofPage body') := by
  intro uri hDiffers response ms hAnswer hSpells
  by_cases hUri : uri = "/c"
  · subst hUri
    rcases hAnswer with hAnswer | hAnswer
    · obtain rfl := Except.ok.inj hAnswer
      exact Collection.annotationsReadable_of_ofBytes hSpells h
    · obtain rfl := Except.ok.inj hAnswer
      exact Collection.annotationsReadable_of_ofBytes hSpells h'
  · simp only [ofPage, hUri, if_false] at hDiffers
    exact absurd rfl hDiffers

end FixedService

theorem annotated_page_is_walked_alike :
    let plain := FixedService.ofPage (annotatedPage "")
    let annotated := FixedService.ofPage (annotatedPage ",\"Name\":\"x\",\"Members@odata.count\":7")
    (∃ us, getCollection "/c" annotated = some (.ok ["/a"], annotated.got us)) ∧
      ∃ listed us,
        (listReferenced "/c" : Listing FixedService Sensor (List Sensor)) plain =
          some (listed, plain.got us) ∧
        (listReferenced "/c" : Listing FixedService Sensor (List Sensor)) annotated =
          some (listed, annotated.got us) := by
  intro plain annotated
  have hDiffers : ∀ uri, DiffersInAnnotations (plain.answer .get uri) (annotated.answer .get uri) :=
    FixedService.ofPage_differs ⟨[], rfl, rfl⟩ ⟨[], rfl, rfl⟩ rfl
  have hReadable : plain.DiffersReadably annotated := FixedService.ofPage_differsReadably rfl rfl
  have hPlain : getCollection "/c" plain = some (.ok ["/a"], plain.got ["/c"]) :=
    getCollection_of_page (c := ⟨"", "", [⟨"/a"⟩], none, none⟩) rfl rfl
  obtain ⟨hSame, _⟩ := collection_fetch_ignores_readable_annotations (α := Sensor) hDiffers
  obtain ⟨hCollection, hListed⟩ := hSame hReadable "/c"
  obtain ⟨us, _, _, hAnnotated, rfl⟩ := hCollection.exists_of_ended hPlain
  obtain ⟨listed, plain', hRun⟩ : ∃ listed plain',
      (listReferenced "/c" : Listing FixedService Sensor (List Sensor)) plain = some (listed, plain') := by
    rw [listReferenced_run (by decide), hPlain]
    exact ⟨_, _, fetchMembers_steady ["/a"] _⟩
  obtain ⟨us', listed', rfl, hRun', hSameListed⟩ := hListed.exists_of_ended hRun
  refine ⟨⟨us, hAnnotated⟩, listed, us', hRun, ?_⟩
  rw [hRun', hSameListed ?_]
  · rfl
  intro members s' hRead m hm
  rw [hPlain] at hRead
  cases hRead
  obtain rfl := List.mem_singleton.mp hm
  rfl

/-- A count that is no natural number hides the members of the page, though nothing is made of counts. -/
theorem negative_count_hides_members :
    let counted := FixedService.ofPage (annotatedPage ",\"Members@odata.count\":1")
    let negative := FixedService.ofPage (annotatedPage ",\"Members@odata.count\":-1")
    (∀ uri, DiffersInAnnotations (counted.answer .get uri) (negative.answer .get uri)) ∧
      getCollection "/c" counted = some (.ok ["/a"], counted.got ["/c"]) ∧
      getCollection "/c" negative =
        some (.error (.decode "/c" (.data .invalidValue)), negative.got ["/c"]) := by
  intro counted negative
  refine ⟨?_, ?_, ?_⟩
  · exact FixedService.ofPage_differs ⟨[], rfl, rfl⟩ ⟨[], rfl, rfl⟩ rfl
  · exact getCollection_of_page (c := ⟨"", "", [⟨"/a"⟩], some 1, none⟩) rfl rfl
  · exact getCollection_of_error rfl

end Redfish
