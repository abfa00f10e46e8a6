import Mathlib.Data.List.Nodup
import Mathlib.Data.List.Perm.Subperm
import Redfish.MemoryService
import Redfish.Proofs.Page
import Redfish.Proofs.Recording

/-!
# The pages of a collection

A walk over pages goes from link to link, as their texts have them. It ends at the first page that
cannot be read, that has no link, or whose link leads back to a page that was asked for before. A walk
over pages none of which is like that does not end.
-/

namespace Redfish

theorem Collection.next?_eq_some_iff (c : Collection) (link : String) :
    c.next? = some link ↔ c.nextLink = some link ∧ link ≠ "" := by
  unfold Collection.next?
  rw [Option.filter_eq_some_iff]
  simp

theorem Collection.next?_eq_none_iff (c : Collection) :
    c.next? = none ↔ c.nextLink = none ∨ c.nextLink = some "" := by
  unfold Collection.next?
  cases c.nextLink <;> simp

/-- How a walk from `start` ends at what is found under a URI. It met the URIs `met`, this one included,
and the members `found` on the pages before. -/
inductive Ending (start : String) (met found : List String) :
    Except Error Collection → Except Error (List String) → Prop
  | failed (e : Error) : Ending start met found (.error e) (.error e)
  | complete {c : Collection} (hLast : c.nextLink = none ∨ c.nextLink = some "") :
      Ending start met found (.ok c) (.ok (found ++ c.memberUris))
  | back {c : Collection} {link : String} (hNext : c.nextLink = some link) (hLink : link ≠ "")
      (hMet : link ∈ met) : Ending start met found (.ok c)
        (.error (.validation ("Collection " ++ start ++ " links back to page " ++ link)))

theorem Ending.after {start : String} {met met' found : List String}
    {answer : Except Error Collection} {result : Except Error (List String)}
    (h : Ending start met found answer result) (hMet : ∀ u ∈ met, u ∈ met') (earlier : List String) :
    Ending start met' (earlier ++ found) answer (result.map (earlier ++ ·)) := by
  cases h with
  | failed e => exact .failed e
  | complete hLast =>
    have hFound : Ending start met' (earlier ++ found) _ _ := .complete hLast
    rw [List.append_assoc] at hFound
    exact hFound
  | back hNext hLink hBack => exact .back hNext hLink (hMet _ hBack)

section

variable [Transport σ]

/-- What one GET tells of a page: it fails, its document is not that of a page, or its text has the
members and the link of the page. -/
inductive PageFetch (uri : String) (s : σ) : Except Error Collection → σ → Prop
  | refused {e : Error} {s' : σ} (hGet : Transport.get uri s = (.error e, s')) :
      PageFetch uri s (.error e) s'
  | unread {response : Response} {s' : σ} {fault : Json.Fault}
      (hGet : Transport.get uri s = (.ok response, s'))
      (hRead : Collection.ofBytes response.body = .error fault)
      (hText : ∀ uris next, ¬IsPage response.body uris next) :
      PageFetch uri s (.error (.decode uri fault)) s'
  | page {response : Response} {s' : σ} {c : Collection}
      (hGet : Transport.get uri s = (.ok response, s'))
      (hRead : Collection.ofBytes response.body = .ok c)
      (hText : IsPage response.body c.memberUris c.nextLink) : PageFetch uri s (.ok c) s'

theorem getPage_of_error {uri : String} {s s' : σ} {e : Error}
    (h : Transport.get uri s = (.error e, s')) :
    (getPage uri : Call σ Collection) s = (.error e, s') := by
  unfold getPage
  rw [Call.bind_run, h]

theorem getPage_of_response {uri : String} {s s' : σ} {response : Response}
    (h : Transport.get uri s = (.ok response, s')) :
    (getPage uri : Call σ Collection) s =
      ((Collection.ofBytes response.body).mapError (.decode uri), s') := by
  unfold getPage
  rw [Call.bind_run, h]
  dsimp only
  rw [Call.lift_run]

theorem pageFetch_iff {uri : String} {s s' : σ} {answer : Except Error Collection} :
    PageFetch uri s answer s' ↔ (getPage uri : Call σ Collection) s = (answer, s') := by
  constructor
  · rintro (hGet | ⟨hGet, hRead, _⟩ | ⟨hGet, hRead, _⟩)
    · exact getPage_of_error hGet
    · rw [getPage_of_response hGet, hRead]
      rfl
    · rw [getPage_of_response hGet, hRead]
      rfl
  · intro h
    rcases hGet : (Transport.get uri : Call σ Response) s with ⟨answered, s₁⟩
    cases answered with
    | error e =>
      rw [getPage_of_error hGet] at h
      obtain ⟨rfl, rfl⟩ := Prod.mk.inj h
      exact .refused hGet
    | ok response =>
      rw [getPage_of_response hGet] at h
      obtain ⟨rfl, rfl⟩ := Prod.mk.inj h
      cases hRead : Collection.ofBytes response.body with
      | ok c => exact .page hGet hRead (isPage_iff.mpr ⟨c, hRead, rfl, rfl⟩)
      | error fault =>
        refine .unread hGet hRead ?_
        intro uris next hPage
        obtain ⟨c, hOther, _⟩ := isPage_iff.mp hPage
        rw [hRead] at hOther
        cases hOther

/-- Pages that are read one after the other, each but the first under the link of the one before. The
last of them links to `last`. -/
inductive Leads : σ → String → List (String × Collection) → σ → String → Prop
  | here (s : σ) (uri : String) : Leads s uri [] s uri
  | on {s s₁ s₂ : σ} {uri link last : String} {c : Collection} {pages : List (String × Collection)}
      (hPage : PageFetch uri s (.ok c) s₁)
      (hNext : c.nextLink = some link) (hLink : link ≠ "")
      (rest : Leads s₁ link pages s₂ last) : Leads s uri ((uri, c) :: pages) s₂ last

/-- The URIs that a walk asks for: those of the pages, and then `last`. -/
def asksFor (pages : List (String × Collection)) (last : String) : List String :=
  pages.map (·.1) ++ [last]

structure Unmet (visited uris : List String) : Prop where
  nodup : uris.Nodup
  not_mem : ∀ u ∈ uris, u ∉ visited

theorem unmet_singleton {visited : List String} {uri : String} (h : uri ∉ visited) :
    Unmet visited [uri] := ⟨List.nodup_singleton uri, List.forall_mem_singleton.mpr h⟩

theorem Unmet.cons {visited uris : List String} {uri : String} (h : Unmet (uri :: visited) uris)
    (hNew : uri ∉ visited) : Unmet visited (uri :: uris) where
  nodup := by
    refine List.nodup_cons.mpr ⟨?_, h.nodup⟩
    intro hMem
    exact h.not_mem uri hMem List.mem_cons_self
  not_mem := by
    refine List.forall_mem_cons.mpr ⟨hNew, ?_⟩
    intro u hu hVisited
    exact h.not_mem u hu (List.mem_cons_of_mem _ hVisited)

/-- A walk from `uri` on that asks for each page once, and for none that was visited, and ends at
`last`. -/
structure Walk (start : String) (visited : List String) (s : σ) (uri : String)
    (pages : List (String × Collection)) (last : String) (result : Except Error (List String))
    (s' : σ) : Prop where
  unmet : Unmet visited (asksFor pages last)
  ends : ∃ s₁ answer, Leads s uri pages s₁ last ∧ PageFetch last s₁ answer s' ∧
    Ending start (asksFor pages last ++ visited) (pages.flatMap fun p => p.2.memberUris) answer result

variable {start uri link last : String} {visited : List String} {s s₁ s' : σ} {c : Collection}
  {pages : List (String × Collection)} {result : Except Error (List String)}

theorem Walk.single {answer : Except Error Collection}
    (hPage : PageFetch uri s answer s') (hFresh : uri ∉ visited)
    (hEnding : Ending start (uri :: visited) [] answer result) :
    Walk start visited s uri [] uri result s' where
  unmet := unmet_singleton hFresh
  ends := ⟨s, answer, .here s uri, hPage, hEnding⟩

theorem Walk.cons (hPage : PageFetch uri s (.ok c) s₁)
    (hNext : c.nextLink = some link) (hLink : link ≠ "") (hFresh : uri ∉ visited)
    (rest : Walk start (uri :: visited) s₁ link pages last result s') :
    Walk start visited s uri ((uri, c) :: pages) last (result.map (c.memberUris ++ ·)) s' := by
  obtain ⟨s₂, answer, hLeads, hLast, hEnding⟩ := rest.ends
  refine ⟨rest.unmet.cons hFresh, s₂, answer, .on hPage hNext hLink hLeads, hLast, ?_⟩
  refine hEnding.after ?_ c.memberUris
  intro u hu
  change u ∈ uri :: (asksFor pages last ++ visited)
  simp only [List.mem_append, List.mem_cons] at hu ⊢
  tauto

/-- What one page does to a walk: it ends it, or it links to a page that was not met before. -/
theorem readPage_cases (start : String) (met : List String) (uri : String) (s : σ) :
    (∃ answer s₁, PageFetch uri s answer s₁ ∧
      ∃ result : Except Error (List String), Ending start met [] answer result ∧
        (readPage start met uri : Call σ _) s = (result.map fun uris => (uris, none), s₁)) ∨
    ∃ c s₁ link, PageFetch uri s (.ok c) s₁ ∧ c.nextLink = some link ∧
      link ≠ "" ∧ link ∉ met ∧
      (readPage start met uri : Call σ _) s = (.ok (c.memberUris, some link), s₁) := by
  unfold readPage
  rw [Call.bind_run]
  rcases hRun : (getPage uri : Call σ Collection) s with ⟨answer, s₁⟩
  have hPage := pageFetch_iff.mpr hRun
  cases answer with
  | error e => exact .inl ⟨_, _, hPage, _, .failed e, rfl⟩
  | ok c =>
    cases hNext : c.next? with
    | none =>
      refine .inl ⟨_, _, hPage, _, .complete (c.next?_eq_none_iff.mp hNext), ?_⟩
      simp only [hNext]
      rfl
    | some link =>
      obtain ⟨hLink, hSome⟩ := (c.next?_eq_some_iff link).mp hNext
      by_cases hMet : link ∈ met
      · refine .inl ⟨_, _, hPage, _, .back hLink hSome hMet, ?_⟩
        simp only [hNext, List.contains_iff_mem, hMet, if_true]
        rfl
      · refine .inr ⟨c, _, link, hPage, hLink, hSome, hMet, ?_⟩
        simp only [hNext, List.contains_iff_mem, hMet, if_false]
        rfl

theorem walk_of_walkPages {r : Except Error (List String) × σ} (hFresh : uri ∉ visited)
    (h : walkPages start visited uri s = some r) :
    ∃ pages last, Walk start visited s uri pages last r.1 r.2 := by
  -- That the page is new is no part of the code: it holds at the start, and the check of a link keeps it.
  refine walkPages.partial_correctness start (fun visited uri s r => uri ∉ visited →
    ∃ pages last, Walk start visited s uri pages last r.1 r.2) ?_ visited uri s r h hFresh
  intro rest ih visited uri s r h hFresh
  rcases readPage_cases start (uri :: visited) uri s with
    ⟨answer, s₁, hPage, result, hEnding, hRead⟩ | ⟨c, s₁, link, hPage, hNext, hLink, hNew, hRead⟩
  · rw [hRead] at h
    cases result with
    | error e =>
      cases h
      exact ⟨[], uri, .single hPage hFresh hEnding⟩
    | ok uris =>
      cases h
      exact ⟨[], uri, .single hPage hFresh hEnding⟩
  · rw [hRead] at h
    obtain ⟨⟨more, s'⟩, hRest, hResult⟩ := Option.bind_eq_some_iff.mp h
    cases hResult
    obtain ⟨pages, last, hWalk⟩ := ih _ _ _ _ hRest hNew
    exact ⟨_, last, hWalk.cons hPage hNext hLink hFresh⟩

/-- A walk that gives nothing is one that goes on: after any number of pages there is one more. -/
theorem leads_of_walkPages_eq_none (hFresh : uri ∉ visited)
    (h : walkPages start visited uri s = none) (n : Nat) :
    ∃ pages last s', Leads s uri pages s' last ∧ pages.length = n ∧
      Unmet visited (asksFor pages last) := by
  induction n generalizing visited uri s with
  | zero => exact ⟨[], uri, s, .here s uri, rfl, unmet_singleton hFresh⟩
  | succ n ih =>
    rw [walkPages] at h
    rcases readPage_cases start (uri :: visited) uri s with
      ⟨answer, s₁, hPage, result, hEnding, hRead⟩ |
      ⟨c, s₁, link, hPage, hNext, hLink, hNew, hRead⟩
    · rw [hRead] at h
      cases result <;> cases h
    · rw [hRead] at h
      have hRest : walkPages start (uri :: visited) link s₁ = none := by
        cases hMore : walkPages start (uri :: visited) link s₁ with
        | none => rfl
        | some r =>
          simp only [hMore] at h
          cases h
      obtain ⟨pages, last, s', hLeads, hLength, hUnmet⟩ := ih hNew hRest
      exact ⟨(uri, c) :: pages, last, s', .on hPage hNext hLink hLeads,
        congrArg Nat.succ hLength, hUnmet.cons hFresh⟩

/-- Where only pages under certain URIs are ever read, a walk reads no more pages than these. -/
theorem Leads.length_le {keys : List String} {Inv : σ → Prop}
    (hKeys : ∀ s uri c s', Inv s → (getPage uri : Call σ Collection) s = (.ok c, s') →
      uri ∈ keys ∧ Inv s')
    (hInv : Inv s) (h : Leads s uri pages s' last) (hNodup : (asksFor pages last).Nodup) :
    pages.length ≤ keys.length := by
  have hMem : ∀ u ∈ pages.map (·.1), u ∈ keys := by
    clear hNodup
    induction h with
    | here s uri => exact List.forall_mem_nil _
    | @on s s₁ _ uri _ _ c _ hPage _ _ _ ih =>
      obtain ⟨hFirst, hInv₁⟩ := hKeys s uri c s₁ hInv (pageFetch_iff.mp hPage)
      exact List.forall_mem_cons.mpr ⟨hFirst, ih hInv₁⟩
  have hPages : (pages.map (·.1)).Nodup := (List.nodup_append.mp hNodup).1
  rw [← List.length_map (·.1)]
  exact (hPages.subperm hMem).length_le

theorem walkPages_isSome {keys : List String} {Inv : σ → Prop}
    (hKeys : ∀ s uri c s', Inv s → (getPage uri : Call σ Collection) s = (.ok c, s') →
      uri ∈ keys ∧ Inv s')
    (hInv : Inv s) (hFresh : uri ∉ visited) : (walkPages start visited uri s).isSome = true := by
  cases hWalk : walkPages start visited uri s with
  | some r => rfl
  | none =>
    obtain ⟨pages, last, s', hLeads, hLength, hUnmet⟩ :=
      leads_of_walkPages_eq_none hFresh hWalk (keys.length + 1)
    have hLe := hLeads.length_le hKeys hInv hUnmet.nodup
    omega

theorem PageFetch.made {s s' : Recorded σ} {answer : Except Error Collection}
    (h : PageFetch uri s answer s') : s'.made = s.made ++ [.get uri] := by
  have hMade : ((Transport.get uri : Call (Recorded σ) Response) s).2.made = s.made ++ [.get uri] := rfl
  cases h with
  | refused hGet | unread hGet | page hGet =>
    rw [hGet] at hMade
    exact hMade

theorem Leads.made {s s' : Recorded σ} (h : Leads s uri pages s' last) :
    s'.made = s.made ++ (pages.map (·.1)).map .get := by
  induction h with
  | here s uri => simp
  | on hPage _ _ _ ih =>
    rw [ih, hPage.made, List.map_cons, List.map_cons, List.append_assoc]
    rfl

theorem Walk.made {s s' : Recorded σ} (h : Walk start visited s uri pages last result s') :
    s'.made = s.made ++ (asksFor pages last).map .get := by
  obtain ⟨s₁, answer, hLeads, hLast, _⟩ := h.ends
  rw [hLast.made, hLeads.made, asksFor, List.map_append, List.append_assoc]
  rfl

end

/-- The pages of a collection are asked for in order, each once, and the walk over them ends as the first
page says whose text has no new page to go on to. If every page has one, it does not end. -/
theorem getCollection_follows_links [Transport σ] (uri : String) (s : Recorded σ) :
    match getCollection uri s with
    | some (result, s') => ∃ pages last, Walk uri [] s uri pages last result s' ∧
      s'.made = s.made ++ (asksFor pages last).map .get
    | none => ∀ n, ∃ pages last s', Leads s uri pages s' last ∧ pages.length = n ∧
      (asksFor pages last).Nodup ∧ s'.made = s.made ++ (pages.map (·.1)).map .get := by
  cases hWalk : getCollection uri s with
  | some r =>
    obtain ⟨pages, last, hEnds⟩ := walk_of_walkPages List.not_mem_nil hWalk
    exact ⟨pages, last, hEnds, hEnds.made⟩
  | none =>
    intro n
    obtain ⟨pages, last, s', hLeads, hLength, hUnmet⟩ :=
      leads_of_walkPages_eq_none List.not_mem_nil hWalk n
    exact ⟨pages, last, s', hLeads, hLength, hUnmet.nodup, hLeads.made⟩

theorem two_pages_are_followed :
    let first := Bytes.ofText
      "\x7b\"Members\":[\x7b\"@odata.id\":\"/a\"\x7d],\"Members@odata.nextLink\":\"/c?2\"\x7d"
    let second := Bytes.ofText
      ("\x7b\"Members@odata.nextLink\":null,\"Members\":[\x7b\"@odata.id\":\"/b\"\x7d," ++
        "\x7b\"@odata.id\":\"/a\"\x7d]\x7d")
    let service : Recorded MemoryService := ⟨(MemoryService.empty.insert "/c" first).insert "/c?2" second, []⟩
    IsPage first ["/a"] (some "/c?2") ∧ IsPage second ["/b", "/a"] none ∧
      ∃ s' pages last, getCollection "/c" service = some (.ok ["/a", "/b", "/a"], s') ∧
        Walk "/c" [] service "/c" pages last (.ok ["/a", "/b", "/a"]) s' ∧
        asksFor pages last = ["/c", "/c?2"] ∧ s'.made = [.get "/c", .get "/c?2"] := by
  intro first second service
  refine ⟨isPage_iff.mpr ⟨_, rfl, rfl, rfl⟩, isPage_iff.mpr ⟨_, rfl, rfl, rfl⟩, ?_⟩
  let asked := ((Transport.get "/c" : Call (Recorded MemoryService) Response) service).2
  let ended := ((Transport.get "/c?2" : Call (Recorded MemoryService) Response) asked).2
  have hFirst : (readPage "/c" ["/c"] "/c" : Call (Recorded MemoryService) _) service =
      (.ok (["/a"], some "/c?2"), asked) := rfl
  have hSecond : (readPage "/c" ["/c?2", "/c"] "/c?2" : Call (Recorded MemoryService) _) asked =
      (.ok (["/b", "/a"], none), ended) := rfl
  have hRun : getCollection "/c" service = some (.ok ["/a", "/b", "/a"], ended) := by
    rw [getCollection, walkPages, hFirst]
    dsimp only
    rw [walkPages, hSecond]
    rfl
  have hFollowed := getCollection_follows_links "/c" service
  rw [hRun] at hFollowed
  obtain ⟨pages, last, hWalk, hMade⟩ := hFollowed
  refine ⟨ended, pages, last, hRun, hWalk, ?_, rfl⟩
  apply List.map_injective_iff.mpr fun _ _ h => Made.get.inj h
  exact hMade.symm

end Redfish
