import Redfish.Listing
import Redfish.Proofs.Paging
import Redfish.Proofs.SteadyTransport
import Redfish.Resource.Sensor

/-!
# What a listing accounts for

A listing asks for the pages of a collection and then once for every member, in order. Each member is
either retrieved or reported with its own error, whatever happens to the others.
-/

namespace Redfish

open SteadyTransport

section

variable [SteadyTransport σ]

/-- Pages that were fetched from a URI on, each but the first led to by the one before. -/
inductive PagesFetched (s : σ) : String → List String → Prop
  | last (uri : String) : PagesFetched s uri [uri]
  | next {uri link : String} {uris : List String} {c : Collection} (hPage : page s uri = .ok c)
      (hNext : c.next? = some link) (rest : PagesFetched s link uris) :
      PagesFetched s uri (uri :: uris)

/-- All pages of a collection, up to the one that leads nowhere. -/
inductive Pages (s : σ) : String → List (String × Collection) → Prop
  | last {uri : String} {c : Collection} (hPage : page s uri = .ok c) (hLast : c.next? = none) :
      Pages s uri [(uri, c)]
  | next {uri link : String} {pages : List (String × Collection)} {c : Collection}
      (hPage : page s uri = .ok c) (hNext : c.next? = some link) (rest : Pages s link pages) :
      Pages s uri ((uri, c) :: pages)

theorem pagesFetched_asked {us : List String} {s : σ} {uri : String} {uris : List String}
    (h : PagesFetched (asked us s) uri uris) : PagesFetched s uri uris := by
  induction h with
  | last uri => exact .last uri
  | next hPage hNext _ ih => exact .next (page_asked us s ▸ hPage) hNext ih

theorem pages_asked {us : List String} {s : σ} {uri : String} {pages : List (String × Collection)}
    (h : Pages (asked us s) uri pages) : Pages s uri pages := by
  induction h with
  | last hPage hLast => exact .last (page_asked us s ▸ hPage) hLast
  | next hPage hNext _ ih => exact .next (page_asked us s ▸ hPage) hNext ih

theorem Leads.steady {s s' : σ} {uri last : String} {pages : List (String × Collection)}
    (h : Leads s uri pages s' last) :
    s' = asked (pages.map (·.1)) s ∧ PagesFetched s uri (asksFor pages last) ∧
      ∀ c, page s last = .ok c → c.next? = none → Pages s uri (pages ++ [(last, c)]) := by
  induction h with
  | here s uri =>
    exact ⟨(asked_nil s).symm, .last uri, fun _ hPage hLast => .last hPage hLast⟩
  | @on s _ _ uri link last c pages hRead hNext hLink _ ih =>
    rw [pageFetch_iff, getPage_eq] at hRead
    obtain ⟨hPage, rfl⟩ := Prod.mk.inj hRead
    have hNext' := (c.next?_eq_some_iff link).mpr ⟨hNext, hLink⟩
    obtain ⟨hState, hFetched, hPages⟩ := ih
    rw [page_asked] at hPages
    refine ⟨?_, .next hPage hNext' (pagesFetched_asked hFetched), ?_⟩
    · rw [hState, ← asked_cons]
      rfl
    · intro c' hLastPage hLast
      exact .next hPage hNext' (pages_asked (hPages c' hLastPage hLast))

end

def FailureReport.entry? (uri : String) : Except Error α → Option (String × Error)
  | .ok _ => none
  | .error e => some (uri, e)

/-- What is retrieved and what is reported, for URIs each with its result. -/
def tally (uris : List String) (result : String → Except Error α) : List α × FailureReport :=
  (uris.filterMap fun uri => (result uri).toOption,
    ⟨uris.filterMap fun uri => FailureReport.entry? uri (result uri)⟩)

theorem tally_cons (uri : String) (uris : List String) (result : String → Except Error α) :
    tally (uri :: uris) result = match result uri with
      | .ok a => (a :: (tally uris result).1, (tally uris result).2)
      | .error e => ((tally uris result).1, ⟨(uri, e) :: (tally uris result).2.entries⟩) := by
  unfold tally
  rw [List.filterMap_cons, List.filterMap_cons]
  cases result uri <;> rfl

theorem tally_congr {uris : List String} {result result' : String → Except Error α}
    (h : ∀ uri ∈ uris, result uri = result' uri) : tally uris result = tally uris result' := by
  induction uris with
  | nil => rfl
  | cons uri uris ih =>
    obtain ⟨hFirst, hRest⟩ := List.forall_mem_cons.mp h
    rw [tally_cons, tally_cons, hFirst, ih hRest]

section

variable [Transport σ] [Resource α]

theorem fetchAll_cons (uri : String) (uris : List String) (s : σ) :
    let first := (getObject uri : Call σ α) s
    let rest := (fetchAll uris : StateM σ (List α × FailureReport)) first.2
    fetchAll (uri :: uris) s =
      (match first.1 with
        | .ok a => (a :: rest.1.1, rest.1.2)
        | .error e => (rest.1.1, ⟨(uri, e) :: rest.1.2.entries⟩), rest.2) := by
  intro first rest
  have hRun : (fetchAll (uri :: uris) : StateM σ (List α × FailureReport)) s =
      (match rest with
        | ((items, failures), _) => match first.1 with
          | .ok a => (a :: items, failures)
          | .error e => (items, ⟨(uri, e) :: failures.entries⟩), rest.2) := rfl
  rw [hRun]
  cases first.1 <;> rfl

theorem fetchMembers_run (uris : List String) (s : σ) :
    (fetchMembers uris : Listing σ α (List α)) s =
      let counted := (fetchAll uris : StateM σ (List α × FailureReport)) s
      some (if counted.1.2.isEmpty then .ok counted.1.1
        else .error (.partialResult counted.1.1 counted.1.2), counted.2) := by
  have hRun : (fetchMembers uris : Listing σ α (List α)) s =
      match (fetchAll uris : StateM σ (List α × FailureReport)) s with
      | ((items, failures), s') =>
        (if failures.isEmpty then pure items else throw (.partialResult items failures) :
          Listing σ α (List α)) s' := rfl
  rw [hRun]
  rcases (fetchAll uris : StateM σ (List α × FailureReport)) s with ⟨⟨items, failures⟩, s'⟩
  dsimp only
  cases failures.isEmpty <;> rfl

theorem listReferenced_run {link : String} (hLink : link ≠ "") (s : σ) :
    (listReferenced link : Listing σ α (List α)) s =
      match getCollection link s with
      | none => none
      | some (.error e, s') => some (.error (.collection e), s')
      | some (.ok uris, s') => (fetchMembers uris : Listing σ α (List α)) s' := by
  have hSome : link.isEmpty = false := by
    rw [Bool.eq_false_iff]
    exact fun h => hLink (String.isEmpty_iff.mp h)
  have hRun : (listReferenced link : Listing σ α (List α)) s =
      (if link.isEmpty then pure [] else
        (do let uris ← (getCollection link : ExceptT Error (Requests σ) _).adapt .collection
            fetchMembers uris) : Listing σ α (List α)) s := rfl
  rw [hRun, hSome, if_neg Bool.false_ne_true, Requests.bind_run]
  rw [Requests.adapt_run]
  rcases getCollection link s with _ | ⟨_ | _, _⟩ <;> rfl

end

theorem fetchAll_steady [SteadyTransport σ] [Resource α] (uris : List String) (s : σ) :
    (fetchAll uris : StateM σ (List α × FailureReport)) s = (tally uris (object s), asked uris s) := by
  induction uris generalizing s with
  | nil => exact Prod.ext rfl (asked_nil s).symm
  | cons uri uris ih =>
    have hFirst : (getObject uri : Call σ α) s = (object s uri, asked [uri] s) := getObject_eq uri s
    rw [fetchAll_cons, hFirst, ih, tally_cons, object_asked, ← asked_cons]
    cases (object s uri : Except Error α) <;> rfl

theorem fetchMembers_steady [SteadyTransport σ] [Resource α] (uris : List String) (s : σ) :
    let counted := tally uris (object s : String → Except Error α)
    (fetchMembers uris : Listing σ α (List α)) s =
      some (if counted.2.isEmpty then .ok counted.1 else .error (.partialResult counted.1 counted.2),
        asked uris s) := by
  intro counted
  rw [fetchMembers_run, fetchAll_steady]

namespace SteadyTransport

variable [SteadyTransport σ]

theorem getCollection_of_page {s : σ} {uri : String} {c : Collection} (hPage : page s uri = .ok c)
    (hLast : c.next? = none) :
    getCollection uri s = some (.ok c.memberUris, asked [uri] s) := by
  have hRead : (readPage uri [uri] uri : Call σ _) s = (.ok (c.memberUris, none), asked [uri] s) := by
    unfold readPage
    rw [Call.bind_run, getPage_eq, hPage]
    simp only [hLast]
    rfl
  rw [getCollection, walkPages, hRead]

theorem getCollection_of_error {s : σ} {uri : String} {e : Error} (hPage : page s uri = .error e) :
    getCollection uri s = some (.error e, asked [uri] s) := by
  have hRead : (readPage uri [uri] uri : Call σ _) s = (.error e, asked [uri] s) := by
    unfold readPage
    rw [Call.bind_run, getPage_eq, hPage]
  rw [getCollection, walkPages, hRead]

theorem listReferenced_of_page [Resource α] {s : σ} {uri : String} {c : Collection} (hUri : uri ≠ "")
    (hPage : page s uri = .ok c) (hLast : c.next? = none) :
    let counted := tally c.memberUris (object s : String → Except Error α)
    (listReferenced uri : Listing σ α (List α)) s =
      some (if counted.2.isEmpty then .ok counted.1 else .error (.partialResult counted.1 counted.2),
        asked (uri :: c.memberUris) s) := by
  intro counted
  rw [listReferenced_run hUri, getCollection_of_page hPage hLast]
  dsimp only
  rw [fetchMembers_steady, object_asked, ← asked_cons]

end SteadyTransport

section

variable [Transport σ] [Resource α]

theorem listLinked_insert_empty (before after : List Link) :
    (listLinked (before ++ ⟨""⟩ :: after) : Listing σ α (List α)) = listLinked (before ++ after) := by
  have hEmpty : (⟨""⟩ : Link).isEmpty = true := rfl
  unfold listLinked
  rw [List.filter_append, List.filter_append, List.filter_cons_of_neg (by simp [hEmpty])]

theorem exists_listLinked (links : List Link) (s : σ) :
    ∃ result s', (listLinked links : Listing σ α (List α)) s = some (result, s') ∧
      ∀ e, result ≠ .error (.collection e) := by
  unfold listLinked
  rw [fetchMembers_run]
  refine ⟨_, _, rfl, ?_⟩
  intro e
  split <;> exact nofun

end

/-- Links are followed as the members of a collection are that has them on its only page: with the same
items and the same report, and after the GET of the page with the same requests. An empty link changes
nothing wherever it stands. Every listing of links has an end, and none fails as a whole. -/
theorem listLinked_matches_collection [Resource α] (links : List Link) (s : FixedService) :
    (∀ uri c, uri ≠ "" → page s uri = .ok c → c.members = links.filter (!·.isEmpty) →
      c.next? = none → ∃ result uris,
        (listLinked links : Listing FixedService α (List α)) s = some (result, s.got uris) ∧
        (listReferenced uri : Listing FixedService α (List α)) s =
          some (result, s.got (uri :: uris))) ∧
    ∀ (σ : Type) [Transport σ] (t : σ),
      (∀ before after, links = before ++ ⟨""⟩ :: after →
        (listLinked links : Listing σ α (List α)) t = listLinked (before ++ after) t) ∧
      ∃ result t', (listLinked links : Listing σ α (List α)) t = some (result, t') ∧
        ∀ e, result ≠ .error (.collection e) := by
  refine ⟨?_, ?_⟩
  · intro uri c hUri hPage hMembers hLast
    have hUris : (links.filter (!·.isEmpty)).map (·.uri) = c.memberUris := by
      rw [Collection.memberUris, hMembers]
    have hLinked : (listLinked links : Listing FixedService α (List α)) s = _ := fetchMembers_steady _ s
    rw [hLinked, listReferenced_of_page hUri hPage hLast, hUris]
    exact ⟨_, c.memberUris, rfl, rfl⟩
  · intro τ _ t
    refine ⟨?_, exists_listLinked links t⟩
    rintro before after rfl
    rw [listLinked_insert_empty]

theorem repeated_links_match_collection :
    let body := Bytes.ofText
      ("\x7b\"Members\":[\x7b\"@odata.id\":\"/a\"\x7d,\x7b\"@odata.id\":\"/a\"\x7d," ++
        "\x7b\"@odata.id\":\"/b\"\x7d]\x7d")
    let s : FixedService := ⟨fun method uri =>
      if uri = "/c" then .ok (.plain .ok body)
      else if uri = "/a" then .ok (.plain .ok (Bytes.ofText "\x7b\"Id\":\"1\"\x7d"))
      else .error (.status method uri .notFound none), []⟩
    let links : List Link := [⟨"/a"⟩, ⟨""⟩, ⟨"/a"⟩, ⟨"/b"⟩]
    ∃ result linked referenced,
      (listLinked links : Listing FixedService Sensor (List Sensor)) s = some (result, linked) ∧
      (listReferenced "/c" : Listing FixedService Sensor (List Sensor)) s = some (result, referenced) ∧
      linked.requests = [(.get, "/a"), (.get, "/a"), (.get, "/b")] ∧
      referenced.requests = (.get, "/c") :: linked.requests ∧
      (listLinked [⟨"/a"⟩, ⟨"/a"⟩, ⟨"/b"⟩] : Listing FixedService Sensor (List Sensor)) s =
        some (result, linked) := by
  intro body s links
  have hPage : page s "/c" = .ok ⟨"", "", [⟨"/a"⟩, ⟨"/a"⟩, ⟨"/b"⟩], none, none⟩ := by decide +kernel
  obtain ⟨hCollection, hLinks⟩ := listLinked_matches_collection (α := Sensor) links s
  obtain ⟨result, uris, hLinked, hReferenced⟩ := hCollection "/c" _ (by decide) hPage rfl rfl
  have hShorter := (hLinks FixedService s).1 [⟨"/a"⟩] _ rfl
  have hRequests : ((listLinked links : Listing FixedService Sensor (List Sensor)) s).map
      (·.2.requests) = some [(.get, "/a"), (.get, "/a"), (.get, "/b")] := rfl
  rw [hLinked] at hRequests
  refine ⟨result, _, _, hLinked, hReferenced, Option.some.inj hRequests, ?_, hShorter.symm.trans hLinked⟩
  rfl

end Redfish
