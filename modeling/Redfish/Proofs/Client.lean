import Mathlib.Data.List.TakeWhile
import Redfish.Client.Session
import Redfish.Proofs.Call
import Redfish.Proofs.Table

/-!
# Requests as they are sent

What a client is asked to send and what leaves it: the target is sent as it is if its bytes may stand
in a request line, and the condition of an update is the only field of its name. What comes of a request
is its verdict, whatever is written about it in the meantime.
-/

namespace Redfish

open Http

namespace Http.Headers

theorem lookup_insert (name : String) (v : HeaderValue) (groups : List (String × List HeaderValue))
    (k : String) : Table.get? (insert.go name v groups) k =
      if k = name then some [v] else Table.get? groups k := by
  induction groups with
  | nil => exact Table.get?_cons (name, [v]) [] k
  | cons group groups ih =>
    obtain ⟨n, vs⟩ := group
    unfold insert.go
    split
    · rename_i hFound
      subst hFound
      rw [Table.get?_cons, Table.get?_cons]
      split <;> rfl
    · rename_i hOther
      rw [Table.get?_cons, Table.get?_cons, ih]
      by_cases hName : k = n
      · subst hName
        rw [if_pos rfl, if_pos rfl, if_neg hOther]
      · rw [if_neg hName, if_neg hName]

theorem get?_insert (name : String) (v : HeaderValue) (h : Headers) (k : String) :
    (h.insert name v).get? k = if k = name then some v else h.get? k := by
  change (Table.get? (insert.go name v h.groups) k).bind List.head? = _
  rw [lookup_insert]
  split <;> rfl

theorem lookup_append_of_ne {name k : String} (hNe : k ≠ name) (v : HeaderValue)
    (groups : List (String × List HeaderValue)) :
    Table.get? (append.go name v groups) k = Table.get? groups k := by
  induction groups with
  | nil => exact (Table.get?_cons (name, [v]) [] k).trans (if_neg hNe)
  | cons group groups ih =>
    obtain ⟨n, vs⟩ := group
    unfold append.go
    split
    · rename_i hFound
      subst hFound
      rw [Table.get?_cons, Table.get?_cons, if_neg hNe, if_neg hNe]
    · rw [Table.get?_cons, Table.get?_cons, ih]

theorem get?_append_of_ne {name k : String} (hNe : k ≠ name) (v : HeaderValue) (h : Headers) :
    (h.append name v).get? k = h.get? k := by
  change (Table.get? (append.go name v h.groups) k).bind List.head? = _
  rw [lookup_append_of_ne hNe]
  rfl

end Http.Headers

theorem Client.requestTarget_of_rooted {uri : String} (h : uri.toList.head? = some '/') :
    requestTarget uri = .ok uri := by
  unfold requestTarget
  cases hChars : uri.toList with
  | nil => rw [hChars] at h; cases h
  | cons first rest =>
    rw [hChars] at h
    obtain rfl := Option.some.inj h
    rfl

/-- A text that can be the target of a request as it is: rooted, and without a byte that may not stand
there. So it has no fragment. -/
structure IsTarget (uri : String) : Prop where
  rooted : uri.toList.head? = some '/'
  path : ((Bytes.ofText uri).takeWhile (· ≠ 0x3F)).all isPathByte = true
  query : ((Bytes.ofText uri).dropWhile (· ≠ 0x3F)).tail.all isQueryByte = true

namespace IsTarget

theorem of_path {uri : String} (hRooted : uri.toList.head? = some '/')
    (h : (Bytes.ofText uri).all isPathByte = true) : IsTarget uri where
  rooted := hRooted
  path := by
    rw [List.all_eq_true] at h ⊢
    intro b hb
    exact h b ((List.takeWhile_sublist _).subset hb)
  query := by
    have hNoQuery : (Bytes.ofText uri).dropWhile (· ≠ 0x3F) = [] := by
      rw [List.dropWhile_eq_nil_iff]
      intro b hb
      rw [decide_eq_true_eq]
      rintro rfl
      exact absurd (List.all_eq_true.mp h _ hb) (by decide)
    rw [hNoQuery]
    rfl

theorem ofText_replicate (n : Nat) :
    Bytes.ofText (String.ofList ('/' :: List.replicate n 'a')) = 0x2F :: List.replicate n 0x61 := by
  have hRest : (List.replicate n 'a').flatMap String.utf8EncodeChar = List.replicate n 0x61 := by
    induction n with
    | zero => rfl
    | succ n ih =>
      rw [List.replicate_succ, List.flatMap_cons, ih]
      rfl
  rw [Bytes.ofText_ofList, List.flatMap_cons, hRest]
  rfl

theorem of_letters (n : Nat) : IsTarget (String.ofList ('/' :: List.replicate n 'a')) := by
  refine of_path ?_ ?_
  · rw [String.toList_ofList]
    rfl
  · rw [ofText_replicate, List.all_cons, List.all_replicate]
    have hLetter : isPathByte 0x61 = true := rfl
    rw [hLetter, ite_self]
    rfl

theorem requestTarget_eq {uri : String} (h : IsTarget uri) : Client.requestTarget uri = .ok uri :=
  Client.requestTarget_of_rooted h.rooted

theorem not_mem_fragment {uri : String} (h : IsTarget uri) : 0x23 ∉ Bytes.ofText uri := by
  intro hMem
  rw [← List.takeWhile_append_dropWhile (p := (· ≠ 0x3F)) (l := Bytes.ofText uri),
    List.mem_append] at hMem
  rcases hMem with hPath | hQuery
  · exact absurd (List.all_eq_true.mp h.path _ hPath) (by decide)
  · have hQueryBytes := h.query
    cases hDrop : (Bytes.ofText uri).dropWhile (· ≠ 0x3F) with
    | nil => rw [hDrop] at hQuery; cases hQuery
    | cons b query =>
      rw [hDrop] at hQuery hQueryBytes
      rcases List.mem_cons.mp hQuery with rfl | hMem
      · have hHead := List.head?_dropWhile_not (· ≠ 0x3F) (Bytes.ofText uri)
        rw [hDrop] at hHead
        cases hHead
      · exact absurd (List.all_eq_true.mp hQueryBytes _ hMem) (by decide)

theorem sentTarget_eq {uri : String} (h : IsTarget uri) (hShort : (Bytes.ofText uri).length ≤ 65534) :
    sentTarget uri = .ok (Bytes.ofText uri) := by
  have hSent : (Bytes.ofText uri).takeWhile (· ≠ 0x23) = Bytes.ofText uri := by
    rw [List.takeWhile_eq_self_iff]
    intro b hb
    rw [decide_eq_true_eq]
    rintro rfl
    exact h.not_mem_fragment hb
  have hQuery : (Bytes.ofText uri).drop (((Bytes.ofText uri).takeWhile (· ≠ 0x3F)).length + 1) =
      ((Bytes.ofText uri).dropWhile (· ≠ 0x3F)).tail := by
    rw [← List.tail_drop]
    congr 1
    have hSplit := List.takeWhile_append_dropWhile (p := (· ≠ 0x3F)) (l := Bytes.ofText uri)
    calc (Bytes.ofText uri).drop ((Bytes.ofText uri).takeWhile (· ≠ 0x3F)).length
        = ((Bytes.ofText uri).takeWhile (· ≠ 0x3F) ++ (Bytes.ofText uri).dropWhile (· ≠ 0x3F)).drop
            ((Bytes.ofText uri).takeWhile (· ≠ 0x3F)).length := by rw [hSplit]
      _ = (Bytes.ofText uri).dropWhile (· ≠ 0x3F) := List.drop_left
  unfold sentTarget
  simp only [hSent, hQuery, h.path, h.query, Bool.and_self, if_true]
  exact if_neg (by omega)

end IsTarget

theorem sentTarget_of_long {uri : String} (h : 65534 < (Bytes.ofText uri).length) :
    sentTarget uri = .error .tooLong := if_pos h

namespace Client

variable (c : Client)

theorem get?_baseHeaders_ifMatch (method : Method) : (c.baseHeaders method).get? "if-match" = none := by
  have hHost : "if-match" ≠ "host" := by decide
  have hAccept : "if-match" ≠ "accept" := by decide
  have hVersion : "if-match" ≠ "odata-version" := by decide
  have hContent : "if-match" ≠ "content-type" := by decide
  have hCredentials : "if-match" ≠ "authorization" := by decide
  unfold baseHeaders
  cases c.authorization <;> dsimp only <;> split <;>
    simp only [Headers.get?_append_of_ne, hHost, hAccept, hVersion, hContent, hCredentials, ne_eq,
      not_false_eq_true] <;> rfl

theorem prepare_of_long {uri : String} (hTarget : IsTarget uri)
    (hLong : 65534 < (Bytes.ofText uri).length) (method : Method) (body : Bytes) (extra : Headers) :
    c.prepare method uri body extra = .error (.validation "Invalid request: uri too long") := by
  have hRequest : c.buildRequest method uri body extra =
      .error (.validation "Invalid request: uri too long") := by
    unfold buildRequest
    rw [sentTarget_of_long hLong]
    rfl
  unfold prepare
  rw [hTarget.requestTarget_eq, ok_bind, hRequest]
  rfl

theorem prepare_error {c : Client} {method : Method} {uri : String} {body : Bytes} {extra : Headers}
    {error : Error} (h : c.prepare method uri body extra = .error error) :
    ∃ text, error = .validation text := by
  unfold prepare at h
  cases hTarget : requestTarget uri with
  | error e =>
    rw [hTarget] at h
    obtain rfl := Except.error.inj h
    unfold requestTarget at hTarget
    split at hTarget
    · split at hTarget
      · cases hTarget
      · exact ⟨_, (Except.error.inj hTarget).symm⟩
    · split at hTarget <;> cases hTarget
  | ok target =>
    rw [hTarget, ok_bind] at h
    unfold buildRequest at h
    split at h
    · exact ⟨_, (Except.error.inj h).symm⟩
    · cases h

theorem prepare_ok {c : Client} {method : Method} {uri : String} {body : Bytes} {extra : Headers}
    {f : Flight} (h : c.prepare method uri body extra = .ok f) :
    f.method = method ∧ requestTarget uri = .ok f.target := by
  obtain ⟨target, hTarget, h⟩ := bind_eq_ok_iff.mp h
  obtain ⟨request, _, h⟩ := bind_eq_ok_iff.mp h
  obtain rfl := Except.ok.inj h
  exact ⟨rfl, hTarget⟩

def verdict (f : Flight) (outcome : Outcome) (elapsed : Duration) : Except Error Response :=
  match c.result outcome elapsed with
  | .error error => .error error
  | .ok response =>
    if response.status.isSuccess then .ok response
    else .error (.status f.method f.target response.status (ServiceError.ofBody? response.body))

theorem conclude_fst (f : Flight) (outcome : Outcome) (elapsed : Duration) (j : Journal) :
    (c.conclude f outcome elapsed j).1 = c.verdict f outcome elapsed := by
  unfold conclude verdict
  cases c.result outcome elapsed with
  | error error => rfl
  | ok response => exact apply_ite Prod.fst _ _ _

theorem verdict_answered {f : Flight} {response : Response} {elapsed : Duration}
    (hInTime : elapsed.nanos ≤ c.settings.timeout.nanos) :
    c.verdict f (.answered response) elapsed =
      if response.status.isSuccess then .ok response
      else .error (.status f.method f.target response.status (ServiceError.ofBody? response.body)) := by
  have hResult : c.result (.answered response) elapsed = .ok response := if_neg (by omega)
  unfold verdict
  rw [hResult]

theorem verdict_eq_ok_iff {f : Flight} {outcome : Outcome} {elapsed : Duration} {response : Response} :
    c.verdict f outcome elapsed = .ok response ↔ outcome = .answered response ∧
      elapsed.nanos ≤ c.settings.timeout.nanos ∧ response.status.isSuccess = true := by
  constructor
  · intro h
    by_cases hInTime : elapsed.nanos ≤ c.settings.timeout.nanos
    · cases outcome with
      | answered answer =>
        rw [verdict_answered c hInTime] at h
        split at h
        · rename_i hSuccess
          obtain rfl := Except.ok.inj h
          exact ⟨rfl, hInTime, hSuccess⟩
        · cases h
      | unreachable reason | failed error =>
        unfold verdict result at h
        rw [if_neg (by omega)] at h
        cases h
    · unfold verdict result at h
      rw [if_pos (by omega)] at h
      cases h
  · rintro ⟨rfl, hInTime, hSuccess⟩
    rw [verdict_answered c hInTime, if_pos hSuccess]

end Client

namespace Session

variable [Network ν] {s : Session ν} {method : Method} {uri : String} {body : Bytes} {extra : Headers}

theorem send_of_error {error : Error} (h : s.client.prepare method uri body extra = .error error) :
    send method uri body extra s = (.error error, s) := by
  unfold send
  rw [h]

theorem send_of_flight {f : Client.Flight} (h : s.client.prepare method uri body extra = .ok f) :
    let answer := Network.exchange s.client.host s.client.port s.client.secure f.request s.network
    let noted := s.journal.noteHeaders f.span f.request.headers
    send method uri body extra s = (s.client.verdict f answer.1.1 answer.1.2,
      { s with
        journal := (s.client.conclude f answer.1.1 answer.1.2 noted).2
        network := answer.2 }) := by
  intro answer noted
  rw [← Client.conclude_fst s.client f answer.1.1 answer.1.2 noted]
  unfold send
  rw [h]
  rfl

end Session

end Redfish
