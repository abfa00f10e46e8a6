import Mathlib.Data.List.Induction
import Mathlib.Data.List.Nodup
import Redfish.Proofs.Client.Exchanges
import Redfish.Proofs.DocumentServer

/-!
# The header fields of a request

A request has fields of its own, each name once, and is given additional ones. These are inserted one by
one, and each replaces what stood under its name, be it a field of the request or one inserted before.
-/

namespace Redfish

open Http

namespace Http.Headers

def values (h : Headers) (name : String) : List HeaderValue :=
  (h.fields.filter (·.1 = name)).map (·.2)

def Grouped (h : Headers) : Prop := (h.groups.map (·.1)).Nodup

theorem values_cons (name : String) (vs : List HeaderValue) (groups : List (String × List HeaderValue))
    (k : String) : values ⟨(name, vs) :: groups⟩ k = (if name = k then vs else []) ++ values ⟨groups⟩ k := by
  unfold values fields
  rw [List.flatMap_cons, List.filter_append, List.map_append]
  congr 1
  by_cases hName : name = k <;> simp [List.filter_map, Function.comp_def, hName]

theorem values_of_not_mem {groups : List (String × List HeaderValue)} {k : String}
    (h : k ∉ groups.map (·.1)) : values ⟨groups⟩ k = [] := by
  induction groups with
  | nil => rfl
  | cons group groups ih =>
    rw [List.map_cons, List.mem_cons, not_or] at h
    obtain ⟨hFirst, hRest⟩ := h
    rw [values_cons, if_neg (Ne.symm hFirst), ih hRest]
    rfl

theorem names_insert (name : String) (v : HeaderValue) (groups : List (String × List HeaderValue)) :
    (insert.go name v groups).map (·.1) =
      if name ∈ groups.map (·.1) then groups.map (·.1) else groups.map (·.1) ++ [name] := by
  induction groups with
  | nil => rfl
  | cons group groups ih =>
    obtain ⟨n, vs⟩ := group
    unfold insert.go
    by_cases hName : n = name
    · simp [hName]
    · rw [if_neg hName, List.map_cons, ih, List.map_cons]
      simp only [List.mem_cons, Ne.symm hName, false_or]
      split <;> rfl

theorem Grouped.insert {h : Headers} (hGrouped : h.Grouped) (name : String) (v : HeaderValue) :
    (h.insert name v).Grouped := by
  unfold Grouped
  change ((insert.go name v h.groups).map (·.1)).Nodup
  rw [names_insert]
  split
  · exact hGrouped
  · rename_i hNew
    refine List.nodup_append.mpr ⟨hGrouped, List.nodup_singleton name, ?_⟩
    rintro n hn _ hLast rfl
    exact hNew (List.mem_singleton.mp hLast ▸ hn)

theorem Grouped.values_insert {h : Headers} (hGrouped : h.Grouped) (name : String) (v : HeaderValue)
    (k : String) : (h.insert name v).values k = if k = name then [v] else h.values k := by
  obtain ⟨groups⟩ := h
  change values ⟨insert.go name v groups⟩ k = _
  induction groups with
  | nil =>
    rw [insert.go, values_cons, values_of_not_mem List.not_mem_nil, List.append_nil]
    exact if_congr eq_comm rfl rfl
  | cons group groups ih =>
    obtain ⟨n, vs⟩ := group
    obtain ⟨hFresh, hGrouped⟩ := List.nodup_cons.mp hGrouped
    unfold insert.go
    split
    · rename_i hFound
      subst hFound
      rw [values_cons, values_cons]
      by_cases hName : n = k
      · subst hName
        rw [if_pos rfl, if_pos rfl, values_of_not_mem hFresh, List.append_nil]
      · rw [if_neg hName, if_neg hName, if_neg (Ne.symm hName)]
    · rename_i hOther
      rw [values_cons, values_cons, ih hGrouped]
      by_cases hName : k = name
      · subst hName
        rw [if_neg hOther, if_pos rfl, if_pos rfl]
        rfl
      · rw [if_neg hName, if_neg hName]

theorem Grouped.values_insertAll {h : Headers} (hGrouped : h.Grouped) (extra : Headers) (k : String) :
    (extra.insertAll h).values k = ((extra.values k).getLast?.map ([·])).getD (h.values k) := by
  suffices hFold : ∀ fs : List (String × HeaderValue),
      let h' := fs.foldl (fun h f => h.insert f.1 f.2) h
      h'.Grouped ∧ h'.values k =
        ((((fs.filter (·.1 = k)).map (·.2)).getLast?).map ([·])).getD (h.values k) from
    (hFold extra.fields).2
  intro fs
  -- The last field under the name decides, so the fields are taken from the back.
  induction fs using List.reverseRecOn with
  | nil => exact ⟨hGrouped, rfl⟩
  | append_singleton fs f ih =>
    obtain ⟨hFields, hValues⟩ := ih
    rw [List.foldl_append, List.foldl_cons, List.foldl_nil]
    refine ⟨hFields.insert f.1 f.2, ?_⟩
    rw [hFields.values_insert, hValues, List.filter_append, List.map_append]
    by_cases hName : f.1 = k
    · simp [hName]
    · simp [hName, Ne.symm hName]

end Http.Headers

namespace Client

/-- The fields that a request has of its own. -/
def standardFields (c : Client) (method : Method) : List (String × HeaderValue) :=
  [("host", ⟨Bytes.ofText c.hostHeader, false⟩),
    ("accept", ⟨Bytes.ofText "application/json", false⟩),
    ("odata-version", ⟨Bytes.ofText "4.0", false⟩)] ++
  (if method = .patch then [("content-type", ⟨Bytes.ofText "application/json", false⟩)] else []) ++
  c.authorization.toList.map ("authorization", ·)

theorem groups_baseHeaders (c : Client) (method : Method) :
    (c.baseHeaders method).groups = (c.standardFields method).map fun f => (f.1, [f.2]) := by
  unfold baseHeaders standardFields
  by_cases hPatch : method = .patch <;> simp only [hPatch, if_true, if_false] <;>
    cases c.authorization <;> rfl

theorem fields_baseHeaders (c : Client) (method : Method) :
    (c.baseHeaders method).fields = c.standardFields method := by
  unfold Headers.fields
  rw [groups_baseHeaders, List.flatMap_map]
  simp

theorem names_standardFields (c : Client) (method : Method) :
    (c.standardFields method).map (·.1) = ["host", "accept", "odata-version"] ++
      (if method = .patch then ["content-type"] else []) ++
      (if c.authorization.isSome then ["authorization"] else []) := by
  unfold standardFields
  rw [List.map_append, List.map_append]
  congr 1
  · split <;> rfl
  · cases c.authorization <;> rfl

theorem grouped_baseHeaders (c : Client) (method : Method) : (c.baseHeaders method).Grouped := by
  unfold Headers.Grouped
  rw [groups_baseHeaders, List.map_map]
  change ((c.standardFields method).map (·.1)).Nodup
  rw [names_standardFields]
  split <;> split <;> decide

/-- What a client is made of: the server of the endpoint, and the credentials. -/
theorem exists_of_new {m : Machine} {s : ClientSettings} {c : Client} (h : Client.new m s = .ok c) :
    ∃ url host port authorization, Url.parse (endpointUrl s.endpoint) = .ok url ∧ url.host = some host ∧
      url.portOrDefault = some port ∧ basicAuthorization s = .ok authorization ∧
      c = ⟨s, host.text, port, url.scheme = "https", authorization⟩ := by
  have hLast {host : String} {port : Nat} {secure : Bool}
      (h : (do return (⟨s, host, port, secure, ← basicAuthorization s⟩ : Client)) = Except.ok c) :
      ∃ authorization, basicAuthorization s = .ok authorization ∧
        c = ⟨s, host, port, secure, authorization⟩ := by
    obtain ⟨authorization, hAuthorization, h⟩ := bind_eq_ok_iff.mp h
    exact ⟨authorization, hAuthorization, (Except.ok.inj h).symm⟩
  unfold Client.new at h
  obtain ⟨url, hUrl, h⟩ := bind_eq_ok_iff.mp h
  have hParse := mapError_eq_ok_iff.mp hUrl
  split at h
  · rename_i host hHost
    split at h
    · rename_i port hPort
      dsimp only at h
      split at h
      · rename_i hScheme
        obtain ⟨authorization, hAuthorization, rfl⟩ := hLast h
        exact ⟨url, host, port, authorization, hParse, hHost, hPort, hAuthorization, by rw [hScheme]; rfl⟩
      · rename_i hScheme
        obtain ⟨_, _, h⟩ := bind_eq_ok_iff.mp h
        obtain ⟨authorization, hAuthorization, rfl⟩ := hLast h
        exact ⟨url, host, port, authorization, hParse, hHost, hPort, hAuthorization, by rw [hScheme]; rfl⟩
      · cases h
    · cases h
  · cases h

theorem basicAuthorization_of_new {m : Machine} {s : ClientSettings} {c : Client}
    (h : Client.new m s = .ok c) : basicAuthorization s = .ok c.authorization := by
  obtain ⟨_, _, _, _, _, _, _, hAuthorization, rfl⟩ := exists_of_new h
  exact hAuthorization

theorem isSome_authorization_of_new {m : Machine} {s : ClientSettings} {c : Client}
    (h : Client.new m s = .ok c) : c.authorization.isSome = s.username.isSome := by
  have hAuthorization := basicAuthorization_of_new h
  unfold basicAuthorization at hAuthorization
  cases hUsername : s.username with
  | none =>
    rw [hUsername] at hAuthorization
    rw [← Except.ok.inj hAuthorization]
    rfl
  | some username =>
    rw [hUsername] at hAuthorization
    dsimp only at hAuthorization
    split at hAuthorization
    · rw [← Except.ok.inj hAuthorization]
      rfl
    · cases hAuthorization

theorem prepare_of_target {c : Client} {uri target : String} {sent : Bytes}
    (hTarget : requestTarget uri = .ok target) (hSent : sentTarget target = .ok sent) (method : Method)
    (body : Bytes) (extra : Headers) :
    c.prepare method uri body extra =
      .ok ⟨method, target, ⟨method, sent, extra.insertAll (c.baseHeaders method), body⟩⟩ := by
  have hBuild : c.buildRequest method target body extra =
      .ok ⟨method, sent, extra.insertAll (c.baseHeaders method), body⟩ := by
    unfold buildRequest
    rw [hSent]
  unfold prepare
  rw [hTarget, ok_bind, hBuild]
  rfl

end Client

theorem lastAlone_eq_iff {vs : List α} (h : vs ≠ []) (otherwise : List α) :
    (vs.getLast?.map ([·])).getD otherwise = vs ↔ vs.length ≤ 1 := by
  rw [List.getLast?_eq_some_getLast h]
  change [vs.getLast h] = vs ↔ _
  constructor
  · intro hSame
    rw [← hSame, List.length_singleton]
  · intro hLength
    have hOne : vs.length = 1 := Nat.le_antisymm hLength (List.length_pos_of_ne_nil h)
    obtain ⟨v, rfl⟩ := List.length_eq_one_iff.mp hOne
    rfl

/-- A request is exchanged with the last value of each additional name, alone, and for the other names
with its own fields. So it has all that was given for the additional names exactly if no name was given
several values. -/
theorem exchanged_fields_are_the_last_given [Network ν] {m : Machine} {s : ClientSettings}
    {x : Session (Watched ν)} (hNew : Client.new m s = .ok x.client) {uri target : String} {sent : Bytes}
    (hTarget : Client.requestTarget uri = .ok target) (hSent : sentTarget target = .ok sent)
    (method : Method) (body : Bytes) (extra : Headers) :
    ∃ request outcome elapsed,
      (Session.send method uri body extra x).2.network.exchanges = x.network.exchanges ++
        [⟨x.client.host, x.client.port, x.client.secure, request, outcome, elapsed⟩] ∧
      request.method = method ∧ request.target = sent ∧ request.body = body ∧
      (∀ name v, (extra.values name).getLast? = some v → request.headers.values name = [v]) ∧
      (∀ name, extra.values name = [] → request.headers.values name =
        ((x.client.standardFields method).filter (·.1 = name)).map (·.2)) ∧
      x.client.authorization.isSome = s.username.isSome ∧
      ((∀ name, extra.values name ≠ [] → request.headers.values name = extra.values name) ↔
        ∀ name, (extra.values name).length ≤ 1) := by
  have hPrepare := Client.prepare_of_target (c := x.client) hTarget hSent method body extra
  have hSend := Session.send_of_flight (s := x) hPrepare
  have hValues := (x.client.grouped_baseHeaders method).values_insertAll extra
  obtain ⟨outcome, elapsed, hExchanged⟩ : ∃ outcome elapsed,
      (Session.send method uri body extra x).2.network.exchanges = x.network.exchanges ++
        [⟨x.client.host, x.client.port, x.client.secure,
          ⟨method, sent, extra.insertAll (x.client.baseHeaders method), body⟩, outcome, elapsed⟩] := by
    rw [hSend]
    exact ⟨_, _, rfl⟩
  refine ⟨_, outcome, elapsed, hExchanged, rfl, rfl, rfl, ?_, ?_,
    Client.isSome_authorization_of_new hNew, ?_⟩
  · intro name v hLast
    rw [hValues, hLast]
    rfl
  · intro name hNone
    rw [hValues, hNone, Headers.values, Client.fields_baseHeaders]
    rfl
  · dsimp only
    constructor
    · intro hAll name
      by_cases hNone : extra.values name = []
      · simp [hNone]
      · have hSame := hAll name hNone
        rw [hValues] at hSame
        exact (lastAlone_eq_iff hNone _).mp hSame
    · intro hSingle name hSome
      rw [hValues]
      exact (lastAlone_eq_iff hSome _).mpr (hSingle name)

/-- Two names are given one value each, one of them in place of a field of the request. -/
theorem exchanged_fields_of_single_values :
    let s : ClientSettings :=
      ⟨"http://127.0.0.1", some "a", some "b", none, false, .ofSecs 30, ⟨.info, .error, true, false, []⟩⟩
    let m : Machine := ⟨fun _ => none, none, fun _ => false, fun _ => .error "", fun _ => none⟩
    let server : DocumentServer := ⟨[], [], fun _ => .empty, fun _ => ⟨0⟩, []⟩
    let v : HeaderValue := ⟨Bytes.ofText "*/*", false⟩
    let w : HeaderValue := ⟨Bytes.ofText "1", false⟩
    let extra : Headers := ⟨[("accept", [v]), ("if-match", [w])]⟩
    ∃ c request outcome elapsed, Client.new m s = .ok c ∧
      (Session.send .patch "/p" [] extra (.start c (⟨server, []⟩ : Watched DocumentServer))).2.network.exchanges =
        [⟨"127.0.0.1", 80, false, request, outcome, elapsed⟩] ∧
      request.headers.values "accept" = [v] ∧ request.headers.values "if-match" = [w] ∧
      request.headers.values "host" = [⟨Bytes.ofText "127.0.0.1", false⟩] := by
  intro s m server v w extra
  let c : Client := ⟨s, "127.0.0.1", 80, false, some ⟨Bytes.ofText "Basic YTpi", true⟩⟩
  let x : Session (Watched DocumentServer) := .start c ⟨server, []⟩
  have hNew : Client.new m s = .ok x.client := by decide +kernel
  have hTarget : Client.requestTarget "/p" = .ok "/p" := rfl
  have hSent : sentTarget "/p" = .ok (Bytes.ofText "/p") := rfl
  obtain ⟨request, outcome, elapsed, hExchanged, _, _, _, hGiven, hOwn, _, _⟩ :=
    exchanged_fields_are_the_last_given hNew hTarget hSent .patch [] extra
  refine ⟨c, request, outcome, elapsed, hNew, hExchanged, hGiven _ _ rfl, hGiven _ _ rfl, ?_⟩
  exact (hOwn "host" rfl).trans (by decide +kernel)

/-- Of two values given for one name the first is lost. -/
theorem repeated_field_loses_first_value :
    let s : ClientSettings :=
      ⟨"http://127.0.0.1", none, none, none, false, .ofSecs 30, ⟨.info, .error, true, false, []⟩⟩
    let m : Machine := ⟨fun _ => none, none, fun _ => false, fun _ => .error "", fun _ => none⟩
    let server : DocumentServer := ⟨[], [], fun _ => .empty, fun _ => ⟨0⟩, []⟩
    let v : HeaderValue := ⟨Bytes.ofText "1", false⟩
    let w : HeaderValue := ⟨Bytes.ofText "2", false⟩
    let extra : Headers := ⟨[("x-a", [v, w])]⟩
    ∃ c exchange, Client.new m s = .ok c ∧
      (Session.send .patch "/p" [] extra (.start c (⟨server, []⟩ : Watched DocumentServer))).2.network.exchanges =
        [exchange] ∧
      extra.values "x-a" = [v, w] ∧ exchange.request.headers.values "x-a" = [w] := by
  intro s m server v w extra
  have hNew : Client.new m s = .ok ⟨s, "127.0.0.1", 80, false, none⟩ := by decide +kernel
  exact ⟨_, _, hNew, rfl, rfl, rfl⟩

end Redfish
