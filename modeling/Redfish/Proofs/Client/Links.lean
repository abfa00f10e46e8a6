import Redfish.Proofs.Client.Fields
import Redfish.Proofs.Url.Link
import Redfish.Proofs.Url.Target

/-!
# Where links lead

A client makes every request of the service that it was configured for. Of a link that is complete in
itself it takes the path and the query; the server that the link names is read and forgotten.
-/

namespace Redfish

open Http

namespace Client

theorem requestTarget_of_link {start : String} (hStart : start ∈ Url.linkStarts) {rest : String} {url : Url}
    (hParse : Url.parse (start ++ rest) = .ok url) : requestTarget (start ++ rest) = .ok url.target := by
  have hAbsolute : ("http://".toList.isPrefixOf (start ++ rest).toList ||
      "https://".toList.isPrefixOf (start ++ rest).toList) = true := by
    rw [String.toList_append]
    simp only [Url.linkStarts, List.mem_cons, List.not_mem_nil, or_false] at hStart
    rcases hStart with rfl | rfl <;> rfl
  unfold requestTarget
  rw [if_pos hAbsolute, hParse]

theorem requestTarget_of_plain {start : String} (hStart : start ∈ Url.linkStarts) {authority : String}
    (hAuthority : Url.IsAuthority authority.toList)
    (hAccepted : ∃ url, Url.parse (start ++ authority ++ "/") = .ok url) {target : String}
    (hPlain : Url.IsPlainTarget target.toList) :
    requestTarget (start ++ authority ++ target) = .ok target := by
  obtain ⟨scheme, host, port, hParse⟩ := Url.exists_parse_link hStart hAuthority hAccepted
  obtain ⟨cs, hTarget⟩ : ∃ cs, target.toList = '/' :: cs := by
    obtain ⟨path, query, hTarget, _⟩ := hPlain
    exact ⟨_, hTarget⟩
  have hVisible : ∀ c ∈ cs, Url.isBlank c = false := by
    intro c hc
    refine decide_eq_false (Url.visible_of_plain hPlain c ?_)
    rw [hTarget]
    exact List.mem_cons_of_mem _ hc
  have hParse := hParse cs hVisible
  rw [← hTarget, String.ofList_toList, String.append_assoc] at hParse
  rw [String.append_assoc, requestTarget_of_link hStart hParse]
  refine congrArg Except.ok ?_
  rw [Url.target_of_plain hPlain, String.ofList_toList]

theorem head?_requestTarget {uri target : String} (h : requestTarget uri = .ok target) :
    target.toList.head? = some '/' := by
  unfold requestTarget at h
  split at h
  · split at h
    · obtain rfl := Except.ok.inj h
      exact Url.head?_target _
    · cases h
  · split at h
    · rename_i hRooted
      obtain rfl := Except.ok.inj h
      exact hRooted
    · obtain rfl := Except.ok.inj h
      rw [String.toList_append]
      rfl

theorem requestTarget_idempotent {uri target : String} (h : requestTarget uri = .ok target) :
    requestTarget target = .ok target := requestTarget_of_rooted (head?_requestTarget h)

theorem prepare_congr {uri uri' : String} (h : requestTarget uri = requestTarget uri') (c : Client)
    (method : Method) (body : Bytes) (extra : Headers) :
    c.prepare method uri body extra = c.prepare method uri' body extra := by
  unfold prepare
  rw [h]

/-- Where a client connects to, and what it calls the server, is a matter of the endpoint alone. -/
theorem server_of_endpoint {m m' : Machine} {s s' : ClientSettings} {c c' : Client}
    (h : Client.new m s = .ok c) (h' : Client.new m' s' = .ok c') (hEndpoint : s'.endpoint = s.endpoint) :
    c'.host = c.host ∧ c'.port = c.port ∧ c'.secure = c.secure ∧ c'.hostHeader = c.hostHeader := by
  obtain ⟨url, host, port, _, hParse, hHost, hPort, _, rfl⟩ := exists_of_new h
  obtain ⟨url', host', port', _, hParse', hHost', hPort', _, rfl⟩ := exists_of_new h'
  rw [hEndpoint] at hParse'
  obtain rfl := Except.ok.inj (hParse.symm.trans hParse')
  obtain rfl := Option.some.inj (hHost.symm.trans hHost')
  obtain rfl := Option.some.inj (hPort.symm.trans hPort')
  exact ⟨rfl, rfl, rfl, rfl⟩

theorem values_host_eq {c : Client} {method : Method} {uri : String} {body : Bytes} {extra : Headers}
    {f : Flight} (h : c.prepare method uri body extra = .ok f) :
    f.request.headers.values "host" = ((extra.values "host").getLast?.map ([·])).getD
      [⟨Bytes.ofText c.hostHeader, false⟩] := by
  obtain ⟨target, _, h⟩ := bind_eq_ok_iff.mp h
  obtain ⟨request, hRequest, h⟩ := bind_eq_ok_iff.mp h
  obtain rfl := Except.ok.inj h
  have hOwn : (c.baseHeaders method).values "host" = [⟨Bytes.ofText c.hostHeader, false⟩] := by
    rw [Headers.values, fields_baseHeaders]
    unfold standardFields
    cases c.authorization with
    | none => split <;> rfl
    | some v => split <;> rfl
  unfold buildRequest at hRequest
  split at hRequest
  · cases hRequest
  · obtain rfl := Except.ok.inj hRequest
    dsimp only
    rw [(c.grouped_baseHeaders method).values_insertAll, hOwn]

theorem values_host {c : Client} {method : Method} {uri : String} {body : Bytes} {extra : Headers}
    {f : Flight} (h : c.prepare method uri body extra = .ok f) (hExtra : extra.values "host" = []) :
    f.request.headers.values "host" = [⟨Bytes.ofText c.hostHeader, false⟩] := by
  rw [values_host_eq h, hExtra]
  rfl

end Client

namespace Session

variable [Network ν]

theorem send_congr {uri uri' : String} (h : Client.requestTarget uri = Client.requestTarget uri')
    (method : Method) (body : Bytes) (extra : Headers) (x : Session ν) :
    send method uri body extra x = send method uri' body extra x := by
  unfold send
  rw [Client.prepare_congr h]

theorem exchanges_prepared (method : Method) (uri : String) (body : Bytes) (extra : Headers)
    (x : Session (Watched ν)) : ∃ es : List Exchange,
      (send method uri body extra x).2.network.exchanges = x.network.exchanges ++ es ∧
      ∀ e ∈ es, e.host = x.client.host ∧ e.port = x.client.port ∧ e.secure = x.client.secure ∧
        ∃ f, x.client.prepare method uri body extra = .ok f ∧ e.request = f.request := by
  cases hPrepare : x.client.prepare method uri body extra with
  | error error =>
    refine ⟨[], ?_, List.forall_mem_nil _⟩
    rw [send_of_error hPrepare, List.append_nil]
  | ok f =>
    obtain ⟨outcome, elapsed, hExchanged⟩ : ∃ outcome elapsed,
        (send method uri body extra x).2.network.exchanges = x.network.exchanges ++
          [⟨x.client.host, x.client.port, x.client.secure, f.request, outcome, elapsed⟩] := by
      rw [send_of_flight hPrepare]
      exact ⟨_, _, rfl⟩
    exact ⟨_, hExchanged, List.forall_mem_singleton.mpr ⟨rfl, rfl, rfl, f, rfl, rfl⟩⟩

theorem exchanges_send (method : Method) (uri : String) (body : Bytes) (extra : Headers)
    (x : Session (Watched ν)) : ∃ es : List Exchange,
      (send method uri body extra x).2.network.exchanges = x.network.exchanges ++ es ∧
      ∀ e ∈ es, e.host = x.client.host ∧ e.port = x.client.port ∧ e.secure = x.client.secure ∧
        (extra.values "host" = [] →
          e.request.headers.values "host" = [⟨Bytes.ofText x.client.hostHeader, false⟩]) := by
  obtain ⟨es, hExchanged, hServer⟩ := exchanges_prepared method uri body extra x
  refine ⟨es, hExchanged, ?_⟩
  intro e he
  obtain ⟨hHost, hPort, hSecure, f, hPrepare, hRequest⟩ := hServer e he
  exact ⟨hHost, hPort, hSecure, hRequest ▸ Client.values_host hPrepare⟩

end Session

/-- A link to a plain target is the same request as the target, whatever server the link names. Every link
that is accepted is the same request as the target that it is reduced to, which is reduced to itself. It
goes to the server of the endpoint, and calls the server by the name that the endpoint has for it. -/
theorem links_stay_with_service [Network ν] {m : Machine} {s : ClientSettings} {x : Session (Watched ν)}
    (hNew : Client.new m s = .ok x.client) :
    (∀ start ∈ Url.linkStarts, ∀ authority target : String, Url.IsAuthority authority.toList →
      (∃ url, Url.parse (start ++ authority ++ "/") = .ok url) → Url.IsPlainTarget target.toList →
        (Transport.get (start ++ authority ++ target) : Call (Session (Watched ν)) Response) x =
          Transport.get target x ∧
        ∀ body extra, (Transport.patch (start ++ authority ++ target) body extra :
          Call (Session (Watched ν)) Response) x = Transport.patch target body extra x) ∧
    (∀ uri target, Client.requestTarget uri = .ok target →
      target.toList.head? = some '/' ∧ Client.requestTarget target = .ok target ∧
      ∀ method body extra,
        Session.send method uri body extra x = Session.send method target body extra x ∧
        ∃ es : List Exchange,
          (Session.send method uri body extra x).2.network.exchanges = x.network.exchanges ++ es ∧
          ∀ e ∈ es, e.host = x.client.host ∧ e.port = x.client.port ∧ e.secure = x.client.secure ∧
            (extra.values "host" = [] →
              e.request.headers.values "host" = [⟨Bytes.ofText x.client.hostHeader, false⟩])) ∧
    ∀ m' s' c', Client.new m' s' = .ok c' → s'.endpoint = s.endpoint →
      c'.host = x.client.host ∧ c'.port = x.client.port ∧ c'.secure = x.client.secure ∧
        c'.hostHeader = x.client.hostHeader := by
  refine ⟨?_, ?_, fun m' s' c' hNew' hEndpoint => Client.server_of_endpoint hNew hNew' hEndpoint⟩
  · intro start hStart authority target hAuthority hAccepted hPlain
    have hSame : Client.requestTarget (start ++ authority ++ target) = Client.requestTarget target := by
      have hLink := Client.requestTarget_of_plain hStart hAuthority hAccepted hPlain
      rw [hLink, Client.requestTarget_idempotent hLink]
    refine ⟨Session.send_congr hSame .get [] .empty x, ?_⟩
    intro body extra
    exact Session.send_congr hSame .patch body extra x
  · intro uri target hTarget
    have hIdempotent := Client.requestTarget_idempotent hTarget
    refine ⟨Client.head?_requestTarget hTarget, hIdempotent, ?_⟩
    intro method body extra
    refine ⟨Session.send_congr (hTarget.trans hIdempotent.symm) method body extra x, ?_⟩
    exact Session.exchanges_send method uri body extra x

/-- A link to a page on another machine, with a user and a port of its own. -/
theorem foreign_link_stays_with_service :
    let s := ClientSettings.forEndpoint "http://127.0.0.1:8000"
    let m : Machine := ⟨fun _ => none, none, fun _ => false, fun _ => .error "", fun _ => none⟩
    let server : DocumentServer := ⟨[], [], fun _ => .empty, fun _ => ⟨0⟩, []⟩
    let target := "/redfish/v1/Chassis?$skip=1"
    ∃ c, Client.new m s = .ok c ∧
      let x := Session.start c (⟨server, []⟩ : Watched DocumentServer)
      (Transport.get ("https://" ++ "admin@other.example:8443" ++ target) :
        Call (Session (Watched DocumentServer)) Response) x = Transport.get target x ∧
      ∀ e ∈ (Session.send .get target [] .empty x).2.network.exchanges,
        e.host = "127.0.0.1" ∧ e.port = 8000 ∧ e.secure = false ∧
          e.request.headers.values "host" = [⟨Bytes.ofText "127.0.0.1:8000", false⟩] := by
  intro s m server target
  let c : Client := ⟨s, "127.0.0.1", 8000, false, none⟩
  have hNew : Client.new m s = .ok c := by decide +kernel
  have hServerName : c.hostHeader = "127.0.0.1:8000" := by decide +kernel
  have hAuthority : Url.IsAuthority "admin@other.example:8443".toList := by
    simp [Url.IsAuthority]
  have hAccepted : ∃ url, Url.parse ("https://" ++ "admin@other.example:8443" ++ "/") = .ok url :=
    ⟨⟨"https", some (.domain "other.example"), some 8443, ['/']⟩, by decide +kernel⟩
  have hPlain : Url.IsPlainTarget target.toList := by
    refine ⟨"redfish/v1/Chassis".toList, some "$skip=1".toList, by decide +kernel, ⟨?_, ?_⟩, ?_⟩
    · exact List.all_eq_true.mp rfl
    · decide +kernel
    · rintro q ⟨⟩ k hk
      exact .inl (List.all_eq_true.mp rfl k hk)
  refine ⟨c, hNew, ?_⟩
  intro x
  obtain ⟨hLinks, hTargets, _⟩ := links_stay_with_service (x := x) hNew
  obtain ⟨hGet, _⟩ := hLinks "https://" (by decide) _ _ hAuthority hAccepted hPlain
  have hReduced : Client.requestTarget target = .ok target :=
    Client.requestTarget_of_rooted (by decide +kernel)
  obtain ⟨_, _, hSent⟩ := hTargets target target hReduced
  obtain ⟨_, es, hExchanged, hServer⟩ := hSent .get [] .empty
  refine ⟨hGet, ?_⟩
  rw [hExchanged]
  intro e he
  obtain ⟨hHost, hPort, hSecure, hName⟩ := hServer e he
  exact ⟨hHost, hPort, hSecure, hServerName ▸ hName rfl⟩

end Redfish
