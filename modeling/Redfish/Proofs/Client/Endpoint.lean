import Redfish.Proofs.Client.Links
import Redfish.Proofs.Url.Server

/-!
# What a client calls its server

A client takes the server from the URL of its endpoint and names it in every request. Behind the scheme
that the client speaks the name is read as the server that the endpoint names, in whatever notation and
with whatever else the endpoint names it.
-/

namespace Redfish

open Http

namespace Client

def scheme (c : Client) : String := if c.secure then "https" else "http"

/-- A text names the server of a client: it is an authority without a user, it is read as the host and
the port of the client, an IPv6 address and nothing else stands in brackets, and the port is left out if
it is the usual one. -/
structure NamedBy (c : Client) (host : Url.Host) (name : String) : Prop where
  text : host.text = c.host
  plain : ∀ char ∈ name.toList, Url.IsPlain char
  read : ∃ url, Url.parse (c.scheme ++ "://" ++ name) = .ok url ∧ url.host = some host ∧
    url.portOrDefault = some c.port ∧ url.rest = []
  brackets : name.toList.head? = some '[' ↔ ∃ groups, host = .ipv6 groups
  port : name = host.written ++
    if Url.defaultPort? c.scheme = some c.port then "" else ":" ++ toString c.port

theorem namesScheme_iff (cs : List Char) : namesScheme cs = true ↔ [':', '/', '/'] <:+: cs := by
  fun_induction namesScheme cs with
  | case1 cs => simpa using (List.prefix_append [':', '/', '/'] cs).isInfix
  | case2 c cs hOther ih =>
    rw [ih, List.infix_cons_iff, or_iff_right]
    rintro ⟨rest, hRest⟩
    obtain ⟨rfl, rfl⟩ := List.cons.inj hRest
    exact hOther rest rfl rfl
  | case3 => simp

theorem endpointUrl_of_no_scheme {endpoint : String} (h : ¬[':', '/', '/'] <:+: endpoint.toList) :
    endpointUrl ("https://" ++ endpoint) = endpointUrl endpoint := by
  have hNamed : namesScheme ("https://" ++ endpoint).toList = true := by
    rw [namesScheme_iff, String.toList_append]
    exact ⟨"https".toList, endpoint.toList, rfl⟩
  unfold endpointUrl
  rw [if_pos hNamed, if_neg (mt (namesScheme_iff _).mp h)]

theorem new_withEndpoint (m : Machine) (s : ClientSettings) {endpoint : String}
    (h : endpointUrl endpoint = endpointUrl s.endpoint) :
    Client.new m { s with endpoint } =
      (Client.new m s).map fun c => { c with settings := { s with endpoint } } := by
  have hCertificates : checkCertificates m { s with endpoint } = checkCertificates m s := rfl
  have hAuthorization : basicAuthorization { s with endpoint } = basicAuthorization s := rfl
  unfold Client.new
  dsimp only
  rw [h, hCertificates, hAuthorization]
  cases Url.parse (endpointUrl s.endpoint) with
  | error fault => rfl
  | ok url =>
    simp only [Except.mapError, ok_bind]
    cases url.host with
    | none => rfl
    | some host =>
      cases url.portOrDefault with
      | none => rfl
      | some port =>
        dsimp only
        split
        · cases basicAuthorization s <;> rfl
        · cases checkCertificates m s with
          | error e => rfl
          | ok _ => cases basicAuthorization s <;> rfl
        · rfl

theorem scheme_mem_of_new {m : Machine} {s : ClientSettings} {c : Client} (h : Client.new m s = .ok c)
    {url : Url} (hParse : Url.parse (endpointUrl s.endpoint) = .ok url) :
    url.scheme ∈ ["http", "https"] := by
  unfold Client.new at h
  rw [hParse] at h
  simp only [Except.mapError, ok_bind] at h
  split at h
  · split at h
    · split at h
      · rename_i hScheme
        simp [hScheme]
      · rename_i hScheme
        simp [hScheme]
      · cases h
    · cases h
  · cases h

theorem uriHost_eq {c : Client} {host : Url.Host} (hRead : host.IsRead) (hText : host.text = c.host) :
    c.uriHost = host.written := by
  unfold uriHost
  rw [← hText]
  rcases hRead.ipv6_or_plain with ⟨groups, rfl, hGroups⟩ | ⟨_, hWritten, hPlain⟩
  · exact if_pos (List.contains_iff_mem.mpr (Url.Ipv6.colon_mem_text hGroups))
  · rw [hWritten]
    refine if_neg fun hColon => ?_
    exact absurd (hPlain ':' (List.contains_iff_mem.mp hColon)) (by decide)

theorem defaultPort?_scheme (c : Client) :
    Url.defaultPort? c.scheme = some (if c.secure then 443 else 80) := by
  unfold scheme
  cases c.secure <;> rfl

theorem hostHeader_eq {c : Client} {host : Url.Host} (hRead : host.IsRead) (hText : host.text = c.host) :
    c.hostHeader = host.written ++ Url.portText c.scheme c.port := by
  unfold hostHeader Url.portText
  rw [uriHost_eq hRead hText, defaultPort?_scheme]
  by_cases hUsual : c.port = if c.secure then 443 else 80
  · rw [if_pos hUsual, if_pos (congrArg some hUsual.symm), String.append_empty]
  · rw [if_neg hUsual, if_neg fun h => hUsual (Option.some.inj h).symm, String.append_assoc]

theorem head?_written {host : Url.Host} (hRead : host.IsRead) (scheme : String) (port : Nat) :
    (host.written ++ Url.portText scheme port).toList.head? = some '[' ↔ ∃ groups, host = .ipv6 groups := by
  rcases hRead.ipv6_or_plain with ⟨groups, rfl, _⟩ | ⟨hOther, hWritten, hPlain⟩
  · refine iff_of_true ?_ ⟨groups, rfl⟩
    rw [String.toList_append, Url.Host.toList_written_ipv6]
    rfl
  · refine iff_of_false ?_ fun ⟨groups, hGroups⟩ => hOther groups hGroups
    rw [String.toList_append, hWritten]
    intro hHead
    rcases List.mem_append.mp (List.mem_of_mem_head? hHead) with hBracket | hBracket
    · exact absurd (hPlain _ hBracket) (by decide)
    · exact absurd (Url.of_mem_portText hBracket) (by decide)

theorem namedBy_hostHeader {c : Client} {host : Url.Host} (hRead : host.IsRead)
    (hText : host.text = c.host)
    (hIdempotent : ∀ name, host = .domain name → Url.Domain.toAscii name.toList = .ok name.toList)
    (hPort : c.port ≤ 65535) : c.NamedBy host c.hostHeader := by
  have hScheme : c.scheme ∈ ["http", "https"] := by
    unfold scheme
    cases c.secure <;> decide
  have hHeader := hostHeader_eq hRead hText
  refine ⟨hText, ?_, ?_, ?_, hHeader⟩
  · rw [hHeader]
    exact hRead.isSeparate.isPlain _ _
  · rw [hHeader]
    refine ⟨_, Url.parse_server hScheme hRead.isSeparate (Url.Host.parse_written hRead hIdempotent) hPort,
      rfl, ?_, rfl⟩
    unfold Url.portOrDefault
    dsimp only
    split
    · rename_i hUsual
      rw [hUsual]
      rfl
    · rfl
  · rw [hHeader]
    exact head?_written hRead _ _

end Client

/-- In every request a client calls its server by the name of the endpoint, unless the caller of the
request gives another name. Behind the scheme of the client the name is read as the host and the port that
the endpoint names, given that the host stands for itself if it is a domain in ASCII. An endpoint that
names no scheme is as good as one that names the secure one. -/
theorem host_header_names_endpoint [Network ν] {m : Machine} {s : ClientSettings}
    {x : Session (Watched ν)} (hNew : Client.new m s = .ok x.client)
    -- This is asked of the one host and not of all names: a name that is too long to be read in digits
    -- can still be written in them.
    (hIdempotent : ∀ name ascii, Url.Domain.toAscii name = .ok ascii →
      String.ofList ascii = x.client.host → Url.Domain.toAscii ascii = .ok ascii) :
    (∃ endpoint host, Url.parse (Client.endpointUrl s.endpoint) = .ok endpoint ∧
      endpoint.scheme = x.client.scheme ∧ endpoint.host = some host ∧
      endpoint.portOrDefault = some x.client.port ∧ x.client.NamedBy host x.client.hostHeader) ∧
    (∀ method uri body extra, ∃ es : List Exchange,
      (Session.send method uri body extra x).2.network.exchanges = x.network.exchanges ++ es ∧
      ∀ e ∈ es, e.request.headers.values "host" = ((extra.values "host").getLast?.map ([·])).getD
        [⟨Bytes.ofText x.client.hostHeader, false⟩]) ∧
    (¬[':', '/', '/'] <:+: s.endpoint.toList →
      ∃ c, Client.new m { s with endpoint := "https://" ++ s.endpoint } = .ok c ∧
        c.host = x.client.host ∧ c.port = x.client.port ∧ c.secure = x.client.secure ∧
        c.hostHeader = x.client.hostHeader) := by
  refine ⟨?_, ?_, ?_⟩
  · obtain ⟨url, host, port, authorization, hParse, hHost, hPort, _, hClient⟩ := Client.exists_of_new hNew
    have hScheme := Client.scheme_mem_of_new hNew hParse
    have hServer := Url.namesServer_of_parse hParse hScheme
    have hRead := hServer.host host hHost
    have hSame : url.scheme = x.client.scheme := by
      rw [Client.scheme, hClient]
      simp only [List.mem_cons, List.not_mem_nil, or_false] at hScheme
      rcases hScheme with hScheme | hScheme <;> rw [hScheme] <;> rfl
    have hText : host.text = x.client.host := by rw [hClient]
    have hSent : url.portOrDefault = some x.client.port := by rw [hClient, hPort]
    refine ⟨url, host, hParse, hSame, hHost, hSent, Client.namedBy_hostHeader hRead hText ?_ ?_⟩
    · rintro name rfl
      obtain ⟨source, hSource⟩ := hRead.exists_source
      exact hIdempotent source _ hSource (by rw [String.ofList_toList, ← hText]; rfl)
    · exact hServer.port_le hScheme hSent
  · intro method uri body extra
    obtain ⟨es, hExchanged, hServer⟩ := Session.exchanges_prepared method uri body extra x
    refine ⟨es, hExchanged, ?_⟩
    intro e he
    obtain ⟨_, _, _, f, hPrepare, hRequest⟩ := hServer e he
    rw [hRequest, Client.values_host_eq hPrepare]
  · intro hNoScheme
    have hSecure := Client.new_withEndpoint m s (Client.endpointUrl_of_no_scheme hNoScheme)
    rw [hNew] at hSecure
    exact ⟨_, hSecure, rfl, rfl, rfl, rfl⟩

/-- A name in capitals with a port, and an address in an unusual notation with a user, the usual port and
a path. -/
theorem host_headers_of_strange_endpoints :
    let m : Machine := ⟨fun _ => none, none, fun _ => false, fun _ => .error "", fun _ => none⟩
    let s := ClientSettings.forEndpoint "BMC.example:8443"
    let t := ClientSettings.forEndpoint "http://admin@[2001:DB8:0::192.0.2.1]:80/redfish"
    ∃ c d, Client.new m s = .ok c ∧ Client.new m t = .ok d ∧
      (∃ host, c.NamedBy host "bmc.example:8443") ∧ ∃ host, d.NamedBy host "[2001:db8::c000:201]" := by
  intro m s t
  let c : Client := ⟨s, "bmc.example", 8443, true, none⟩
  let d : Client := ⟨t, "2001:db8::c000:201", 80, false, none⟩
  have hNamed : Client.new m s = .ok c := by decide +kernel
  have hNumbered : Client.new m t = .ok d := by decide +kernel
  let server : DocumentServer := ⟨[], [], fun _ => .empty, fun _ => ⟨0⟩, []⟩
  refine ⟨c, d, hNamed, hNumbered, ?_, ?_⟩
  · have hHeader : c.hostHeader = "bmc.example:8443" := by decide +kernel
    let x := Session.start c (⟨server, []⟩ : Watched DocumentServer)
    have hIdempotent : ∀ name ascii, Url.Domain.toAscii name = .ok ascii →
        String.ofList ascii = x.client.host → Url.Domain.toAscii ascii = .ok ascii := by
      intro name ascii _ hHost
      obtain rfl : ascii = "bmc.example".toList :=
        String.toList_ofList.symm.trans (congrArg String.toList hHost)
      decide +kernel
    obtain ⟨⟨_, host, _, _, _, _, hName⟩, _⟩ := host_header_names_endpoint (x := x) hNamed hIdempotent
    exact ⟨host, hHeader ▸ hName⟩
  · have hHeader : d.hostHeader = "[2001:db8::c000:201]" := by decide +kernel
    let x := Session.start d (⟨server, []⟩ : Watched DocumentServer)
    have hIdempotent : ∀ name ascii, Url.Domain.toAscii name = .ok ascii →
        String.ofList ascii = x.client.host → Url.Domain.toAscii ascii = .ok ascii := by
      intro name ascii hAscii hHost
      obtain rfl : ascii = "2001:db8::c000:201".toList :=
        String.toList_ofList.symm.trans (congrArg String.toList hHost)
      exact absurd (Url.Domain.isForbidden_of_toAscii hAscii ':' (by decide)) (by decide)
    obtain ⟨⟨_, host, _, _, _, _, hName⟩, _⟩ := host_header_names_endpoint (x := x) hNumbered hIdempotent
    exact ⟨host, hHeader ▸ hName⟩

end Redfish
