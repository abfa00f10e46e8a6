import Mathlib.Data.List.DropRight
import Redfish.Client.Session
import Redfish.MemoryService
import Redfish.Proofs.Client
import Redfish.Proofs.MemoryListing
import Redfish.Proofs.Script
import Redfish.Proofs.Update.Request

/-!
# A server of documents on a network

A service in memory stands for a server that is asked over a network. Between the two lies everything a
client does to a request and to the answer: the target it asks for, the fields it sends, the statuses it
tells apart and the bodies it reads. No program sees any of it, as long as it asks for URIs that can be
sent.
-/

namespace Redfish

open Http

/-- A server of documents, some of which it refuses. What else its answers carry and when they come may
depend on all that it was asked. -/
structure DocumentServer where
  documents : List (String × Bytes)
  refusals : List (String × StatusCode)
  fields : List ReceivedRequest → Headers
  delay : List ReceivedRequest → Duration
  received : List ReceivedRequest

namespace DocumentServer

def isBlank (b : UInt8) : Bool := b = 0x20 || b = 0x09

def trim (bs : Bytes) : Bytes := (bs.dropWhile isBlank).rdropWhile isBlank

/-- Neither the first nor the last byte is a blank. -/
def isBare (bs : Bytes) : Bool := !bs.head?.any isBlank && !bs.getLast?.any isBlank

/-- What the server sees of a request. A condition that is not visible text is not remembered. -/
def seen (request : Request) : ReceivedRequest where
  method := request.method
  uri := request.target.text
  body := request.body
  ifMatch := (request.sentHeaders.get? "if-match").bind fun v =>
    HeaderValue.text? ⟨trim v.bytes, v.sensitive⟩

def respond (s : DocumentServer) (r : ReceivedRequest) : StatusCode × Bytes :=
  match s.refusals.lookup r.uri with
  | some code => (code, [])
  | none =>
    match s.documents.lookup r.uri with
    | none => (.notFound, [])
    | some document =>
      if r.method = .get then (.ok, document)
      else if r.method = .patch then (.noContent, [])
      else (.notFound, [])

instance : Network DocumentServer where
  exchange _ _ _ request := fun s =>
    let received := s.received ++ [seen request]
    let (status, body) := s.respond (seen request)
    ((.answered ⟨status, s.fields received, body⟩, s.delay received), { s with received })

end DocumentServer

/-- A request that can be sent and arrives as it was made. -/
structure ReceivedRequest.IsPlain (r : ReceivedRequest) : Prop where
  target : IsTarget r.uri
  short : (Bytes.ofText r.uri).length ≤ 65534
  bare : ∀ tag, r.ifMatch = some tag → DocumentServer.isBare (Bytes.ofText tag) = true

/-- The session is one with a server of the documents of the service, which was asked what the service
was asked. The server refuses what the service refuses, each with a status of failure, and answers in
time. -/
structure Mirrors (service : MemoryService) (session : Session DocumentServer) : Prop where
  documents : session.network.documents = service.documents
  refusals : session.network.refusals = service.refusals
  received : session.network.received = service.received
  refused : ∀ r ∈ service.refusals, 400 ≤ r.2.code ∧ r.2.code < 600
  in_time : ∀ rs, (session.network.delay rs).nanos ≤ session.client.settings.timeout.nanos

namespace DocumentServer

theorem all_dropWhile {p q : UInt8 → Bool} (h : ∀ b, q b = true → p b = true) (bs : Bytes) :
    (bs.dropWhile q).all p = bs.all p := by
  induction bs with
  | nil => rfl
  | cons b bs ih =>
    rw [List.dropWhile_cons]
    split
    · rename_i hBlank
      rw [ih, List.all_cons, h b hBlank, Bool.true_and]
    · rfl

theorem all_isVisible_trim (bs : Bytes) :
    (trim bs).all HeaderValue.isVisible = bs.all HeaderValue.isVisible := by
  have hBlank : ∀ b, isBlank b = true → HeaderValue.isVisible b = true := by
    intro b hb
    unfold isBlank at hb
    rw [Bool.or_eq_true, decide_eq_true_eq, decide_eq_true_eq] at hb
    rcases hb with rfl | rfl <;> rfl
  unfold trim List.rdropWhile
  rw [List.all_reverse, all_dropWhile hBlank, List.all_reverse, all_dropWhile hBlank]

theorem trim_eq_self {bs : Bytes} (h : isBare bs = true) : trim bs = bs := by
  unfold isBare at h
  rw [Bool.and_eq_true, Bool.not_eq_true', Bool.not_eq_true'] at h
  obtain ⟨hFirst, hLast⟩ := h
  have hFront : bs.dropWhile isBlank = bs := by
    cases bs with
    | nil => rfl
    | cons b bs => exact (List.dropWhile_cons ..).trans (if_neg (Bool.eq_false_iff.mp hFirst))
  unfold trim
  rw [hFront, List.rdropWhile_eq_self_iff]
  intro hNonempty
  rw [List.getLast?_eq_some_getLast hNonempty] at hLast
  exact Bool.eq_false_iff.mp hLast

theorem text?_trim {tag : String} (h : ∀ text, HeaderValue.text? ⟨Bytes.ofText tag, false⟩ = some text →
    isBare (Bytes.ofText text) = true) :
    HeaderValue.text? ⟨trim (Bytes.ofText tag), false⟩ =
      HeaderValue.text? ⟨Bytes.ofText tag, false⟩ := by
  cases hVisible : (Bytes.ofText tag).all HeaderValue.isVisible with
  | true =>
    have hText : HeaderValue.text? ⟨Bytes.ofText tag, false⟩ = some tag :=
      (if_pos hVisible).trans (Bytes.text?_ofText tag)
    rw [trim_eq_self (h tag hText)]
  | false =>
    have hTrimmed := (all_isVisible_trim (Bytes.ofText tag)).trans hVisible
    unfold HeaderValue.text?
    rw [if_neg (Bool.eq_false_iff.mp hTrimmed), if_neg (Bool.eq_false_iff.mp hVisible)]

theorem respond_cases {service : MemoryService} {server : DocumentServer}
    (hDocuments : server.documents = service.documents) (hRefusals : server.refusals = service.refusals)
    (hRefused : ∀ r ∈ service.refusals, 400 ≤ r.2.code ∧ r.2.code < 600) {r : ReceivedRequest}
    (hMethod : r.method = .get ∨ r.method = .patch) :
    (∃ status body, server.respond r = (status, body) ∧ status.isSuccess = true ∧
      service.answer r = .ok (.plain status body)) ∨
    ∃ status, server.respond r = (status, []) ∧ status.isSuccess = false ∧
      service.answer r = .error (.status r.method r.uri status none) := by
  unfold respond MemoryService.answer
  rw [hDocuments, hRefusals]
  cases hRefusal : service.refusals.lookup r.uri with
  | some code =>
    refine .inr ⟨code, rfl, ?_, rfl⟩
    have hCode : 400 ≤ code.code ∧ code.code < 600 := hRefused _ (Table.mem_of_get? hRefusal)
    unfold StatusCode.isSuccess
    rw [Bool.and_eq_false_iff]
    exact .inr (decide_eq_false (by omega))
  | none =>
    cases service.documents.lookup r.uri with
    | none => exact .inr ⟨.notFound, rfl, rfl, rfl⟩
    | some document =>
      rcases hMethod with hGet | hPatch
      · rw [hGet]
        exact .inl ⟨.ok, document, rfl, rfl, rfl⟩
      · rw [hPatch]
        exact .inl ⟨.noContent, [], rfl, rfl, rfl⟩

end DocumentServer

namespace Client

variable (c : Client)

theorem get?_insertAll_ifMatch {e : Entity} {extra : Headers} (h : e.condition = .ok extra)
    (method : Method) :
    (extra.insertAll (c.baseHeaders method)).get? "if-match" = extra.get? "if-match" := by
  rcases Entity.condition_cases h with rfl | ⟨tag, rfl⟩
  · exact c.get?_baseHeaders_ifMatch method
  · exact Headers.get?_insert "if-match" ⟨Bytes.ofText tag, false⟩ (c.baseHeaders method) "if-match"

theorem prepare_plain {r : ReceivedRequest} (hPlain : r.IsPlain) {e : Entity} {extra : Headers}
    (hCondition : e.condition = .ok extra)
    (hIfMatch : r.ifMatch = (extra.get? "if-match").bind HeaderValue.text?) :
    ∃ flight, c.prepare r.method r.uri r.body extra = .ok flight ∧ flight.method = r.method ∧
      flight.target = r.uri ∧ DocumentServer.seen flight.request = r := by
  let request : Request :=
    ⟨r.method, Bytes.ofText r.uri, extra.insertAll (c.baseHeaders r.method), r.body⟩
  have hRequest : c.buildRequest r.method r.uri r.body extra = .ok request := by
    unfold buildRequest
    rw [hPlain.target.sentTarget_eq hPlain.short]
  have hField : request.sentHeaders.get? "if-match" = extra.get? "if-match" := by
    rw [← c.get?_insertAll_ifMatch hCondition r.method]
    unfold Request.sentHeaders
    split
    · rfl
    · rw [Headers.get?_insert, if_neg (by decide)]
  have hSeenIfMatch : (DocumentServer.seen request).ifMatch = r.ifMatch := by
    unfold DocumentServer.seen
    rw [hField, hIfMatch]
    rcases Entity.condition_cases hCondition with rfl | ⟨tag, rfl⟩
    · rfl
    · rw [Headers.get?_insert, if_pos rfl, Option.bind_some] at hIfMatch ⊢
      exact DocumentServer.text?_trim fun text hText => hPlain.bare text (hIfMatch.trans hText)
  have hSeenUri : (DocumentServer.seen request).uri = r.uri := Bytes.text_ofText r.uri
  refine ⟨⟨r.method, r.uri, request⟩, ?_, rfl, rfl, ?_⟩
  · refine bind_eq_ok_iff.mpr ⟨r.uri, hPlain.target.requestTarget_eq, ?_⟩
    exact bind_eq_ok_iff.mpr ⟨request, hRequest, rfl⟩
  · obtain ⟨method, uri, body, ifMatch⟩ := r
    exact ReceivedRequest.mk.injEq .. |>.mpr ⟨rfl, hSeenUri, rfl, hSeenIfMatch⟩

end Client

theorem Session.getObject_of_long [Network ν] [Resource α] {uri : String} (hTarget : IsTarget uri)
    (hLong : 65534 < (Bytes.ofText uri).length) (s : Session ν) :
    (getObject uri : Call (Session ν) α) s =
      (.error (.validation "Invalid request: uri too long"), s) := by
  have hGet : Transport.get uri s = (.error (.validation "Invalid request: uri too long"), s) := by
    exact Session.send_of_error (s.client.prepare_of_long hTarget hLong .get [] .empty)
  rw [getObject_run, hGet]
  rfl

/-- One request: the session gives the body that the service gives, or the same error, and what both
were asked stays the same. -/
theorem send_mirrors {service : MemoryService} {session : Session DocumentServer}
    (h : Mirrors service session) {r : ReceivedRequest} (hPlain : r.IsPlain)
    (hMethod : r.method = .get ∨ r.method = .patch) {e : Entity} {extra : Headers}
    (hCondition : e.condition = .ok extra)
    (hIfMatch : r.ifMatch = (extra.get? "if-match").bind HeaderValue.text?) :
    ∃ result session', Session.send r.method r.uri r.body extra session = (result, session') ∧
      result.map (·.body) = (service.answer r).map (·.body) ∧
      Mirrors { service with received := service.received ++ [r] } session' := by
  obtain ⟨flight, hFlight, hFlightMethod, hTarget, hSeen⟩ :=
    session.client.prepare_plain hPlain hCondition hIfMatch
  let server := { session.network with received := session.network.received ++ [r] }
  let outcome : Client.Outcome := .answered
    ⟨(session.network.respond r).1, server.fields server.received, (session.network.respond r).2⟩
  have hExchange : Network.exchange session.client.host session.client.port session.client.secure
      flight.request session.network = ((outcome, server.delay server.received), server) := by
    subst hSeen
    rfl
  have hSend : Session.send r.method r.uri r.body extra session =
      (session.client.verdict flight outcome (server.delay server.received),
        { session with
          journal := (session.client.conclude flight outcome (server.delay server.received)
            (session.journal.noteHeaders flight.span flight.request.headers)).2
          network := server }) := by
    rw [Session.send_of_flight hFlight, hExchange]
  refine ⟨_, _, hSend, ?_, ?_⟩
  · rw [Client.verdict_answered _ (h.in_time _), hFlightMethod, hTarget]
    rcases DocumentServer.respond_cases h.documents h.refusals h.refused hMethod with
      ⟨status, document, hRespond, hSuccess, hAnswer⟩ | ⟨status, hRespond, hFailure, hAnswer⟩
    · rw [hRespond, hAnswer]
      dsimp only
      rw [if_pos hSuccess]
      rfl
    · rw [hRespond, hAnswer]
      dsimp only
      rw [if_neg (Bool.eq_false_iff.mp hFailure)]
      rfl
  · refine ⟨h.documents, h.refusals, ?_, h.refused, h.in_time⟩
    exact congrArg (· ++ [r]) h.received

def MemoryService.IsPlain (s : MemoryService) : Prop := ∀ r ∈ s.received, r.IsPlain

theorem MemoryService.isPlain_append_iff (s : MemoryService) (r : ReceivedRequest) :
    IsPlain { s with received := s.received ++ [r] } ↔ s.IsPlain ∧ r.IsPlain := by
  unfold IsPlain
  rw [List.forall_mem_append, List.forall_mem_singleton]

theorem bodyOf_run (call : Call σ Response) (f : Bytes → α) (s : σ) :
    (do let response ← call; return f response.body : Call σ α).run s =
      ((call s).1.map fun response => f response.body, (call s).2) := by
  change (call >>= _ : Call σ α) s = _
  rw [Call.bind_run]
  rcases call s with ⟨result, s'⟩
  cases result <;> rfl

theorem simulates_send {r : ReceivedRequest} (hMethod : r.method = .get ∨ r.method = .patch)
    {e : Entity} {extra : Headers} (hCondition : e.condition = .ok extra)
    (hIfMatch : r.ifMatch = (extra.get? "if-match").bind HeaderValue.text?) (f : Bytes → α) :
    Simulates Mirrors MemoryService.IsPlain
      (do let response ← MemoryService.receive r; return f response.body : Call _ α).run
      (do let response ← Session.send r.method r.uri r.body extra; return f response.body :
        Call (Session DocumentServer) α).run := by
  constructor
  · intro s hFit
    rw [bodyOf_run] at hFit
    exact ((s.isPlain_append_iff r).mp hFit).1
  · intro service session h hFit
    rw [bodyOf_run] at hFit ⊢
    rw [bodyOf_run]
    have hPlain := ((service.isPlain_append_iff r).mp hFit).2
    obtain ⟨result, session', hSend, hResult, hAfter⟩ :=
      send_mirrors h hPlain hMethod hCondition hIfMatch
    rw [hSend]
    refine ⟨?_, hAfter⟩
    have hMap : ∀ x : Except Error Response,
        x.map (fun response => f response.body) = (x.map (·.body)).map f := by
      intro x
      cases x <;> rfl
    change result.map _ = (service.answer r).map _
    rw [hMap, hMap, hResult]

/-- A session with the server goes as one with the service. -/
def mirroring : Simulation MemoryService (Session DocumentServer) where
  R := Mirrors
  Fit := MemoryService.IsPlain
  document uri := by
    have hBlank : (Json.Record.blank : Entity).condition = .ok .empty := rfl
    exact simulates_send (r := ⟨.get, uri, [], none⟩) (.inl rfl) hBlank rfl id
  submit uri body e extra hCondition :=
    simulates_send (r := ⟨.patch, uri, body, (extra.get? "if-match").bind HeaderValue.text?⟩)
      (.inr rfl) hCondition rfl fun _ => ()
  walk_ends uri s := by
    obtain ⟨_, _, _, hWalk, _⟩ := s.walk_ends uri
    rw [hWalk]
    rfl

/-- A program comes to an end with a service in memory. It gives the same over a network, the same errors
included, with a server that holds the same documents and refuses the same URIs, and the server is asked
the same in the same order. The program may ask for any URI that can be sent, and send any condition
that has no blanks around it. -/
theorem script_over_network (script : Script β) {service : MemoryService}
    {session : Session DocumentServer} (hMirrors : Mirrors service session) :
    ∃ result service', script.run service = some (result, service') ∧
      (service'.IsPlain → ∃ session', script.run session = some (result, session') ∧
        session'.network.received = service'.received) := by
  obtain ⟨result, service', hRun, hAgrees⟩ := mirroring.script script service
  refine ⟨result, service', hRun, ?_⟩
  intro hPlain
  obtain ⟨session', hSession, hAfter⟩ := (hAgrees hPlain).2 session hMirrors
  exact ⟨session', hSession, hAfter.received⟩

def Session.withServer (documents : List (String × Bytes)) (refusals : List (String × StatusCode)) :
    Session DocumentServer :=
  .start ⟨.forEndpoint "http://127.0.0.1:8000", "127.0.0.1", 8000, false, none⟩
    ⟨documents, refusals, fun _ => .empty, fun _ => ⟨0⟩, []⟩

theorem mirrors_withServer (documents : List (String × Bytes)) {refusals : List (String × StatusCode)}
    (h : ∀ r ∈ refusals, 400 ≤ r.2.code ∧ r.2.code < 600) :
    Mirrors ⟨documents, refusals, []⟩ (.withServer documents refusals) :=
  ⟨rfl, rfl, rfl, h, fun _ => Nat.zero_le _⟩

/-- A label is set and a refused document asked for. -/
theorem label_over_network :
    let documents := [("/p", Bytes.ofText "\x7b\"@odata.etag\":\"v1\",\"UserLabel\":\"a\"\x7d")]
    let script : Script (Except Error (Except Error Unit × Except Error Chassis)) :=
      .call (.get "/p") fun fetched : Except Error PowerDistribution =>
        match fetched with
        | .error e => .done (.error e)
        | .ok p =>
          .call (.update { p with userLabel := some "b" }) fun updated =>
            .call (.get "/c") fun chassis => .done (.ok (updated, chassis))
    ∃ ended, script.run (Session.withServer documents [("/c", ⟨503⟩)]) =
        some (.ok (.ok (), .error (.status .get "/c" ⟨503⟩ none)), ended) ∧
      ended.network.received = [⟨.get, "/p", [], none⟩,
        ⟨.patch, "/p", Bytes.ofText "\x7b\"UserLabel\":\"b\"\x7d", some "v1"⟩,
        ⟨.get, "/c", [], none⟩] := by
  intro documents script
  have hRefused : ∀ r ∈ [("/c", (⟨503⟩ : StatusCode))], 400 ≤ r.2.code ∧ r.2.code < 600 := by decide
  let received : List ReceivedRequest := [⟨.get, "/p", [], none⟩,
    ⟨.patch, "/p", Bytes.ofText "\x7b\"UserLabel\":\"b\"\x7d", some "v1"⟩,
    ⟨.get, "/c", [], none⟩]
  have hRun : script.run (⟨documents, [("/c", ⟨503⟩)], []⟩ : MemoryService) =
      some (.ok (.ok (), .error (.status .get "/c" ⟨503⟩ none)),
        ⟨documents, [("/c", ⟨503⟩)], received⟩) := rfl
  have hPlain : MemoryService.IsPlain ⟨documents, [("/c", ⟨503⟩)], received⟩ := by
    unfold MemoryService.IsPlain
    simp only [received, List.forall_mem_cons]
    refine ⟨?_, ?_, ?_, nofun⟩
    · exact ⟨.of_path rfl rfl, by decide, nofun⟩
    · refine ⟨.of_path rfl rfl, by decide, ?_⟩
      rintro _ ⟨⟩
      rfl
    · exact ⟨.of_path rfl rfl, by decide, nofun⟩
  obtain ⟨_, _, hService, hSame⟩ := script_over_network script (mirrors_withServer documents hRefused)
  obtain ⟨rfl, rfl⟩ := Prod.mk.inj (Option.some.inj (hService.symm.trans hRun))
  exact hSame hPlain

/-- A program that only asks for a target that is too long tells the two apart. -/
theorem get_long_over_network {uri : String} (hTarget : IsTarget uri)
    (hLong : 65534 < (Bytes.ofText uri).length) :
    let script : Script (Except Error Chassis) := .call (.get uri) .done
    script.run (Session.withServer [] []) =
        some (.error (.validation "Invalid request: uri too long"), .withServer [] []) ∧
      ∃ service, script.run MemoryService.empty =
        some (.error (.status .get uri .notFound none), service) :=
  ⟨congrArg some (Session.getObject_of_long hTarget hLong (.withServer [] [])), _, rfl⟩

theorem long_path_over_network :
    let uri := String.ofList ('/' :: List.replicate 65534 'a')
    let script : Script (Except Error Chassis) := .call (.get uri) .done
    IsTarget uri ∧ Mirrors .empty (.withServer [] []) ∧
      script.run (Session.withServer [] []) =
        some (.error (.validation "Invalid request: uri too long"), .withServer [] []) ∧
      ∃ service, script.run MemoryService.empty =
        some (.error (.status .get uri .notFound none), service) := by
  have hLong : 65534 < (Bytes.ofText (String.ofList ('/' :: List.replicate 65534 'a'))).length := by
    rw [IsTarget.ofText_replicate, List.length_cons, List.length_replicate]
    decide
  exact ⟨.of_letters 65534, mirrors_withServer [] nofun,
    get_long_over_network (.of_letters 65534) hLong⟩

end Redfish
