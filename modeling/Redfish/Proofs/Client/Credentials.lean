import Redfish.Proofs.Client.Exchanges
import Redfish.Proofs.DocumentServer

/-!
# What is seen of credentials

Two clients that differ in their credentials alone behave alike as long as they are answered alike: they
give the same results and keep the same journal. Of what they send only the authorization differs, which
is sensitive from the moment it is made. So each definition below takes the credentials out, and each
lemma says that what comes after does not miss them.
-/

namespace Redfish

open Http

namespace Http

/-- The value without credentials: a sensitive authorization is emptied. -/
def HeaderValue.masked (name : String) (v : HeaderValue) : HeaderValue :=
  if name = "authorization" ∧ v.sensitive = true then ⟨[], true⟩ else v

theorem HeaderValue.masked_plain (name : String) (bs : Bytes) :
    HeaderValue.masked name ⟨bs, false⟩ = ⟨bs, false⟩ := if_neg fun h => Bool.false_ne_true h.2

theorem HeaderValue.masked_sensitive (bs : Bytes) :
    HeaderValue.masked "authorization" ⟨bs, true⟩ = ⟨[], true⟩ := if_pos ⟨rfl, rfl⟩

theorem HeaderValue.shown_masked (name : String) (v : HeaderValue) : (v.masked name).shown = v.shown := by
  unfold masked
  split
  · rename_i hMasked
    exact (if_pos hMasked.2).symm
  · rfl

namespace Headers

def masked (h : Headers) : Headers := ⟨h.groups.map fun g => (g.1, g.2.map (HeaderValue.masked g.1))⟩

theorem fields_masked (h : Headers) : h.masked.fields = h.fields.map fun f => (f.1, f.2.masked f.1) := by
  simp [fields, masked, List.map_flatMap, List.flatMap_map, Function.comp_def]

theorem masked_append (name : String) (v : HeaderValue) (h : Headers) :
    (h.append name v).masked = h.masked.append name (v.masked name) := by
  obtain ⟨groups⟩ := h
  refine congrArg Headers.mk ?_
  change (append.go name v groups).map _ = append.go name _ (groups.map _)
  induction groups with
  | nil => rfl
  | cons group groups ih =>
    obtain ⟨n, vs⟩ := group
    by_cases hName : n = name
    · subst hName
      simp [append.go]
    · simp only [append.go, List.map_cons, if_neg hName, ih]

theorem masked_insert (name : String) (v : HeaderValue) (h : Headers) :
    (h.insert name v).masked = h.masked.insert name (v.masked name) := by
  obtain ⟨groups⟩ := h
  refine congrArg Headers.mk ?_
  change (insert.go name v groups).map _ = insert.go name _ (groups.map _)
  induction groups with
  | nil => rfl
  | cons group groups ih =>
    obtain ⟨n, vs⟩ := group
    by_cases hName : n = name
    · subst hName
      simp [insert.go]
    · simp only [insert.go, List.map_cons, if_neg hName, ih]

theorem masked_insertAll {h h' : Headers} (hMasked : h.masked = h'.masked) (extra : Headers) :
    (extra.insertAll h).masked = (extra.insertAll h').masked := by
  unfold insertAll
  induction extra.fields generalizing h h' with
  | nil => exact hMasked
  | cons f fields ih =>
    refine ih ?_
    rw [masked_insert, masked_insert, hMasked]

end Headers

namespace Request

def masked (r : Request) : Request := { r with headers := r.headers.masked }

/-- A request as it leaves, without credentials. -/
def seen (r : Request) : Request := { r with headers := r.sentHeaders.masked }

theorem seen_congr {r r' : Request} (h : r.masked = r'.masked) : r.seen = r'.seen := by
  obtain ⟨method, target, headers, body⟩ := r
  obtain ⟨method', target', headers', body'⟩ := r'
  obtain ⟨rfl, rfl, hHeaders, rfl⟩ := Request.mk.inj h
  unfold seen sentHeaders
  cases body.isEmpty with
  | true => exact Request.mk.injEq .. |>.mpr ⟨rfl, rfl, hHeaders, rfl⟩
  | false =>
    refine Request.mk.injEq .. |>.mpr ⟨rfl, rfl, ?_, rfl⟩
    rw [if_neg Bool.false_ne_true, if_neg Bool.false_ne_true, Headers.masked_insert,
      Headers.masked_insert]
    exact congrArg (Headers.insert "content-length" _) hHeaders

end Request

end Http

theorem JournalSettings.showHeaders_masked (s : JournalSettings) (h : Headers) :
    s.showHeaders h.masked = s.showHeaders h := by
  unfold showHeaders showField
  simp only [Headers.fields_masked, List.map_map, Function.comp_def, HeaderValue.shown_masked]

theorem Journal.noteHeaders_masked (span : Span) (h : Headers) (j : Journal) :
    j.noteHeaders span h.masked = j.noteHeaders span h := by
  unfold noteHeaders
  rw [JournalSettings.showHeaders_masked]

/-- The settings without credentials, but for whether there are any. -/
def ClientSettings.masked (s : ClientSettings) : ClientSettings :=
  { s with username := s.username.map fun _ => "", password := none }

namespace Base64

theorem allowed_digit (n : Nat) : (String.utf8EncodeChar (digit n)).all HeaderValue.isAllowed = true := by
  have hSmall : ∀ n < 64, (String.utf8EncodeChar (digit n)).all HeaderValue.isAllowed = true := by decide
  by_cases h : n < 64
  · exact hSmall n h
  · have hSlash : digit n = '/' := by
      unfold digit
      rw [if_neg (by omega), if_neg (by omega), if_neg (by omega), if_neg (by omega)]
    rw [hSlash]
    rfl

theorem allowed_encodeChars (bs : Bytes) :
    ((encodeChars bs).flatMap String.utf8EncodeChar).all HeaderValue.isAllowed = true := by
  have hPad : (String.utf8EncodeChar '=').all HeaderValue.isAllowed = true := rfl
  fun_induction encodeChars bs with
  | case1 => rfl
  | case2 | case3 =>
    simp only [List.flatMap_cons, List.flatMap_nil, List.all_append, allowed_digit, hPad, List.all_nil,
      Bool.and_self]
  | case4 a b c rest n ih =>
    simp only [List.flatMap_cons, List.all_append, allowed_digit, ih, Bool.and_self]

end Base64

namespace Client

def masked (c : Client) : Client :=
  { c with
    settings := c.settings.masked
    authorization := c.authorization.map (HeaderValue.masked "authorization") }

def Flight.masked (f : Flight) : Flight := { f with request := f.request.masked }

theorem masked_baseHeaders (c : Client) (method : Method) :
    (c.baseHeaders method).masked = c.masked.baseHeaders method := by
  have hEmpty : Headers.empty.masked = Headers.empty := rfl
  have hHost : c.masked.hostHeader = c.hostHeader := rfl
  have hAuthorization : c.masked.authorization =
      c.authorization.map (HeaderValue.masked "authorization") := rfl
  unfold baseHeaders
  rw [hHost, hAuthorization]
  cases c.authorization with
  | none =>
    dsimp only [Option.map_none]
    split <;> simp only [Headers.masked_append, HeaderValue.masked_plain, hEmpty]
  | some v =>
    dsimp only [Option.map_some]
    split <;> simp only [Headers.masked_append, HeaderValue.masked_plain, hEmpty]

theorem prepare_masked {c d : Client} (h : c.masked = d.masked) (method : Method) (uri : String)
    (body : Bytes) (extra : Headers) :
    (c.prepare method uri body extra).map Flight.masked =
      (d.prepare method uri body extra).map Flight.masked := by
  have hBase : (c.baseHeaders method).masked = (d.baseHeaders method).masked := by
    rw [masked_baseHeaders, masked_baseHeaders, h]
  have hHeaders := Headers.masked_insertAll hBase extra
  unfold prepare
  cases requestTarget uri with
  | error error => rfl
  | ok target =>
    simp only [ok_bind, buildRequest]
    cases sentTarget target with
    | error fault => rfl
    | ok sent =>
      change Except.ok (Flight.mk method target ⟨method, sent, (extra.insertAll _).masked, body⟩) =
        Except.ok (Flight.mk method target ⟨method, sent, (extra.insertAll _).masked, body⟩)
      rw [hHeaders]

theorem verdict_masked (c : Client) (f : Flight) (outcome : Outcome) (elapsed : Duration) :
    c.masked.verdict f.masked outcome elapsed = c.verdict f outcome elapsed := rfl

theorem conclude_masked (c : Client) (f : Flight) (outcome : Outcome) (elapsed : Duration) (j : Journal) :
    c.masked.conclude f.masked outcome elapsed j = c.conclude f outcome elapsed j := rfl

theorem basicAuthorization_of_username {s : ClientSettings} {username : String}
    (h : s.username = some username) :
    basicAuthorization s = .ok (some ⟨Bytes.ofText ("Basic " ++
      Base64.encode (Bytes.ofText (username ++ ":" ++ s.password.getD ""))), true⟩) := by
  unfold basicAuthorization
  rw [h]
  dsimp only
  generalize Bytes.ofText (username ++ ":" ++ s.password.getD "") = credentials
  have hAllowed : (Bytes.ofText ("Basic " ++ Base64.encode credentials)).all HeaderValue.isAllowed =
      true := by
    have hScheme : ("Basic ".toList.flatMap String.utf8EncodeChar).all HeaderValue.isAllowed = true := rfl
    have hText : "Basic " ++ Base64.encode credentials =
        String.ofList ("Basic ".toList ++ Base64.encodeChars credentials) := by
      rw [String.ofList_append, String.ofList_toList, Base64.encode]
    rw [hText, Bytes.ofText_ofList, List.flatMap_append, List.all_append, hScheme,
      Base64.allowed_encodeChars, Bool.and_self]
  have hValue : HeaderValue.ofText? ("Basic " ++ Base64.encode credentials) = some _ := if_pos hAllowed
  rw [hValue]
  rfl

theorem basicAuthorization_eq (s : ClientSettings) : ∃ authorization,
    basicAuthorization s = .ok authorization ∧
      authorization.map (HeaderValue.masked "authorization") = s.username.map fun _ => ⟨[], true⟩ := by
  cases hUsername : s.username with
  | none =>
    refine ⟨none, ?_, rfl⟩
    rw [basicAuthorization, hUsername]
  | some username =>
    exact ⟨_, basicAuthorization_of_username hUsername, congrArg some (HeaderValue.masked_sensitive _)⟩

theorem new_masked {s t : ClientSettings} (h : s.masked = t.masked) (m : Machine) :
    (Client.new m s).map masked = (Client.new m t).map masked := by
  obtain ⟨a, hAuthorization, hMasked⟩ := basicAuthorization_eq s
  obtain ⟨b, hAuthorization', hMasked'⟩ := basicAuthorization_eq t
  have hEndpoint : s.endpoint = t.endpoint := (congrArg ClientSettings.endpoint h :)
  have hCertificates : checkCertificates m s = checkCertificates m t := by
    have hPath : s.caPath = t.caPath := (congrArg ClientSettings.caPath h :)
    unfold checkCertificates
    rw [hPath]
  have hMade (host : String) (port : Nat) (secure : Bool) :
      (⟨s, host, port, secure, a⟩ : Client).masked = (⟨t, host, port, secure, b⟩ : Client).masked := by
    have hUsername : s.username.map (fun _ => "") = t.username.map fun _ => "" :=
      congrArg ClientSettings.username h
    have hCredentials : a.map (HeaderValue.masked "authorization") =
        b.map (HeaderValue.masked "authorization") := by
      rw [hMasked, hMasked']
      cases hs : s.username <;> cases ht : t.username <;> rw [hs, ht] at hUsername <;> first
        | rfl
        | cases hUsername
    exact Client.mk.injEq .. |>.mpr ⟨h, rfl, rfl, rfl, hCredentials⟩
  unfold Client.new
  rw [hEndpoint, hCertificates, hAuthorization, hAuthorization']
  cases Url.parse (endpointUrl t.endpoint) with
  | error fault => rfl
  | ok url =>
    cases hHost : url.host with
    | none => simp only [Except.mapError, ok_bind, hHost]
    | some host =>
      cases hPort : url.portOrDefault with
      | none => simp only [Except.mapError, ok_bind, hHost, hPort]
      | some port =>
        simp only [Except.mapError, ok_bind, hHost, hPort]
        generalize url.scheme = scheme
        split
        · exact congrArg Except.ok (hMade host.text port false)
        · cases checkCertificates m t with
          | error error => rfl
          | ok => exact congrArg Except.ok (hMade host.text port true)
        · rfl

end Client

def Note.timeless : Note → Note
  | .headers shown => .headers shown
  | .answered status _ => .answered status ⟨0⟩
  | .failed _ reason => .failed ⟨0⟩ reason

def Line.timeless (l : Line) : Line := { l with note := l.note.timeless }

namespace Journal

def timeless (j : Journal) : Journal := { j with lines := j.lines.map Line.timeless }

theorem timeless_write (level : Level) (span : Span) (note : Note) (j : Journal) :
    (j.write level span note).timeless = j.timeless.write level span note.timeless := by
  unfold write
  split
  · rfl
  · simp only [timeless, List.map_append, List.map_cons, List.map_nil, Line.timeless]

theorem timeless_noteHeaders (span : Span) (h : Headers) (j : Journal) :
    (j.noteHeaders span h).timeless = j.timeless.noteHeaders span h := by
  unfold noteHeaders
  rw [apply_ite timeless, timeless_write]
  rfl

theorem timeless_finishSuccess (span : Span) (status : Nat) (elapsed : Duration) (j : Journal) :
    (j.finishSuccess span status elapsed).timeless = j.timeless.finishSuccess span status ⟨0⟩ := by
  unfold finishSuccess
  rw [timeless_write]
  rfl

theorem timeless_finishError (span : Span) (reason : String) (elapsed : Duration) (j : Journal) :
    (j.finishError span reason elapsed).timeless = j.timeless.finishError span reason ⟨0⟩ := by
  unfold finishError
  rw [timeless_write]
  rfl

end Journal

namespace Exchange

/-- Both came to the same in time, or neither came to anything in time. -/
def AnsweredAlike (timeout : Duration) (a b : Exchange) : Prop :=
  if timeout.nanos < a.elapsed.nanos then timeout.nanos < b.elapsed.nanos
  else b.elapsed.nanos ≤ timeout.nanos ∧ a.outcome = b.outcome

/-- Both were answered alike, exchange by exchange, as far as both went. -/
def AllAnsweredAlike (timeout : Duration) (as bs : List Exchange) : Prop :=
  ∀ (i : Nat) (a b : Exchange), as[i]? = some a → bs[i]? = some b → a.AnsweredAlike timeout b

theorem AllAnsweredAlike.of_prefix {timeout : Duration} {as as' bs bs' : List Exchange}
    (h : AllAnsweredAlike timeout as' bs') (ha : as <+: as') (hb : bs <+: bs') :
    AllAnsweredAlike timeout as bs := by
  intro i a b hFirst hSecond
  refine h i a b ?_ ?_
  · obtain ⟨rest, rfl⟩ := ha
    exact List.getElem?_append_left (List.getElem?_eq_some_iff.mp hFirst).1 ▸ hFirst
  · obtain ⟨rest, rfl⟩ := hb
    exact List.getElem?_append_left (List.getElem?_eq_some_iff.mp hSecond).1 ▸ hSecond

theorem AllAnsweredAlike.last {timeout : Duration} {as bs : List Exchange} {a b : Exchange}
    (h : AllAnsweredAlike timeout (as ++ [a]) (bs ++ [b])) (hLength : as.length = bs.length) :
    a.AnsweredAlike timeout b :=
  h as.length a b List.getElem?_concat_length (hLength ▸ List.getElem?_concat_length)

def seen (e : Exchange) : String × Nat × Bool × Request := (e.host, e.port, e.secure, e.request.seen)

end Exchange

namespace Client

variable {c : Client} {f : Flight} {a b : Exchange}

theorem result_congr (h : a.AnsweredAlike c.settings.timeout b) :
    c.result a.outcome a.elapsed = c.result b.outcome b.elapsed := by
  unfold Exchange.AnsweredAlike at h
  unfold result
  split at h
  · rename_i hLate
    rw [if_pos hLate, if_pos h]
  · rename_i hInTime
    rw [if_neg hInTime, if_neg (by omega), h.2]

theorem verdict_congr (h : a.AnsweredAlike c.settings.timeout b) :
    c.verdict f a.outcome a.elapsed = c.verdict f b.outcome b.elapsed := by
  unfold verdict
  rw [result_congr h]

theorem timeless_conclude (h : a.AnsweredAlike c.settings.timeout b) {j k : Journal}
    (hJournal : j.timeless = k.timeless) :
    (c.conclude f a.outcome a.elapsed j).2.timeless = (c.conclude f b.outcome b.elapsed k).2.timeless := by
  unfold conclude
  rw [result_congr h]
  cases c.result b.outcome b.elapsed with
  | error error =>
    dsimp only
    rw [Journal.timeless_finishError, Journal.timeless_finishError, hJournal]
  | ok response =>
    dsimp only
    split
    · rw [Journal.timeless_finishSuccess, Journal.timeless_finishSuccess, hJournal]
    · rw [Journal.timeless_finishError, Journal.timeless_finishError, hJournal]

end Client

namespace Session

variable [Network ν] [Network ν']

/-- The sessions are the same but for credentials and times. -/
structure Alike (x : Session (Watched ν)) (y : Session (Watched ν')) : Prop where
  client : x.client.masked = y.client.masked
  journal : x.journal.timeless = y.journal.timeless
  exchanges : x.network.exchanges.map Exchange.seen = y.network.exchanges.map Exchange.seen

/-- Requests are made on both sides or on neither, and what is answered alike is taken alike. -/
theorem Alike.send {x : Session (Watched ν)} {y : Session (Watched ν')} (h : x.Alike y) (made : Made)
    (hAnswers : Exchange.AllAnsweredAlike x.client.settings.timeout
      (made.send x).2.network.exchanges (made.send y).2.network.exchanges) :
    (made.send x).1 = (made.send y).1 ∧ (made.send x).2.Alike (made.send y).2 := by
  have hPrepared : (x.client.prepareMade made).map Client.Flight.masked =
      (y.client.prepareMade made).map Client.Flight.masked := Client.prepare_masked h.client ..
  -- A request that is made on one side alone would contradict `hPrepared`.
  cases hx : x.client.prepareMade made with
  | error error =>
    cases hy : y.client.prepareMade made with
    | error error' =>
      rw [hx, hy] at hPrepared
      obtain rfl := Except.error.inj hPrepared
      rw [made_of_error hx, made_of_error hy]
      exact ⟨rfl, h⟩
    | ok g =>
      rw [hx, hy] at hPrepared
      cases hPrepared
  | ok f =>
    cases hy : y.client.prepareMade made with
    | error error =>
      rw [hx, hy] at hPrepared
      cases hPrepared
    | ok g =>
      rw [hx, hy] at hPrepared
      have hFlight : f.masked = g.masked := Except.ok.inj hPrepared
      obtain ⟨outcome, elapsed, network, hSend⟩ := made_of_flight hx
      obtain ⟨outcome', elapsed', network', hSend'⟩ := made_of_flight hy
      rw [hSend, hSend'] at hAnswers ⊢
      have hLength : x.network.exchanges.length = y.network.exchanges.length := by
        rw [← List.length_map (f := Exchange.seen), h.exchanges, List.length_map]
      have hAlike := hAnswers.last hLength
      have hVerdict : y.client.verdict g outcome' elapsed' = x.client.verdict f outcome' elapsed' := by
        rw [← Client.verdict_masked, ← h.client, ← hFlight, Client.verdict_masked]
      have hConclude (j : Journal) :
          y.client.conclude g outcome' elapsed' j = x.client.conclude f outcome' elapsed' j := by
        rw [← Client.conclude_masked, ← h.client, ← hFlight, Client.conclude_masked]
      have hNoted : (x.journal.noteHeaders f.span f.request.headers).timeless =
          (y.journal.noteHeaders g.span g.request.headers).timeless := by
        have hSpan : f.span = g.span := (congrArg Client.Flight.span hFlight :)
        have hHeaders : f.request.headers.masked = g.request.headers.masked :=
          (congrArg (fun f => f.request.headers) hFlight :)
        rw [← Journal.noteHeaders_masked, ← Journal.noteHeaders_masked g.span, hSpan, hHeaders,
          Journal.timeless_noteHeaders, Journal.timeless_noteHeaders, h.journal]
      refine ⟨?_, h.client, ?_, ?_⟩
      · dsimp only
        rw [hVerdict]
        exact Client.verdict_congr hAlike
      · dsimp only
        rw [hConclude]
        exact Client.timeless_conclude hAlike hNoted
      · have hRequest : f.request.masked = g.request.masked :=
          (congrArg Client.Flight.request hFlight :)
        have hHost : x.client.host = y.client.host := (congrArg Client.host h.client :)
        have hPort : x.client.port = y.client.port := (congrArg Client.port h.client :)
        have hSecure : x.client.secure = y.client.secure := (congrArg Client.secure h.client :)
        dsimp only
        rw [List.map_append, List.map_append, h.exchanges, List.map_singleton, List.map_singleton,
          Exchange.seen, Exchange.seen, Request.seen_congr hRequest, hHost, hPort, hSecure]

theorem Alike.sendAll {x : Session (Watched ν)} {y : Session (Watched ν')} (h : x.Alike y)
    (calls : List Made)
    (hAnswers : Exchange.AllAnsweredAlike x.client.settings.timeout
      (Made.sendAll calls x).2.network.exchanges (Made.sendAll calls y).2.network.exchanges) :
    (Made.sendAll calls x).1 = (Made.sendAll calls y).1 ∧
      (Made.sendAll calls x).2.Alike (Made.sendAll calls y).2 := by
  induction calls generalizing x y with
  | nil => exact ⟨rfl, h⟩
  | cons made rest ih =>
    rw [Made.sendAll_cons, Made.sendAll_cons] at hAnswers ⊢
    dsimp only at hAnswers ⊢
    obtain ⟨hResult, hNext⟩ :=
      h.send made (hAnswers.of_prefix (exchanges_sendAll rest _) (exchanges_sendAll rest _))
    obtain ⟨hResults, hEnd⟩ := ih hNext (by rwa [client_made])
    exact ⟨by rw [hResult, hResults], hEnd⟩

end Session

/-- Clients that differ in their credentials alone cannot be told apart by what they give, log, count and
show as long as they are answered alike. Of what they send only the value of the authorization differs. -/
theorem credentials_never_show {s t : ClientSettings} (h : s.masked = t.masked) (m : Machine) :
    (∃ error, Client.new m s = .error error ∧ Client.new m t = .error error) ∨
    ∃ c d, Client.new m s = .ok c ∧ Client.new m t = .ok d ∧ c.shown = d.shown ∧
      ∀ (ν ν' : Type) [Network ν] [Network ν'] (x : ν) (y : ν') (calls : List Made),
        let run := Made.sendAll calls (Session.start c (⟨x, []⟩ : Watched ν))
        let run' := Made.sendAll calls (Session.start d (⟨y, []⟩ : Watched ν'))
        Exchange.AllAnsweredAlike c.settings.timeout run.2.network.exchanges run'.2.network.exchanges →
        run.1 = run'.1 ∧ run.2.journal.counters = run'.2.journal.counters ∧
        run.2.journal.lines.map Line.timeless = run'.2.journal.lines.map Line.timeless ∧
        run.2.network.exchanges.map Exchange.seen = run'.2.network.exchanges.map Exchange.seen := by
  have hNew := Client.new_masked h m
  cases hs : Client.new m s with
  | error error =>
    cases ht : Client.new m t with
    | error error' =>
      rw [hs, ht] at hNew
      exact .inl ⟨error, rfl, congrArg _ (Except.error.inj hNew).symm⟩
    | ok d =>
      rw [hs, ht] at hNew
      cases hNew
  | ok c =>
    cases ht : Client.new m t with
    | error error =>
      rw [hs, ht] at hNew
      cases hNew
    | ok d =>
      rw [hs, ht] at hNew
      have hClient : c.masked = d.masked := Except.ok.inj hNew
      refine .inr ⟨c, d, rfl, rfl, (congrArg Client.shown hClient :), ?_⟩
      intro ν ν' _ _ x y calls run run' hAnswers
      have hLogging : c.settings.logging = d.settings.logging :=
        (congrArg (fun c => c.settings.logging) hClient :)
      have hStart : (Session.start c (⟨x, []⟩ : Watched ν)).Alike (Session.start d (⟨y, []⟩ : Watched ν')) :=
        ⟨hClient, congrArg (fun l => (Journal.new l).timeless) hLogging, rfl⟩
      obtain ⟨hResults, hEnd⟩ := hStart.sendAll calls hAnswers
      exact ⟨hResults, (congrArg Journal.counters hEnd.journal :),
        (congrArg Journal.lines hEnd.journal :), hEnd.exchanges⟩

/-- Header fields are logged and nothing is redacted. -/
theorem credentials_hidden_without_redaction :
    let s : ClientSettings :=
      ⟨"http://127.0.0.1", some "a", some "b", none, false, .ofSecs 30, ⟨.info, .error, true, false, []⟩⟩
    let t : ClientSettings := { s with username := some "c", password := none }
    let m : Machine := ⟨fun _ => none, none, fun _ => false, fun _ => .error "", fun _ => none⟩
    let server : DocumentServer := ⟨[], [], fun _ => .empty, fun _ => ⟨0⟩, []⟩
    ∃ c d, Client.new m s = .ok c ∧ Client.new m t = .ok d ∧ c.authorization ≠ d.authorization ∧
      let run := Made.sendAll [.get "/p"] (Session.start c (⟨server, []⟩ : Watched DocumentServer))
      let run' := Made.sendAll [.get "/p"] (Session.start d (⟨server, []⟩ : Watched DocumentServer))
      run.1 = run'.1 ∧ run.2.journal.lines.map Line.timeless = run'.2.journal.lines.map Line.timeless ∧
      run.2.journal.lines.map (·.note) = [
        .headers ("host=\"127.0.0.1\", accept=\"application/json\", odata-version=\"4.0\", " ++
          "authorization=Sensitive"),
        .failed ⟨0⟩ "404 Not Found"] := by
  intro s t m server
  have hc : Client.new m s =
      .ok ⟨s, "127.0.0.1", 80, false, some ⟨Bytes.ofText "Basic YTpi", true⟩⟩ := by decide +kernel
  have hd : Client.new m t =
      .ok ⟨t, "127.0.0.1", 80, false, some ⟨Bytes.ofText "Basic Yzo=", true⟩⟩ := by decide +kernel
  refine ⟨_, _, hc, hd, by decide, ?_⟩
  intro run run'
  rcases credentials_never_show (s := s) (t := t) rfl m with ⟨error, hError, _⟩ | ⟨c, d, hc', hd', _, hSame⟩
  · cases hc.symm.trans hError
  · obtain rfl := Except.ok.inj (hc.symm.trans hc')
    obtain rfl := Except.ok.inj (hd.symm.trans hd')
    have hAnswers : Exchange.AllAnsweredAlike s.timeout run.2.network.exchanges
        run'.2.network.exchanges := by
      intro i a b ha hb
      cases i with
      | zero =>
        cases ha
        cases hb
        exact ⟨Nat.zero_le _, rfl⟩
      | succ i => cases ha
    obtain ⟨hResults, _, hLines, _⟩ := hSame _ _ server server [.get "/p"] hAnswers
    exact ⟨hResults, hLines, by decide +kernel⟩

end Redfish
