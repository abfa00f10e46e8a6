import Redfish.Proofs.Text
import Redfish.Proofs.Update.Condition

/-!
# The precondition that a service in memory shows

Three classes of texts meet in a conditional update: every text may be an entity tag, a tag without control
characters can be sent, and of those that were sent the ones within ASCII are remembered. The tags between
the last two are sent and not shown.
-/

namespace Redfish

open Json Http

/-- The text has no control characters but the tab. -/
def isSendable (tag : String) : Bool :=
  tag.toList.all fun c => c.toNat == 0x09 || (0x20 ≤ c.toNat && c.toNat != 0x7F)

/-- The text consists of printable ASCII characters and tabs. -/
def isShowable (tag : String) : Bool :=
  tag.toList.all fun c => c.toNat == 0x09 || (0x20 ≤ c.toNat && c.toNat ≤ 0x7E)

namespace Http.HeaderValue

theorem isAllowed_iff (b : UInt8) :
    isAllowed b = true ↔ b.toNat = 0x09 ∨ 0x20 ≤ b.toNat ∧ b.toNat ≠ 0x7F := by
  unfold isAllowed
  simp only [Bool.or_eq_true, Bool.and_eq_true, decide_eq_true_eq, bne_iff_ne, ne_eq,
    UInt8.le_iff_toNat_le, ← UInt8.toNat_inj]
  rfl

theorem isVisible_iff (b : UInt8) :
    isVisible b = true ↔ b.toNat = 0x09 ∨ 0x20 ≤ b.toNat ∧ b.toNat ≤ 0x7E := by
  unfold isVisible
  simp only [Bool.or_eq_true, Bool.and_eq_true, decide_eq_true_eq, UInt8.le_iff_toNat_le,
    ← UInt8.toNat_inj]
  rfl

theorem all_isAllowed (tag : String) : (Bytes.ofText tag).all isAllowed = isSendable tag := by
  apply Bytes.all_ofText_of_class
  · intro c hAscii
    rw [Bool.eq_iff_iff, isAllowed_iff, Bytes.toNat_toUInt8 hAscii]
    simp
  · intro c hHigh b hb
    rw [Bool.eq_iff_iff, isAllowed_iff]
    simp
    omega

theorem all_isVisible (tag : String) : (Bytes.ofText tag).all isVisible = isShowable tag := by
  apply Bytes.all_ofText_of_class
  · intro c hAscii
    rw [Bool.eq_iff_iff, isVisible_iff, Bytes.toNat_toUInt8 hAscii]
    simp
  · intro c hHigh b hb
    rw [Bool.eq_iff_iff, isVisible_iff]
    simp
    omega

theorem ofText?_eq (tag : String) :
    ofText? tag = if isSendable tag then some ⟨Bytes.ofText tag, false⟩ else none := by
  unfold ofText? ofBytes?
  rw [all_isAllowed]

theorem text?_ofText (tag : String) (sensitive : Bool) :
    text? ⟨Bytes.ofText tag, sensitive⟩ = if isShowable tag then some tag else none := by
  unfold text?
  rw [all_isVisible, Bytes.text?_ofText]

end Http.HeaderValue

/-- What a service in memory shows of the condition of an update that was sent. -/
def Entity.shownCondition (e : Entity) : Option String := e.ifMatch.filter isShowable

def Entity.withoutCondition (e : Entity) : Entity := { e with matchesEtag := false }

theorem ReceivedRequest.ifMatch_ofDelta {e : Entity} (h : ∀ tag ∈ e.ifMatch, isSendable tag = true)
    (delta : Object) : (ofDelta e delta).ifMatch = e.shownCondition := by
  unfold ofDelta Entity.shownCondition
  cases hTag : e.ifMatch with
  | none => rfl
  | some tag =>
    rw [Option.bind_some, HeaderValue.ofText?_eq, if_pos (h tag hTag), Option.bind_some,
      HeaderValue.text?_ofText, Option.filter_some]

theorem Entity.condition_of_not_sendable {e : Entity} {tag : String} (hTag : e.ifMatch = some tag)
    (h : isSendable tag = false) : e.condition = .error (.validation
      ("Invalid ETag " ++ Quoted.quote tag ++ ": failed to parse header value")) := by
  unfold Entity.condition
  rw [hTag]
  dsimp only
  rw [HeaderValue.ofText?_eq, h, if_neg Bool.false_ne_true]

section

variable {t : WritableType} {live : t.Carrier} {delta : Object}

theorem pendingChanges_withoutCondition (live : t.Carrier) :
    pendingChanges (Resource.withEntity (Resource.entity live).withoutCondition live) =
      pendingChanges live := by
  have hDiff (baseline : t.Carrier) :
      difference baseline (Resource.withEntity (Resource.entity live).withoutCondition live) =
        difference baseline live :=
    t.difference_congr baseline fun _ _ m hm _ => LawfulUpdatable.get_withEntity m hm _ live
  rw [pendingChanges_run, pendingChanges_run, LawfulUpdatable.entity_withEntity]
  simp only [hDiff]
  rfl

theorem update_of_sendable (hAttached : (Resource.entity live).isAttached = true)
    (hPending : pendingChanges live = .ok delta) (hChanged : delta ≠ [])
    (hSendable : ∀ tag ∈ (Resource.entity live).ifMatch, isSendable tag = true)
    (service : MemoryService) :
    let e := Resource.entity live
    let request : ReceivedRequest :=
      ⟨.patch, e.odataId, (Value.object delta).render, e.shownCondition⟩
    (update live : Call MemoryService Unit) service = ((service.answer request).map fun _ => (),
      { service with received := service.received ++ [request] }) := by
  intro e request
  have hLegal : ∀ tag, e.ifMatch = some tag → (HeaderValue.ofText? tag).isSome = true := by
    intro tag hTag
    rw [HeaderValue.ofText?_eq, if_pos (hSendable tag hTag)]
    rfl
  have hRequest : ReceivedRequest.ofDelta e delta = request := by
    change ReceivedRequest.mk _ _ _ (ReceivedRequest.ofDelta e delta).ifMatch = request
    rw [ReceivedRequest.ifMatch_ofDelta hSendable]
  rw [update_of_legal hAttached hPending hChanged hLegal, hRequest]

theorem update_withoutCondition (hAttached : (Resource.entity live).isAttached = true)
    (hPending : pendingChanges live = .ok delta) (hChanged : delta ≠ []) (service : MemoryService) :
    let e := Resource.entity live
    let request : ReceivedRequest := ⟨.patch, e.odataId, (Value.object delta).render, none⟩
    (update (Resource.withEntity e.withoutCondition live) : Call MemoryService Unit) service =
      ((service.answer request).map fun _ => (),
        { service with received := service.received ++ [request] }) := by
  intro e request
  have hSame := (pendingChanges_withoutCondition live).trans hPending
  have hEntity : Resource.entity (Resource.withEntity e.withoutCondition live) = e.withoutCondition :=
    LawfulUpdatable.entity_withEntity _ _
  have hClient : (Resource.entity (Resource.withEntity e.withoutCondition live)).isAttached = true := by
    rw [hEntity]
    exact hAttached
  rw [update_of_sendable hClient hSame hChanged (by rw [hEntity]; nofun), hEntity]
  rfl

theorem update_of_sendable_tag (hAttached : (Resource.entity live).isAttached = true)
    (hPending : pendingChanges live = .ok delta) (hChanged : delta ≠ []) {tag : String} (hTag : (Resource.entity live).ifMatch = some tag) (hSendable : isSendable tag = true)
    (service : MemoryService) :
    let request : ReceivedRequest := ⟨.patch, (Resource.entity live).odataId,
      (Value.object delta).render, if isShowable tag then some tag else none⟩
    (update live : Call MemoryService Unit) service = ((service.answer request).map fun _ => (),
      { service with received := service.received ++ [request] }) := by
  intro request
  have hAll : ∀ tag' ∈ (Resource.entity live).ifMatch, isSendable tag' = true := by
    rw [hTag]
    rintro _ ⟨⟩
    exact hSendable
  have hShown : (Resource.entity live).shownCondition = if isShowable tag then some tag else none := by
    unfold Entity.shownCondition
    rw [hTag, Option.filter_some]
  rw [update_of_sendable hAttached hPending hChanged hAll, hShown]

/-- A conditional update is received like the one without a condition exactly if its tag is sent and not
shown. -/
theorem received_alike_iff (hAttached : (Resource.entity live).isAttached = true)
    (hPending : pendingChanges live = .ok delta) (hChanged : delta ≠ []) {tag : String} (hTag : (Resource.entity live).ifMatch = some tag) (service : MemoryService) :
    let unconditional := Resource.withEntity (Resource.entity live).withoutCondition live
    ((update live : Call MemoryService Unit) service).2.received =
        ((update unconditional : Call MemoryService Unit) service).2.received ↔
      isSendable tag = true ∧ isShowable tag = false := by
  intro unconditional
  rw [update_withoutCondition hAttached hPending hChanged]
  cases hSendable : isSendable tag with
  | false =>
    rw [update_of_changed hAttached hPending hChanged, Entity.condition_of_not_sendable hTag hSendable]
    refine iff_of_false ?_ nofun
    exact fun hSame => List.cons_ne_nil _ _ (List.self_eq_append_right.mp hSame)
  | true =>
    rw [update_of_sendable_tag hAttached hPending hChanged hTag hSendable]
    cases isShowable tag with
    | false => exact iff_of_true rfl ⟨rfl, rfl⟩
    | true =>
      refine iff_of_false ?_ nofun
      intro hSame
      have hRequest := List.singleton_inj.mp (List.append_cancel_left hSame)
      cases congrArg ReceivedRequest.ifMatch hRequest

/-- An update that is not conditional is shown without a condition. A conditional one is refused and not
received, or received and shown with its tag if that is within ASCII. Beyond ASCII the tag is sent and not
shown: there, and only there, the service shows the same as for the update without a condition. -/
theorem service_shows_tags_within_ascii (hAttached : (Resource.entity live).isAttached = true)
    (hPending : pendingChanges live = .ok delta) (hChanged : delta ≠ []) (service : MemoryService) :
    let e := Resource.entity live
    let request (ifMatch : Option String) : ReceivedRequest :=
      ⟨.patch, e.odataId, (Value.object delta).render, ifMatch⟩
    let sent (ifMatch : Option String) : Except Error Unit × MemoryService :=
      ((service.answer (request ifMatch)).map fun _ => (),
        { service with received := service.received ++ [request ifMatch] })
    let unconditional := Resource.withEntity e.withoutCondition live
    (e.ifMatch = none → (update live : Call MemoryService Unit) service = sent none) ∧
    ∀ tag, e.ifMatch = some tag →
      (isSendable tag = false → (update live : Call MemoryService Unit) service =
        (.error (.validation
          ("Invalid ETag " ++ Quoted.quote tag ++ ": failed to parse header value")), service)) ∧
      (isSendable tag = true → (update live : Call MemoryService Unit) service =
        sent (if isShowable tag then some tag else none)) ∧
      (((update live : Call MemoryService Unit) service).2.received =
          ((update unconditional : Call MemoryService Unit) service).2.received ↔
        isSendable tag = true ∧ isShowable tag = false) := by
  intro e request sent unconditional
  refine ⟨?_, fun tag hTag => ⟨?_, ?_, received_alike_iff hAttached hPending hChanged hTag service⟩⟩
  · intro hNone
    have hShown : e.shownCondition = none := congrArg (Option.filter isShowable) hNone
    rw [update_of_sendable hAttached hPending hChanged (by rw [hNone]; nofun), hShown]
  · intro hSendable
    rw [update_of_changed hAttached hPending hChanged, Entity.condition_of_not_sendable hTag hSendable]
  · exact fun hSendable => update_of_sendable_tag hAttached hPending hChanged hTag hSendable service

end

theorem service_shows_tag_of_fetch :
    let document := Bytes.ofText
      "\x7b\"@odata.id\":\"/p\",\"@odata.etag\":\"v1\",\"UserLabel\":\"b\"\x7d"
    ∃ (fetched : PowerDistribution) (service : MemoryService),
      (getObject "/p" : Call MemoryService PowerDistribution) (.insert "/p" document .empty) =
        (.ok fetched, service) ∧
      let live := { fetched with userLabel := some "c" }
      ((update live : Call MemoryService Unit) service).2.received = service.received ++
        [⟨.patch, "/p", (Value.object [("UserLabel", .text "c")]).render, some "v1"⟩] := by
  intro document
  refine ⟨_, _, rfl, ?_⟩
  intro live
  have hPending : pendingChanges live = .ok [("UserLabel", .text "c")] := rfl
  obtain ⟨_, hTagged⟩ := service_shows_tags_within_ascii (t := .powerDistribution) rfl hPending
    (List.cons_ne_nil _ _) ⟨[("/p", document)], [], [⟨.get, "/p", [], none⟩]⟩
  obtain ⟨_, hSent, _⟩ := hTagged "v1" rfl
  exact congrArg (fun run => run.2.received) (hSent rfl)

/-- A tag beyond ASCII is sent, and what is shown is that of an update without a condition. -/
theorem service_hides_tag_beyond_ascii :
    let document := Bytes.ofText
      "\x7b\"@odata.id\":\"/p\",\"@odata.etag\":\"é\",\"UserLabel\":\"b\"\x7d"
    ∃ (fetched : PowerDistribution) (service : MemoryService),
      (getObject "/p" : Call MemoryService PowerDistribution) (.insert "/p" document .empty) =
        (.ok fetched, service) ∧
      let live := { fetched with userLabel := some "c" }
      let unconditional := { live with entity := { live.entity with matchesEtag := false } }
      live.entity.ifMatch = some "é" ∧ unconditional.entity.ifMatch = none ∧
      (update live : Call MemoryService Unit) service =
        (update unconditional : Call MemoryService Unit) service ∧
      (update live : Call MemoryService Unit) service = (.ok (), { service with
        received := service.received ++
          [⟨.patch, "/p", (Value.object [("UserLabel", .text "c")]).render, none⟩] }) := by
  intro document
  exact ⟨_, _, rfl, rfl, rfl, rfl, rfl⟩

end Redfish
