import Redfish.Proofs.Update.Condition

/-!
# Clients that share a service

Any number of clients fetch, edit and update documents of one service, and messages may be late, lost or
delivered twice. The service gives every version a new tag and refuses an update whose condition names
another version than the current one. Then whatever it accepts was computed from the current version.
-/

namespace Redfish

open Json

/-- A PATCH on its way, with the resource that it was computed from and the slot that held it. -/
structure Patch where
  slot : Nat
  sender : Held
  request : ReceivedRequest

/-- The documents of the service, the resources that clients hold in their slots, and the messages
between them. A message that was sent once stays on its way. -/
structure SharedService (δ : Type) where
  current : δ → Option Version
  /-- Every version that there was so far. -/
  issued : List Version
  /-- URIs that were asked for, with the bytes that were found there. -/
  answers : List (String × Bytes)
  held : Nat → Option Held
  patches : List Patch

namespace SharedService

inductive Event (δ : Type)
  | install (document : δ) (version : Version)
  | withdraw (document : δ)
  | answer (uri : String)
  | receive (slot : Nat) (type : WritableType) (uri : String) (response : Response)
  | edit (slot : Nat) (change : (type : WritableType) → type.Carrier → type.Carrier)
  | copy (source target : Nat)
  | send (patch : Patch)
  | accept (patch : Patch) (version : Version)

def Event.StoresInto (slot : Nat) : Event δ → Prop
  | .receive s _ _ _ => s = slot
  | .copy _ target => target = slot
  | _ => False

def start : SharedService δ := ⟨fun _ => none, [], [], fun _ => none, []⟩

/-- The version carries a tag that no version had before. -/
def Fresh (s : SharedService δ) (v : Version) : Prop := v.IsTagged ∧ ∀ w ∈ s.issued, w.tag ≠ v.tag

section

variable [DecidableEq δ] (locate : String → δ)

/-- The document is there, and the condition of the request, if it has one, names its version. -/
def Accepts (s : SharedService δ) (request : ReceivedRequest) : Prop :=
  ∃ w, s.current (locate request.uri) = some w ∧ ∀ tag, request.ifMatch = some tag → tag = w.tag

def install (document : δ) (v : Version) (s : SharedService δ) : SharedService δ :=
  { s with
    current := fun d => if d = document then some v else s.current d
    issued := v :: s.issued }

def store (slot : Nat) (r : Option Held) (s : SharedService δ) : SharedService δ :=
  { s with held := fun i => if i = slot then r else s.held i }

def Enabled (s : SharedService δ) : Event δ → Prop
  | .install _ v => s.Fresh v
  | .receive _ _ uri response => (uri, response.body) ∈ s.answers
  | .send p => s.held p.slot = some p.sender ∧ p.request ∈ requestsOf p.sender.value
  | .accept p v => p ∈ s.patches ∧ s.Accepts locate p.request ∧ s.Fresh v
  | .withdraw _ | .answer _ | .edit _ _ | .copy _ _ => True

def next (s : SharedService δ) : Event δ → SharedService δ
  | .install document v => s.install document v
  | .withdraw document => { s with current := fun d => if d = document then none else s.current d }
  | .answer uri => match s.current (locate uri) with
    | some w => { s with answers := (uri, w.body) :: s.answers }
    | none => s
  | .receive slot type uri response => match (response.read uri : Except Error type.Carrier) with
    | .ok a => s.store slot (some ⟨type, a⟩)
    | .error _ => s
  | .edit slot change => s.store slot <| (s.held slot).map fun r =>
    ⟨r.type, Resource.withEntity (Resource.entity r.value) (change r.type r.value)⟩
  | .copy source target => s.store target (s.held source)
  | .send p => { s with patches := p :: s.patches }
  | .accept p v => s.install (locate p.request.uri) v

def run (s : SharedService δ) (events : List (Event δ)) : SharedService δ :=
  events.foldl (next locate) s

/-- Each of the events can happen when its turn comes. -/
def Possible (s : SharedService δ) : List (Event δ) → Prop
  | [] => True
  | e :: events => s.Enabled locate e ∧ (s.next locate e).Possible events

end

/-- Each version has its own tag, and what clients hold and send comes from versions that there were. -/
structure Sound (s : SharedService δ) : Prop where
  tagged : ∀ v ∈ s.issued, v.IsTagged
  distinct : ∀ v ∈ s.issued, ∀ w ∈ s.issued, v.tag = w.tag → v = w
  current_issued : ∀ d v, s.current d = some v → v ∈ s.issued
  current_unique : ∀ d d' v, s.current d = some v → s.current d' = some v → d = d'
  answers_issued : ∀ x ∈ s.answers, ∃ v ∈ s.issued, v.body = x.2
  held_read : ∀ slot r, s.held slot = some r → ∃ v ∈ s.issued, r.IsOf v
  patches_computed : ∀ p ∈ s.patches, ∃ v ∈ s.issued, p.sender.IsOf v ∧
    p.request ∈ requestsOf p.sender.value

theorem sound_start : (start : SharedService δ).Sound where
  tagged := List.forall_mem_nil _
  distinct := List.forall_mem_nil _
  current_issued _ _ h := by cases h
  current_unique _ _ _ h := by cases h
  answers_issued := List.forall_mem_nil _
  held_read _ _ h := by cases h
  patches_computed := List.forall_mem_nil _

theorem Sound.store {s : SharedService δ} (h : s.Sound) {slot : Nat} {r : Option Held}
    (hRead : ∀ a, r = some a → ∃ v ∈ s.issued, a.IsOf v) : (s.store slot r).Sound where
  tagged := h.tagged
  distinct := h.distinct
  current_issued := h.current_issued
  current_unique := h.current_unique
  answers_issued := h.answers_issued
  held_read i a ha := by
    change (if i = slot then r else s.held i) = some a at ha
    split at ha
    · exact hRead a ha
    · exact h.held_read i a ha
  patches_computed := h.patches_computed

section

variable {locate : String → δ} {s : SharedService δ} {v : Version}

/-- A condition that names a version is met only where this version is current. -/
theorem Sound.current_of_accepts (h : s.Sound) (hIssued : v ∈ s.issued)
    {request : ReceivedRequest} (hTag : request.ifMatch = some v.tag)
    (hAccepts : s.Accepts locate request) : s.current (locate request.uri) = some v := by
  obtain ⟨w, hCurrent, hCondition⟩ := hAccepts
  rw [h.distinct v hIssued w (h.current_issued _ w hCurrent) (hCondition v.tag hTag)]
  exact hCurrent

/-- What is accepted was computed from the version that is current when it is accepted. -/
theorem Sound.accepted (h : s.Sound) {p : Patch} {w : Version}
    (hEnabled : s.Enabled locate (.accept p w)) :
    ∃ v baseline, s.current (locate p.request.uri) = some v ∧
      Resource.ofBytes v.body = .ok baseline ∧
      p.request = .ofDelta (Resource.entity p.sender.value) (difference baseline p.sender.value) := by
  obtain ⟨hSent, hAccepts, _⟩ := hEnabled
  obtain ⟨v, hIssued, hIsOf, hRequest⟩ := h.patches_computed p hSent
  obtain ⟨hTag, baseline, hRead, hEq⟩ := hIsOf.request (h.tagged v hIssued) hRequest
  exact ⟨v, baseline, h.current_of_accepts hIssued hTag hAccepts, hRead, hEq⟩

def Superseded (s : SharedService δ) (v : Version) : Prop :=
  v ∈ s.issued ∧ ∀ d, s.current d ≠ some v

def Holds (s : SharedService δ) (slot : Nat) (v : Version) : Prop :=
  ∃ r, s.held slot = some r ∧ r.IsOf v

theorem Sound.issued_of_holds (h : s.Sound) {slot : Nat} (hHolds : s.Holds slot v) :
    v ∈ s.issued := by
  obtain ⟨r, hr, hIsOf⟩ := hHolds
  obtain ⟨w, hIssued, hIsOf'⟩ := h.held_read slot r hr
  exact hIsOf.unique hIsOf' ▸ hIssued

theorem Holds.request {p : Patch} (h : s.Holds p.slot v) (hSound : s.Sound)
    (hEnabled : s.Enabled locate (.send p)) : p.request.ifMatch = some v.tag := by
  have hTagged := hSound.tagged v (hSound.issued_of_holds h)
  obtain ⟨r, hr, hIsOf⟩ := h
  obtain ⟨hHeld, hRequest⟩ := hEnabled
  obtain rfl := Option.some.inj (hr.symm.trans hHeld)
  exact (hIsOf.request hTagged hRequest).1

end

section

variable [DecidableEq δ] {locate : String → δ} {s : SharedService δ} {v : Version}

theorem Sound.install (h : s.Sound) {document : δ} {v : Version} (hFresh : s.Fresh v) :
    (s.install document v).Sound := by
  obtain ⟨hTagged, hNew⟩ := hFresh
  have hCurrent : ∀ d w, (s.install document v).current d = some w →
      (d = document ∧ w = v) ∨ s.current d = some w := by
    intro d w hw
    change (if d = document then some v else s.current d) = some w at hw
    split at hw
    · rename_i hd
      exact .inl ⟨hd, (Option.some.inj hw).symm⟩
    · exact .inr hw
  have hOld : ∀ d, s.current d ≠ some v := by
    intro d hd
    exact hNew v (h.current_issued d v hd) rfl
  refine ⟨?_, ?_, ?_, ?_, ?_, ?_, ?_⟩
  · exact List.forall_mem_cons.mpr ⟨hTagged, h.tagged⟩
  · intro w hw w' hw' hTag
    rcases List.mem_cons.mp hw with rfl | hIssued
    · rcases List.mem_cons.mp hw' with rfl | hIssued'
      · rfl
      · exact absurd hTag.symm (hNew w' hIssued')
    · rcases List.mem_cons.mp hw' with rfl | hIssued'
      · exact absurd hTag (hNew w hIssued)
      · exact h.distinct w hIssued w' hIssued' hTag
  · intro d w hw
    rcases hCurrent d w hw with ⟨_, rfl⟩ | hw
    · exact List.mem_cons_self
    · exact List.mem_cons_of_mem _ (h.current_issued d w hw)
  · intro d d' w hw hw'
    rcases hCurrent d w hw with ⟨hd, hNewest⟩ | hBefore
    · rcases hCurrent d' w hw' with ⟨hd', _⟩ | hBefore'
      · rw [hd, hd']
      · exact absurd (hNewest ▸ hBefore') (hOld d')
    · rcases hCurrent d' w hw' with ⟨_, hNewest⟩ | hBefore'
      · exact absurd (hNewest ▸ hBefore) (hOld d)
      · exact h.current_unique d d' w hBefore hBefore'
  · intro x hx
    obtain ⟨w, hw, hBody⟩ := h.answers_issued x hx
    exact ⟨w, List.mem_cons_of_mem _ hw, hBody⟩
  · intro slot r hr
    obtain ⟨w, hw, hIsOf⟩ := h.held_read slot r hr
    exact ⟨w, List.mem_cons_of_mem _ hw, hIsOf⟩
  · intro p hp
    obtain ⟨w, hw, hComputed⟩ := h.patches_computed p hp
    exact ⟨w, List.mem_cons_of_mem _ hw, hComputed⟩

theorem Sound.next (h : s.Sound) {e : Event δ} (hEnabled : s.Enabled locate e) :
    (s.next locate e).Sound := by
  cases e with
  | install document v => exact h.install hEnabled
  | withdraw document =>
    have hCurrent : ∀ d w, (if d = document then none else s.current d) = some w →
        s.current d = some w := by
      intro d w hw
      split at hw
      · cases hw
      · exact hw
    exact { h with
      current_issued := fun d w hw => h.current_issued d w (hCurrent d w hw)
      current_unique := fun d d' w hw hw' =>
        h.current_unique d d' w (hCurrent d w hw) (hCurrent d' w hw') }
  | answer uri =>
    cases hFound : s.current (locate uri) with
    | none =>
      simp only [SharedService.next, hFound]
      exact h
    | some w =>
      simp only [SharedService.next, hFound]
      exact { h with
        answers_issued := List.forall_mem_cons.mpr
          ⟨⟨w, h.current_issued _ w hFound, rfl⟩, h.answers_issued⟩ }
  | receive slot type uri response =>
    obtain ⟨v, hv, hBody⟩ := h.answers_issued _ hEnabled
    cases hRead : (response.read uri : Except Error type.Carrier) with
    | error e =>
      simp only [SharedService.next, hRead]
      exact h
    | ok a =>
      simp only [SharedService.next, hRead]
      refine h.store ?_
      rintro _ ⟨⟩
      exact ⟨v, hv, Held.isOf_of_read (h.tagged v hv) hBody.symm hRead⟩
  | edit slot change =>
    refine h.store ?_
    intro a ha
    obtain ⟨r, hr, rfl⟩ := Option.map_eq_some_iff.mp ha
    obtain ⟨v, hv, hIsOf⟩ := h.held_read slot r hr
    exact ⟨v, hv, hIsOf.edited (LawfulUpdatable.entity_withEntity _ _)⟩
  | copy source target => exact h.store fun a ha => h.held_read source a ha
  | send p =>
    obtain ⟨hHeld, hRequest⟩ := hEnabled
    obtain ⟨v, hv, hIsOf⟩ := h.held_read p.slot p.sender hHeld
    exact { h with
      patches_computed := List.forall_mem_cons.mpr
        ⟨⟨v, hv, hIsOf, hRequest⟩, h.patches_computed⟩ }
  | accept p v => exact h.install hEnabled.2.2

theorem Sound.run (h : s.Sound) {events : List (Event δ)} (hPossible : s.Possible locate events) :
    (s.run locate events).Sound := by
  induction events generalizing s with
  | nil => exact h
  | cons e events ih => exact ih (h.next hPossible.1) hPossible.2

theorem possible_append {before after : List (Event δ)} :
    s.Possible locate (before ++ after) ↔
      s.Possible locate before ∧ (s.run locate before).Possible locate after := by
  induction before generalizing s with
  | nil => exact ⟨fun h => ⟨trivial, h⟩, And.right⟩
  | cons e before ih => exact (and_congr_right fun _ => ih).trans and_assoc.symm

theorem Superseded.install (h : s.Superseded v) {document : δ} {w : Version} (hFresh : s.Fresh w) :
    (s.install document w).Superseded v := by
  refine ⟨List.mem_cons_of_mem _ h.1, ?_⟩
  intro d hd
  change (if d = document then some w else s.current d) = some v at hd
  split at hd
  · exact hFresh.2 v h.1 (congrArg Version.tag (Option.some.inj hd).symm)
  · exact h.2 d hd

theorem Superseded.next (h : s.Superseded v) {e : Event δ} (hEnabled : s.Enabled locate e) :
    (s.next locate e).Superseded v := by
  cases e with
  | install document w => exact h.install hEnabled
  | withdraw document =>
    refine ⟨h.1, ?_⟩
    intro d hd
    change (if d = document then none else s.current d) = some v at hd
    split at hd
    · cases hd
    · exact h.2 d hd
  | answer uri | receive slot type uri response =>
    simp only [SharedService.next]
    split <;> exact h
  | edit slot change | copy source target | send p => exact h
  | accept p w => exact h.install hEnabled.2.2

theorem Superseded.run (h : s.Superseded v) {events : List (Event δ)}
    (hPossible : s.Possible locate events) : (s.run locate events).Superseded v := by
  induction events generalizing s with
  | nil => exact h
  | cons e events ih => exact ih (h.next hPossible.1) hPossible.2

theorem superseded_of_accept (h : s.Sound) (hIssued : v ∈ s.issued) {p : Patch} {w : Version}
    (hTag : p.request.ifMatch = some v.tag) (hEnabled : s.Enabled locate (.accept p w)) :
    (s.next locate (.accept p w)).Superseded v := by
  obtain ⟨_, hAccepts, hFresh⟩ := hEnabled
  have hCurrent := h.current_of_accepts hIssued hTag hAccepts
  refine ⟨List.mem_cons_of_mem _ hIssued, ?_⟩
  intro d hd
  change (if d = locate p.request.uri then some w else s.current d) = some v at hd
  split at hd
  · exact hFresh.2 v hIssued (congrArg Version.tag (Option.some.inj hd).symm)
  · rename_i hOther
    exact hOther (h.current_unique d _ v hd hCurrent)

theorem Holds.next {slot : Nat} (h : s.Holds slot v) {e : Event δ} (hKept : ¬e.StoresInto slot) :
    (s.next locate e).Holds slot v := by
  obtain ⟨r, hr, hIsOf⟩ := h
  cases e with
  | install | withdraw | send | accept => exact ⟨r, hr, hIsOf⟩
  | answer uri =>
    simp only [SharedService.next]
    split <;> exact ⟨r, hr, hIsOf⟩
  | receive other type uri response =>
    simp only [SharedService.next]
    split
    · exact ⟨r, (if_neg (Ne.symm hKept)).trans hr, hIsOf⟩
    · exact ⟨r, hr, hIsOf⟩
  | edit other change =>
    by_cases hSlot : slot = other
    · subst hSlot
      refine ⟨_, (if_pos rfl).trans (by rw [hr]; rfl), ?_⟩
      exact hIsOf.edited (LawfulUpdatable.entity_withEntity _ _)
    · exact ⟨r, (if_neg hSlot).trans hr, hIsOf⟩
  | copy source target => exact ⟨r, (if_neg (Ne.symm hKept)).trans hr, hIsOf⟩

theorem Holds.run {slot : Nat} {events : List (Event δ)} (h : s.Holds slot v)
    (hKept : ∀ e ∈ events, ¬e.StoresInto slot) : (s.run locate events).Holds slot v := by
  induction events generalizing s with
  | nil => exact h
  | cons e events ih =>
    obtain ⟨hFirst, hRest⟩ := List.forall_mem_cons.mp hKept
    exact ih (h.next hFirst) hRest

theorem run_append (before after : List (Event δ)) :
    s.run locate (before ++ after) = (s.run locate before).run locate after := List.foldl_append ..

theorem Sound.refused_after_accepted (h : s.Sound) {between after : List (Event δ)} {p q : Patch}
    {w : Version} (hPossible : s.Possible locate (.send p :: (between ++ .send q :: after)))
    (hKept : ∀ e ∈ between, ¬e.StoresInto p.slot) (hAccepted : .accept p w ∈ between)
    (hSlot : q.slot = p.slot) :
    ¬(s.run locate (.send p :: (between ++ .send q :: after))).Accepts locate q.request := by
  obtain ⟨hSend, hRest⟩ := hPossible
  obtain ⟨v, _, hIsOf⟩ := h.held_read _ _ hSend.1
  have hHolds : s.Holds p.slot v := ⟨_, hSend.1, hIsOf⟩
  have hTag := hHolds.request h hSend
  have hSent : (s.next locate (.send p)).Sound := h.next hSend
  have hHeld : (s.next locate (.send p)).Holds p.slot v := hHolds.next id
  change ¬((s.next locate (.send p)).run locate _).Accepts locate q.request
  generalize s.next locate (.send p) = s at *
  obtain ⟨early, late, rfl⟩ := List.append_of_mem hAccepted
  obtain ⟨hBetween, hSendAgain, hAfter⟩ := possible_append.mp hRest
  obtain ⟨hEarly, hAccept, hLate⟩ := possible_append.mp hBetween
  -- the version is superseded by the acceptance, and stays so
  have hKeptEarly : ∀ e ∈ early, ¬e.StoresInto p.slot := fun e he =>
    hKept e (List.mem_append_left _ he)
  have hIssued := (hSent.run hEarly).issued_of_holds (hHeld.run hKeptEarly)
  have hSuperseded := (superseded_of_accept (hSent.run hEarly) hIssued hTag hAccept).run hLate
  change ((s.run locate early).run locate (.accept p w :: late)).Superseded v at hSuperseded
  rw [← run_append] at hSuperseded
  have hFinal := (hSuperseded.next hSendAgain).run hAfter
  have hSound := ((hSent.run hBetween).next hSendAgain).run hAfter
  -- but the second update still has its tag for a condition
  have hTagAgain : q.request.ifMatch = some v.tag :=
    (hSlot ▸ hHeld.run hKept).request (hSent.run hBetween) hSendAgain
  intro hAccepts
  rw [run_append] at hAccepts
  exact hFinal.2 _ (hSound.current_of_accepts hFinal.1 hTagAgain hAccepts)

end

/-- In every run, what the service accepts is the delta of the version that is current at that moment and
the resource as it was when the update was sent. A second update without another fetch is refused for
good once the first was accepted. -/
theorem accepted_patch_is_delta_of_current [DecidableEq δ] (locate : String → δ)
    {events : List (Event δ)} (hPossible : start.Possible locate events) :
    (∀ before p w after, events = before ++ .accept p w :: after →
      ∃ v baseline delta, (start.run locate before).current (locate p.request.uri) = some v ∧
        Resource.ofBytes v.body = .ok baseline ∧ diff baseline p.sender.value = .ok delta ∧
        p.request.method = .patch ∧ p.request.body = (Value.object delta).render) ∧
    ∀ before p between q after w, events = before ++ .send p :: (between ++ .send q :: after) →
      (∀ e ∈ between, ¬e.StoresInto p.slot) → .accept p w ∈ between → q.slot = p.slot →
      ¬(start.run locate events).Accepts locate q.request := by
  constructor
  · rintro before p w after rfl
    obtain ⟨hBefore, hAccept, _⟩ := possible_append.mp hPossible
    obtain ⟨v, baseline, hCurrent, hRead, hRequest⟩ := (sound_start.run hBefore).accepted hAccept
    exact ⟨v, baseline, _, hCurrent, hRead, diff_eq _ _, hRequest ▸ rfl, hRequest ▸ rfl⟩
  · rintro before p between q after w rfl hKept hAccepted hSlot
    obtain ⟨hBefore, hRest⟩ := possible_append.mp hPossible
    rw [run_append]
    exact (sound_start.run hBefore).refused_after_accepted hRest hKept hAccepted hSlot

/-- A label is set and sent twice, and only the first PATCH is accepted. -/
theorem second_label_is_refused :
    let first : Version :=
      ⟨Bytes.ofText "\x7b\"@odata.id\":\"/p\",\"@odata.etag\":\"1\",\"UserLabel\":\"a\"\x7d", "1"⟩
    let second : Version :=
      ⟨Bytes.ofText "\x7b\"@odata.etag\":\"2\",\"UserLabel\":\"b\"\x7d", "2"⟩
    let sent : PowerDistribution := { (Record.blank : PowerDistribution) with
      entity := ⟨"/p", none, some "1", "", "", none, true, first.body, true⟩
      userLabel := some "b" }
    let p : Patch := ⟨0, ⟨.powerDistribution, sent⟩,
      ⟨.patch, "/p", Bytes.ofText "\x7b\"UserLabel\":\"b\"\x7d", some "1"⟩⟩
    let events : List (Event String) := [.install "/p" first, .answer "/p",
      .receive 0 .powerDistribution "/p" (.plain .ok first.body),
      .edit 0 fun
        | .powerDistribution => fun a => { a with userLabel := some "b" }
        | .chassis | .computerSystem | .manager | .circuit | .outlet => id,
      .send p, .accept p second, .send p]
    start.Possible id events ∧ ¬(start.run id events).Accepts id p.request := by
  intro first second sent p events
  have hFirst : first.IsTagged := ⟨rfl, _, _, _, _, rfl, rfl, rfl⟩
  have hSecond : second.IsTagged := ⟨rfl, _, _, _, _, rfl, rfl, rfl⟩
  have hSend : ∀ s : SharedService String, s.held 0 = some p.sender → s.Enabled id (.send p) :=
    fun s hHeld => ⟨hHeld, (rfl : requestsOf sent = [p.request]) ▸ List.mem_cons_self⟩
  have hPossible : start.Possible id events := by
    refine ⟨⟨hFirst, List.forall_mem_nil _⟩, trivial, List.mem_cons_self, trivial, hSend _ rfl,
      ⟨List.mem_cons_self, ⟨first, rfl, ?_⟩, hSecond, ?_⟩, hSend _ rfl, trivial⟩
    · rintro _ ⟨⟩
      rfl
    · exact List.forall_mem_singleton.mpr (by decide)
  refine ⟨hPossible, ?_⟩
  exact (accepted_patch_is_delta_of_current id hPossible).2 (events.take 4) p [.accept p second] p []
    second rfl (List.forall_mem_singleton.mpr id) List.mem_cons_self rfl

end SharedService

end Redfish
