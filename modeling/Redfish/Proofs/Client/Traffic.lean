import Mathlib.Data.List.Count
import Redfish.Proofs.Client.Exchanges

/-!
# Many requests at once

Copies of a client share one journal. A call enters itself step by step, and between any two steps of one
call others may take theirs: its header fields are noted, its request leaves, its end is counted, first
among all calls and then among those of its kind, and its outcome is written. Whatever the order, the
counters are the numbers of calls that came so far, and each call has written its own lines and no
others. Requests that are made one after the other are one such order.
-/

namespace Redfish

open Http

def Line.entered (level : Level) (span : Span) (note : Note) : List Line :=
  if level = .off then [] else [⟨level, span.method, span.target, note⟩]

namespace Journal

def countEnd (j : Journal) : Journal :=
  { j with counters := { j.counters with total := j.counters.total + 1 } }

def countOutcome (success : Bool) (j : Journal) : Journal :=
  { j with
    counters :=
      if success then { j.counters with successful := j.counters.successful + 1 }
      else { j.counters with failed := j.counters.failed + 1 } }

theorem write_eq (level : Level) (span : Span) (note : Note) (j : Journal) :
    j.write level span note = { j with lines := j.lines ++ Line.entered level span note } := by
  unfold write Line.entered
  split
  · rw [List.append_nil]
  · rfl

end Journal

namespace JournalSettings

def headerLines (s : JournalSettings) (f : Client.Flight) : List Line :=
  if s.logHeaders then
    Line.entered s.successLevel f.span (.headers (s.showHeaders f.request.headers))
  else []

def outcomeLevel (s : JournalSettings) (success : Bool) : Level :=
  if success then s.successLevel else s.errorLevel

end JournalSettings

theorem Journal.noteHeaders_eq (f : Client.Flight) (j : Journal) :
    j.noteHeaders f.span f.request.headers =
      { j with lines := j.lines ++ j.settings.headerLines f } := by
  unfold noteHeaders JournalSettings.headerLines
  split
  · exact write_eq ..
  · rw [List.append_nil]

structure Answer where
  outcome : Client.Outcome
  elapsed : Duration
  deriving DecidableEq, Repr

namespace Client

variable (c : Client)

def succeeded (f : Flight) (answer : Answer) : Bool := (c.verdict f answer.outcome answer.elapsed).isOk

def outcomeNote (answer : Answer) : Note :=
  let waited : Duration := ⟨min answer.elapsed.nanos c.settings.timeout.nanos⟩
  match c.result answer.outcome answer.elapsed with
  | .error error => .failed waited error.message
  | .ok response =>
    if response.status.isSuccess then .answered response.status.code waited
    else .failed waited response.status.text

def outcomeLines (f : Flight) (answer : Answer) : List Line :=
  Line.entered (c.settings.logging.outcomeLevel (c.succeeded f answer)) f.span (c.outcomeNote answer)

theorem conclude_snd (f : Flight) (answer : Answer) (j : Journal) :
    (c.conclude f answer.outcome answer.elapsed j).2 =
      (j.countEnd.countOutcome (c.succeeded f answer)).write
        (j.settings.outcomeLevel (c.succeeded f answer)) f.span (c.outcomeNote answer) := by
  unfold conclude succeeded verdict outcomeNote
  cases c.result answer.outcome answer.elapsed with
  | error error => rfl
  | ok response => cases hSuccess : response.status.isSuccess <;> simp [hSuccess] <;> rfl

end Client

/-- How far a call has come for which a request was made. -/
inductive Stage
  | noted
  | sent
  | counted (answer : Answer)
  | tallied (answer : Answer)
  | finished (answer : Answer)
  deriving DecidableEq, Repr

inductive Fate
  | refused (error : Error)
  | flying (f : Client.Flight) (stage : Stage)
  deriving DecidableEq, Repr

/-- The calls so far, in the order in which they were made. It is kept track of which call wrote which
line and sent which request. -/
structure Traffic where
  journal : Journal
  calls : List (Made × Fate)
  log : List (Nat × Line)
  sent : List (Nat × Request)
  deriving DecidableEq, Repr

namespace Traffic

def start (c : Client) : Traffic := ⟨.new c.settings.logging, [], [], []⟩

/-- The traffic after a call worked on the journal: the lines that it gained are the call's. -/
def enter (k : Nat) (journal : Journal) (t : Traffic) : Traffic :=
  { t with journal, log := t.log ++ (journal.lines.drop t.journal.lines.length).map (k, ·) }

def advance (k : Nat) (made : Made) (f : Client.Flight) (stage : Stage) (t : Traffic) : Traffic :=
  { t with calls := t.calls.set k (made, .flying f stage) }

/-- The steps that calls of the copies of a client take. -/
inductive Step (c : Client) : Traffic → Traffic → Prop
  | refuse {t : Traffic} {made : Made} {error : Error} (h : c.prepareMade made = .error error) :
      Step c t { t with calls := t.calls ++ [(made, .refused error)] }
  | note {t : Traffic} {made : Made} {f : Client.Flight} (h : c.prepareMade made = .ok f) :
      Step c t { t.enter t.calls.length (t.journal.noteHeaders f.span f.request.headers) with
        calls := t.calls ++ [(made, .flying f .noted)] }
  | send {t : Traffic} {k : Nat} {made : Made} {f : Client.Flight}
      (h : t.calls[k]? = some (made, .flying f .noted)) :
      Step c t { t.advance k made f .sent with sent := t.sent ++ [(k, f.request)] }
  | count {t : Traffic} {k : Nat} {made : Made} {f : Client.Flight}
      (h : t.calls[k]? = some (made, .flying f .sent)) (answer : Answer) :
      Step c t ((t.enter k t.journal.countEnd).advance k made f (.counted answer))
  | tally {t : Traffic} {k : Nat} {made : Made} {f : Client.Flight} {answer : Answer}
      (h : t.calls[k]? = some (made, .flying f (.counted answer))) :
      Step c t ((t.enter k (t.journal.countOutcome (c.succeeded f answer))).advance k made f
        (.tallied answer))
  | write {t : Traffic} {k : Nat} {made : Made} {f : Client.Flight} {answer : Answer}
      (h : t.calls[k]? = some (made, .flying f (.tallied answer))) :
      Step c t ((t.enter k (t.journal.write (t.journal.settings.outcomeLevel (c.succeeded f answer)) f.span
        (c.outcomeNote answer))).advance k made f (.finished answer))

/-- Any number of steps from the start, in any order. -/
inductive Run (c : Client) : Traffic → Prop
  | start : Run c (start c)
  | step {t t' : Traffic} (h : Run c t) (hStep : Step c t t') : Run c t'

end Traffic

namespace Fate

def prepared : Fate → Except Error Client.Flight
  | refused error => .error error
  | flying f _ => .ok f

def result? (c : Client) : Fate → Option (Except Error Response)
  | refused error => some (.error error)
  | flying f (.finished answer) => some (c.verdict f answer.outcome answer.elapsed)
  | flying _ _ => none

def requests : Fate → List Request
  | refused _ | flying _ .noted => []
  | flying f _ => [f.request]

def lines (c : Client) : Fate → List Line
  | refused _ => []
  | flying f (.finished answer) => c.settings.logging.headerLines f ++ c.outcomeLines f answer
  | flying f _ => c.settings.logging.headerLines f

def isCounted : Fate → Bool
  | flying _ (.counted _) | flying _ (.tallied _) | flying _ (.finished _) => true
  | _ => false

/-- Whether the call was counted among those that succeeded, or among those that failed. -/
def isTallied (c : Client) (success : Bool) : Fate → Bool
  | flying f (.tallied answer) | flying f (.finished answer) => c.succeeded f answer == success
  | _ => false

def isRecording : Fate → Bool
  | flying _ (.counted _) => true
  | _ => false

end Fate

/-- What a call has of a list in which each entry is some call's. -/
def entriesOf (k : Nat) (entries : List (Nat × β)) : List β := (entries.filter (·.1 == k)).map (·.2)

/-- Every call has just its own entries. -/
def Tracks (own : α → List β) (calls : List α) (entries : List (Nat × β)) : Prop :=
  ∀ k, entriesOf k entries = (calls[k]?.map own).getD []

theorem entriesOf_append (k j : Nat) (entries : List (Nat × β)) (new : List β) :
    entriesOf k (entries ++ new.map (j, ·)) =
      if j = k then entriesOf k entries ++ new else entriesOf k entries := by
  unfold entriesOf
  rw [List.filter_append, List.map_append]
  split
  · rename_i hCall
    subst hCall
    simp [List.filter_map, Function.comp_def]
  · rename_i hOther
    have hNone : (new.map fun b => (j, b)).filter (·.1 == k) = [] := by
      simp [List.filter_map, Function.comp_def, hOther]
    rw [hNone, List.map_nil, List.append_nil]

namespace Tracks

variable {own : α → List β} {calls : List α} {entries : List (Nat × β)} {a b : α} {k : Nat}

theorem concat (h : Tracks own calls entries) (b : α) :
    Tracks own (calls ++ [b]) (entries ++ (own b).map (calls.length, ·)) := by
  intro k
  rw [entriesOf_append, h k]
  split
  · rename_i hCall
    subst hCall
    rw [List.getElem?_concat_length, List.getElem?_eq_none (Nat.le_refl _)]
    rfl
  · rename_i hOther
    rcases Nat.lt_or_gt_of_ne hOther with hAbove | hBelow
    · rw [List.getElem?_eq_none (Nat.le_of_lt hAbove), List.getElem?_eq_none]
      rw [List.length_append, List.length_singleton]
      exact hAbove
    · rw [List.getElem?_append_left hBelow]

theorem set (h : Tracks own calls entries) (hCall : calls[k]? = some a) {new : List β}
    (hOwn : own b = own a ++ new) : Tracks own (calls.set k b) (entries ++ new.map (k, ·)) := by
  intro i
  rw [entriesOf_append, h i, List.getElem?_set]
  split
  · rename_i hSame
    subst hSame
    have hLength := (List.getElem?_eq_some_iff.mp hCall).1
    rw [if_pos hLength, hCall]
    exact hOwn.symm
  · rfl

end Tracks

theorem countP_set_of_eq {p : α → Bool} {calls : List α} {k : Nat} {a b : α} (h : calls[k]? = some a)
    (hSame : p b = p a) : (calls.set k b).countP p = calls.countP p := by
  obtain ⟨hLength, rfl⟩ := List.getElem?_eq_some_iff.mp h
  have hCounted := List.boole_getElem_le_countP (p := p) hLength
  rw [List.countP_set hLength, hSame]
  omega

theorem countP_set_of_new {p : α → Bool} {calls : List α} {k : Nat} {a b : α} (h : calls[k]? = some a)
    (hBefore : p a = false) (hAfter : p b = true) : (calls.set k b).countP p = calls.countP p + 1 := by
  obtain ⟨hLength, rfl⟩ := List.getElem?_eq_some_iff.mp h
  rw [List.countP_set hLength, hBefore, hAfter]
  rfl

def Counters.ofCalls (c : Client) (calls : List (Made × Fate)) : Counters where
  total := .ofNat (calls.countP (·.2.isCounted))
  successful := .ofNat (calls.countP (·.2.isTallied c true))
  failed := .ofNat (calls.countP (·.2.isTallied c false))

namespace Counters

variable {c : Client} {calls : List (Made × Fate)} {k : Nat} {made : Made} {f : Client.Flight}
  {stage : Stage}

theorem ofCalls_concat {fate : Fate} (hCounted : fate.isCounted = false)
    (hTallied : ∀ success, fate.isTallied c success = false) :
    ofCalls c (calls ++ [(made, fate)]) = ofCalls c calls := by
  simp [ofCalls, List.countP_append, hCounted, hTallied]

theorem ofCalls_set_of_eq (h : calls[k]? = some (made, .flying f stage)) (stage' : Stage)
    (hCounted : (Fate.flying f stage').isCounted = (Fate.flying f stage).isCounted)
    (hTallied : ∀ success,
      (Fate.flying f stage').isTallied c success = (Fate.flying f stage).isTallied c success) :
    ofCalls c (calls.set k (made, .flying f stage')) = ofCalls c calls := by
  unfold ofCalls
  rw [countP_set_of_eq h hCounted, countP_set_of_eq h (hTallied true),
    countP_set_of_eq h (hTallied false)]

theorem ofCalls_counted (h : calls[k]? = some (made, .flying f .sent)) (answer : Answer) :
    ofCalls c (calls.set k (made, .flying f (.counted answer))) =
      { ofCalls c calls with total := (ofCalls c calls).total + 1 } := by
  let after := calls.set k (made, .flying f (.counted answer))
  have hCounted : after.countP (·.2.isCounted) = calls.countP (·.2.isCounted) + 1 :=
    countP_set_of_new h rfl rfl
  have hTallied (success : Bool) :
      after.countP (·.2.isTallied c success) = calls.countP (·.2.isTallied c success) :=
    countP_set_of_eq h rfl
  unfold ofCalls
  rw [hCounted, hTallied, hTallied, UInt64.ofNat_add]
  rfl

theorem ofCalls_tallied {answer : Answer} (h : calls[k]? = some (made, .flying f (.counted answer))) :
    ofCalls c (calls.set k (made, .flying f (.tallied answer))) =
      if c.succeeded f answer then
        { ofCalls c calls with successful := (ofCalls c calls).successful + 1 }
      else { ofCalls c calls with failed := (ofCalls c calls).failed + 1 } := by
  let after := calls.set k (made, .flying f (.tallied answer))
  have hCounted : after.countP (·.2.isCounted) = calls.countP (·.2.isCounted) := countP_set_of_eq h rfl
  have hKind {success : Bool} (hSuccess : c.succeeded f answer = success) :
      after.countP (·.2.isTallied c success) = calls.countP (·.2.isTallied c success) + 1 :=
    countP_set_of_new h rfl (beq_iff_eq.mpr hSuccess)
  have hOther {success : Bool} (hFailure : c.succeeded f answer ≠ success) :
      after.countP (·.2.isTallied c success) = calls.countP (·.2.isTallied c success) :=
    countP_set_of_eq h (beq_eq_false_iff_ne.mpr hFailure)
  unfold ofCalls
  cases hSuccess : c.succeeded f answer with
  | true =>
    rw [hCounted, hKind hSuccess, hOther (by simp [hSuccess]), UInt64.ofNat_add]
    rfl
  | false =>
    rw [hCounted, hKind hSuccess, hOther (by simp [hSuccess]), UInt64.ofNat_add]
    rfl

theorem countP_isCounted (c : Client) (calls : List (Made × Fate)) :
    calls.countP (·.2.isCounted) = calls.countP (·.2.isTallied c true) +
      calls.countP (·.2.isTallied c false) + calls.countP (·.2.isRecording) := by
  induction calls with
  | nil => rfl
  | cons call calls ih =>
    obtain ⟨made, fate⟩ := call
    have hOne : (if fate.isCounted then 1 else 0) = (if fate.isTallied c true then 1 else 0) +
        (if fate.isTallied c false then 1 else 0) + if fate.isRecording then 1 else 0 := by
      rcases fate with error | ⟨f, stage⟩
      · rfl
      · cases stage with
        | noted | sent | counted => rfl
        | tallied answer | finished answer =>
          cases hSuccess : c.succeeded f answer <;>
            simp [Fate.isCounted, Fate.isTallied, Fate.isRecording, hSuccess]
    simp only [List.countP_cons]
    omega

end Counters

namespace Traffic

/-- What holds of the traffic at any time. -/
structure Sound (c : Client) (t : Traffic) : Prop where
  prepared : ∀ call ∈ t.calls, c.prepareMade call.1 = call.2.prepared
  settings : t.journal.settings = c.settings.logging
  log : t.journal.lines = t.log.map (·.2)
  lines : Tracks (fun call => call.2.lines c) t.calls t.log
  requests : Tracks (fun call => call.2.requests) t.calls t.sent
  counters : t.journal.counters = .ofCalls c t.calls

variable {c : Client} {t t' : Traffic}

/-- What a step adds to the journal and sends is of one call. -/
structure Gains (k : Nat) (written : List Line) (left : List Request) (t t' : Traffic) : Prop where
  settings : t'.journal.settings = t.journal.settings
  lines : t'.journal.lines = t.journal.lines ++ written
  log : t'.log = t.log ++ written.map (k, ·)
  sent : t'.sent = t.sent ++ left.map (k, ·)

theorem gains_of_enter {k : Nat} (journal : Journal) {written : List Line}
    (hSettings : journal.settings = t.journal.settings)
    (hLines : journal.lines = t.journal.lines ++ written) (calls : List (Made × Fate)) :
    Gains k written [] t { t.enter k journal with calls } where
  settings := hSettings
  lines := hLines
  log := by
    change t.log ++ (journal.lines.drop t.journal.lines.length).map (k, ·) = _
    rw [hLines, List.drop_left]
  sent := (List.append_nil _).symm

theorem gains_of_count {k : Nat} (counters : Counters) (calls : List (Made × Fate)) :
    Gains k [] [] t { t.enter k { t.journal with counters } with calls } :=
  gains_of_enter { t.journal with counters } rfl (List.append_nil _).symm calls

theorem sound_start (c : Client) : (start c).Sound c where
  prepared _ hCall := absurd hCall List.not_mem_nil
  settings := rfl
  log := rfl
  lines _ := rfl
  requests _ := rfl
  counters := rfl

theorem Sound.log_of_gains (h : t.Sound c) {k : Nat} {written : List Line} {left : List Request}
    (hGains : Gains k written left t t') : t'.journal.lines = t'.log.map (·.2) := by
  rw [hGains.lines, hGains.log, h.log, List.map_append, List.map_map]
  exact congrArg _ (List.map_id' written).symm

theorem Sound.concat (h : t.Sound c) {made : Made} (fate : Fate)
    (hPrepared : c.prepareMade made = fate.prepared) (hRequests : fate.requests = [])
    (hCounted : fate.isCounted = false) (hTallied : ∀ success, fate.isTallied c success = false)
    (hGains : Gains t.calls.length (fate.lines c) [] t t')
    (hCalls : t'.calls = t.calls ++ [(made, fate)])
    (hCounters : t'.journal.counters = t.journal.counters) : t'.Sound c where
  prepared := by
    rw [hCalls]
    intro call hCall
    rcases List.mem_append.mp hCall with hCall | hCall
    · exact h.prepared call hCall
    · obtain rfl := List.mem_singleton.mp hCall
      exact hPrepared
  settings := hGains.settings.trans h.settings
  log := h.log_of_gains hGains
  lines := by
    rw [hCalls, hGains.log]
    exact h.lines.concat (made, fate)
  requests := by
    have hConcat := h.requests.concat (made, fate)
    rw [hRequests] at hConcat
    rw [hCalls, hGains.sent]
    exact hConcat
  counters := by rw [hCalls, hCounters, h.counters, Counters.ofCalls_concat hCounted hTallied]

theorem Sound.set (h : t.Sound c) {k : Nat} {made : Made} {f : Client.Flight} {stage stage' : Stage}
    (hCall : t.calls[k]? = some (made, .flying f stage)) {written : List Line} {left : List Request}
    (hGains : Gains k written left t t') (hCalls : t'.calls = t.calls.set k (made, .flying f stage'))
    (hLines : (Fate.flying f stage').lines c = (Fate.flying f stage).lines c ++ written)
    (hRequests : (Fate.flying f stage').requests = (Fate.flying f stage).requests ++ left)
    (hCounters : t'.journal.counters = .ofCalls c (t.calls.set k (made, .flying f stage'))) :
    t'.Sound c where
  prepared := by
    rw [hCalls]
    intro call hMem
    rcases List.mem_or_eq_of_mem_set hMem with hMem | rfl
    · exact h.prepared call hMem
    · exact (h.prepared (made, .flying f stage) (List.mem_of_getElem? hCall) :)
  settings := hGains.settings.trans h.settings
  log := h.log_of_gains hGains
  lines := by
    rw [hCalls, hGains.log]
    exact h.lines.set (b := (made, .flying f stage')) hCall hLines
  requests := by
    rw [hCalls, hGains.sent]
    exact h.requests.set (b := (made, .flying f stage')) hCall hRequests
  counters := by rw [hCalls, hCounters]

theorem Sound.step (h : t.Sound c) (hStep : Step c t t') : t'.Sound c := by
  have hNothing {β : Type} (own : List β) : own = own ++ [] := (List.append_nil own).symm
  cases hStep with
  | @refuse made error hPrepare =>
    exact h.concat (.refused error) hPrepare rfl rfl (fun _ => rfl)
      ⟨rfl, hNothing _, hNothing _, hNothing _⟩ rfl rfl
  | @note made f hPrepare =>
    have hNoted := Journal.noteHeaders_eq f t.journal
    refine h.concat (.flying f .noted) hPrepare rfl rfl (fun _ => rfl)
      (gains_of_enter _ ?_ ?_ _) rfl ?_
    · rw [hNoted]
    · rw [hNoted, h.settings]
      rfl
    · change (t.journal.noteHeaders f.span f.request.headers).counters = _
      rw [hNoted]
  | @send k made f hCall =>
    have hCounters := Counters.ofCalls_set_of_eq (c := c) hCall .sent rfl fun _ => rfl
    exact h.set hCall ⟨rfl, hNothing _, hNothing _, rfl⟩ rfl (hNothing _) rfl
      (h.counters.trans hCounters.symm)
  | @count k made f hCall answer =>
    refine h.set hCall (gains_of_count _ _) rfl (hNothing _) (hNothing _) ?_
    rw [Counters.ofCalls_counted hCall answer, ← h.counters]
    rfl
  | @tally k made f answer hCall =>
    refine h.set hCall (gains_of_count _ _) rfl (hNothing _) (hNothing _) ?_
    rw [Counters.ofCalls_tallied hCall, ← h.counters]
    rfl
  | @write k made f answer hCall =>
    -- Both counts were taken before, so only the line is new.
    have hWritten := Journal.write_eq (t.journal.settings.outcomeLevel (c.succeeded f answer)) f.span
      (c.outcomeNote answer) t.journal
    have hCounters := Counters.ofCalls_set_of_eq (c := c) hCall (.finished answer) rfl fun _ => rfl
    have hLines : (t.journal.write (t.journal.settings.outcomeLevel (c.succeeded f answer)) f.span
        (c.outcomeNote answer)).lines = t.journal.lines ++ c.outcomeLines f answer := by
      rw [hWritten, h.settings]
      rfl
    refine h.set hCall (gains_of_enter _ ?_ hLines _) rfl rfl (hNothing _) ?_
    · rw [hWritten]
    · change (t.journal.write _ _ _).counters = _
      rw [hCounters, hWritten, h.counters]

theorem Sound.prepared_of_call (h : t.Sound c) {k : Nat} {made : Made} {fate : Fate}
    (hCall : t.calls[k]? = some (made, fate)) : c.prepareMade made = fate.prepared :=
  h.prepared (made, fate) (List.mem_of_getElem? hCall)

theorem Run.sound (h : Run c t) : t.Sound c := by
  induction h with
  | start => exact sound_start c
  | step _ hStep ih => exact ih.step hStep

/-- A call may take all its steps before any other goes on. -/
theorem Run.exists_finished (h : Run c t) {made : Made} {f : Client.Flight}
    (hPrepare : c.prepareMade made = .ok f) (answer : Answer) :
    ∃ t' : Traffic, Run c t' ∧ t'.calls = t.calls ++ [(made, .flying f (.finished answer))] ∧
      t'.sent = t.sent ++ [(t.calls.length, f.request)] ∧
      t'.journal = (c.conclude f answer.outcome answer.elapsed
        (t.journal.noteHeaders f.span f.request.headers)).2 := by
  let k := t.calls.length
  have hAt (stage : Stage) : (t.calls ++ [(made, Fate.flying f stage)])[k]? =
      some (made, .flying f stage) := List.getElem?_concat_length
  have hSet (stage stage' : Stage) :
      (t.calls ++ [(made, Fate.flying f stage)]).set k (made, .flying f stage') =
        t.calls ++ [(made, .flying f stage')] := by
    rw [List.set_append_right _ _ (Nat.le_refl _), Nat.sub_self]
    rfl
  have hNoted := h.step (.note hPrepare)
  have hSent := hNoted.step (.send (k := k) (hAt .noted))
  simp only [advance, enter, hSet] at hSent
  have hCounted := hSent.step (.count (k := k) (hAt .sent) answer)
  simp only [advance, enter, hSet] at hCounted
  have hTallied := hCounted.step (.tally (k := k) (hAt (.counted answer)))
  simp only [advance, enter, hSet] at hTallied
  have hFinished := hTallied.step (.write (k := k) (hAt (.tallied answer)))
  simp only [advance, enter, hSet] at hFinished
  refine ⟨_, hFinished, rfl, rfl, ?_⟩
  rw [Client.conclude_snd]
  rfl

/-- Requests that a session makes one after the other are such traffic. -/
theorem Run.exists_sendAll [Network ν] (h : Run c t) (made : List Made) {s : Session (Watched ν)}
    (hClient : s.client = c) (hJournal : t.journal = s.journal)
    (hSent : t.sent.map (·.2) = s.network.exchanges.map (·.request)) :
    ∃ (t' : Traffic) (calls : List (Made × Fate)), Run c t' ∧ t'.calls = t.calls ++ calls ∧
      calls.map (·.1) = made ∧
      calls.map (·.2.result? c) = (Made.sendAll made s).1.map some ∧
      t'.journal = (Made.sendAll made s).2.journal ∧
      t'.sent.map (·.2) = (Made.sendAll made s).2.network.exchanges.map (·.request) := by
  -- Between two requests the journals agree, and what left is what was exchanged.
  induction made generalizing t s with
  | nil => exact ⟨t, [], h, (List.append_nil _).symm, rfl, rfl, hJournal, hSent⟩
  | cons first rest ih =>
    rw [Made.sendAll_cons]
    cases hPrepare : c.prepareMade first with
    | error error =>
      rw [Session.made_of_error (hClient ▸ hPrepare)]
      obtain ⟨t', calls, hRun, hCalls, hMade, hResults, hEnd⟩ :=
        ih (h.step (.refuse hPrepare)) hClient hJournal hSent
      refine ⟨t', (first, .refused error) :: calls, hRun, ?_, ?_, ?_, hEnd⟩
      · rw [hCalls, List.append_assoc, List.singleton_append]
      · rw [List.map_cons, hMade]
      · rw [List.map_cons, List.map_cons, hResults]
        rfl
    | ok f =>
      obtain ⟨outcome, elapsed, network, hSend⟩ := Session.made_of_flight (hClient ▸ hPrepare)
      obtain ⟨t₁, hRun₁, hCalls₁, hSent₁, hJournal₁⟩ := h.exists_finished hPrepare ⟨outcome, elapsed⟩
      have hJournal' : t₁.journal = (first.send s).2.journal := by
        rw [hSend, hJournal₁, hClient, hJournal]
      have hSent' : t₁.sent.map (·.2) = (first.send s).2.network.exchanges.map (·.request) := by
        rw [hSend, hSent₁, List.map_append, List.map_append, hSent]
        rfl
      obtain ⟨t', calls, hRun, hCalls, hMade, hResults, hEnd⟩ :=
        ih hRun₁ ((Session.client_made first s).trans hClient) hJournal' hSent'
      refine ⟨t', (first, .flying f (.finished ⟨outcome, elapsed⟩)) :: calls, hRun, ?_, ?_, ?_, hEnd⟩
      · rw [hCalls, hCalls₁, List.append_assoc, List.singleton_append]
      · rw [List.map_cons, hMade]
      · rw [List.map_cons, List.map_cons, hResults, hSend, hClient]
        rfl

end Traffic

/-- What a finished call has done, whatever others did in the meantime. -/
structure Traffic.Concluded (c : Client) (t : Traffic) (k : Nat) (made : Made) (f : Client.Flight)
    (answer : Answer) : Prop where
  method : f.method = made.method
  target : Client.requestTarget made.uri = .ok f.target
  request : entriesOf k t.sent = [f.request]
  lines : entriesOf k t.log = c.settings.logging.headerLines f ++ c.outcomeLines f answer
  succeeded : c.succeeded f answer = true ↔ ∃ response,
    c.verdict f answer.outcome answer.elapsed = .ok response
  success : ∀ response, c.verdict f answer.outcome answer.elapsed = .ok response ↔
    answer.outcome = .answered response ∧ answer.elapsed.nanos ≤ c.settings.timeout.nanos ∧
      response.status.isSuccess = true
  status : ∀ response, answer.outcome = .answered response →
    answer.elapsed.nanos ≤ c.settings.timeout.nanos → response.status.isSuccess = false →
      c.verdict f answer.outcome answer.elapsed = .error
        (.status made.method f.target response.status (ServiceError.ofBody? response.body))

namespace Client

variable {c : Client} {f : Flight} {answer : Answer}

theorem succeeded_iff :
    c.succeeded f answer = true ↔ ∃ response, c.verdict f answer.outcome answer.elapsed = .ok response := by
  unfold succeeded
  cases c.verdict f answer.outcome answer.elapsed with
  | error error => exact ⟨nofun, nofun⟩
  | ok response => exact ⟨fun _ => ⟨response, rfl⟩, fun _ => rfl⟩

end Client

theorem Traffic.Sound.concluded {c : Client} {t : Traffic} (h : t.Sound c) {k : Nat} {made : Made}
    {f : Client.Flight} {answer : Answer}
    (hCall : t.calls[k]? = some (made, .flying f (.finished answer))) : t.Concluded c k made f answer where
  method := (Client.prepare_ok (h.prepared_of_call hCall)).1
  target := (Client.prepare_ok (h.prepared_of_call hCall)).2
  request := by
    rw [h.requests k, hCall]
    rfl
  lines := by
    rw [h.lines k, hCall]
    rfl
  succeeded := Client.succeeded_iff
  success _ := Client.verdict_eq_ok_iff c
  status response hAnswered hInTime hFailure := by
    have hMethod := (Client.prepare_ok (h.prepared_of_call hCall)).1
    rw [hAnswered, Client.verdict_answered c hInTime, hFailure, if_neg Bool.false_ne_true, hMethod]

/-- Every call is accounted for, however the calls of the copies of a client go on beside each other. One
that cannot be made is refused and leaves no trace. One that is finished has made one request and written
its header fields, if they are logged, and then its outcome. The counters are the numbers of calls that
came so far, so that none is missing while no call is between its two counts. Requests that are made one
after the other are such traffic. -/
theorem calls_are_accounted_for {c : Client} {t : Traffic} (h : t.Run c) :
    (∀ k made error, t.calls[k]? = some (made, .refused error) → c.prepareMade made = .error error ∧
      (∃ text, error = .validation text) ∧ entriesOf k t.sent = [] ∧ entriesOf k t.log = []) ∧
    (∀ k made f answer, t.calls[k]? = some (made, .flying f (.finished answer)) →
      c.prepareMade made = .ok f ∧ t.Concluded c k made f answer) ∧
    t.journal.lines = t.log.map (·.2) ∧
    t.journal.counters = .ofCalls c t.calls ∧
    ((∀ call ∈ t.calls, call.2.isRecording = false) →
      t.journal.counters.total = t.journal.counters.successful + t.journal.counters.failed) ∧
    ∀ (ν : Type) [Network ν] (network : ν) (made : List Made),
      let ended := Made.sendAll made (Session.start c (⟨network, []⟩ : Watched ν))
      ∃ t' : Traffic, t'.Run c ∧ t'.calls.map (·.1) = made ∧
        t'.calls.map (·.2.result? c) = ended.1.map some ∧ t'.journal = ended.2.journal ∧
        t'.sent.map (·.2) = ended.2.network.exchanges.map (·.request) := by
  have hSound := h.sound
  refine ⟨?_, ?_, hSound.log, hSound.counters, ?_, ?_⟩
  · intro k made error hCall
    have hPrepared := hSound.prepared_of_call hCall
    refine ⟨hPrepared, Client.prepare_error hPrepared, ?_, ?_⟩
    · rw [hSound.requests k, hCall]
      rfl
    · rw [hSound.lines k, hCall]
      rfl
  · intro k made f answer hCall
    exact ⟨hSound.prepared_of_call hCall, hSound.concluded hCall⟩
  · intro hIdle
    have hNone : t.calls.countP (·.2.isRecording) = 0 := by
      rw [List.countP_eq_zero]
      intro call hCall
      rw [hIdle call hCall]
      exact Bool.false_ne_true
    rw [hSound.counters]
    change UInt64.ofNat _ = UInt64.ofNat _ + UInt64.ofNat _
    rw [Counters.countP_isCounted c, hNone, Nat.add_zero, UInt64.ofNat_add]
  · intro ν _ network made ended
    obtain ⟨t', calls, hRun, hCalls, hMade, hResults, hJournal, hSent⟩ :=
      Traffic.Run.start.exists_sendAll made (s := Session.start c (⟨network, []⟩ : Watched ν)) rfl rfl rfl
    obtain rfl : t'.calls = calls := hCalls
    exact ⟨t', hRun, hMade, hResults, hJournal, hSent⟩

/-- Two requests overtake each other, after a call that was refused. -/
theorem overtaking_calls_are_counted :
    let c : Client := ⟨.forEndpoint "http://127.0.0.1:8000", "127.0.0.1", 8000, false, none⟩
    let refusal : Error := .validation "Invalid URI http://: empty host"
    ∃ t : Traffic, t.Run c ∧ t.calls.map (·.2.result? c) = [some (.error refusal),
        some (.ok (.plain .ok [])), some (.error (.status .get "/b" ⟨503⟩ none))] ∧
      t.journal.lines = [⟨.debug, "GET", "/a", .answered 200 ⟨7⟩⟩,
        ⟨.warn, "GET", "/b", .failed ⟨5⟩ "503 Service Unavailable"⟩] ∧
      t.journal.counters = ⟨2, 1, 1⟩ ∧
      t.journal.counters.total = t.journal.counters.successful + t.journal.counters.failed := by
  intro c refusal
  have hRefused : c.prepareMade (.get "http://") = .error refusal := by decide +kernel
  have hFirst : c.prepareMade (.get "/a") =
      .ok ⟨.get, "/a", ⟨.get, Bytes.ofText "/a", c.baseHeaders .get, []⟩⟩ := rfl
  have hSecond : c.prepareMade (.get "/b") =
      .ok ⟨.get, "/b", ⟨.get, Bytes.ofText "/b", c.baseHeaders .get, []⟩⟩ := rfl
  have hMade := ((Traffic.Run.start.step (.refuse hRefused)).step (.note hFirst)).step (.note hSecond)
  have hSent := (hMade.step (.send (k := 2) rfl)).step (.send (k := 1) rfl)
  have hCounted := (hSent.step (.count (k := 2) rfl ⟨.answered (.plain ⟨503⟩ []), ⟨5⟩⟩)).step
    (.count (k := 1) rfl ⟨.answered (.plain .ok []), ⟨7⟩⟩)
  have hTallied := (hCounted.step (.tally (k := 2) rfl)).step (.tally (k := 1) rfl)
  have hFinished := (hTallied.step (.write (k := 1) rfl)).step (.write (k := 2) rfl)
  obtain ⟨_, _, _, _, hTotal, _⟩ := calls_are_accounted_for hFinished
  exact ⟨_, hFinished, rfl, rfl, rfl, hTotal (by decide)⟩

end Redfish
