import Redfish.Navigation
import Redfish.Proofs.Call

/-!
# Services that cannot be told apart

A client learns nothing of an answer but the document in it, and of the answer to a PATCH only whether it
came. So where two services give the same documents and the same errors, everything that a client does
gives the same on both, however many requests it makes and whatever it makes them dependent on.
-/

namespace Redfish

def document [Transport σ] (uri : String) : Call σ Bytes := do
  let response ← Transport.get uri
  return response.body

def submit [Transport σ] (uri : String) (body : Bytes) (extra : Http.Headers) : Call σ Unit := do
  let _ ← Transport.patch uri body extra

/-- From related states `y` gives what `x` gives, and the states after them are related, as long as `x`
leaves a fit state. An unfit one cannot be made fit. -/
structure Simulates (R : σ → τ → Prop) (Fit : σ → Prop) (x : StateM σ α) (y : StateM τ α) : Prop where
  was_fit : ∀ s, Fit (x s).2 → Fit s
  agrees : ∀ s t, R s t → Fit (x s).2 → (y t).1 = (x s).1 ∧ R (x s).2 (y t).2

namespace Simulates

variable {R : σ → τ → Prop} {Fit : σ → Prop}

theorem exists_run {x : StateM σ α} {y : StateM τ α} (h : Simulates R Fit x y) {s s' : σ} {a : α}
    (hRun : x s = (a, s')) {t : τ} (hR : R s t) (hFit : Fit s') : ∃ t', y t = (a, t') ∧ R s' t' := by
  have hAgrees := h.agrees s t hR
  rw [hRun] at hAgrees
  obtain ⟨hResult, hR'⟩ := hAgrees hFit
  exact ⟨_, Prod.ext hResult rfl, hR'⟩

theorem of_pure {x : StateM σ α} {y : StateM τ α} (a : α) (hx : ∀ s, x s = (a, s))
    (hy : ∀ t, y t = (a, t)) : Simulates R Fit x y where
  was_fit s h := by rwa [hx] at h
  agrees s t hR _ := by
    rw [hx, hy]
    exact ⟨rfl, hR⟩

theorem bind {x : StateM σ α} {y : StateM τ α} {f : α → StateM σ β} {g : α → StateM τ β}
    (hFirst : Simulates R Fit x y) (hRest : ∀ a, Simulates R Fit (f a) (g a)) :
    Simulates R Fit (x >>= f) (y >>= g) where
  was_fit s h := hFirst.was_fit s ((hRest _).was_fit _ h)
  agrees s t hR hFit := by
    rw [stateBind_run] at hFit ⊢
    rw [stateBind_run]
    obtain ⟨hResult, hR₁⟩ := hFirst.agrees s t hR ((hRest _).was_fit _ hFit)
    rw [hResult]
    exact (hRest _).agrees _ _ hR₁ hFit

theorem map {x : StateM σ α} {y : StateM τ α} (h : Simulates R Fit x y) (f : α → β) :
    Simulates R Fit (f <$> x) (f <$> y) := by
  rw [← bind_pure_comp, ← bind_pure_comp]
  exact h.bind fun a => .of_pure (f a) (fun _ => rfl) fun _ => rfl

theorem adapt {x : ExceptT ε (StateM σ) α} {y : ExceptT ε (StateM τ) α}
    (h : Simulates R Fit x.run y.run) (f : ε → δ) :
    Simulates R Fit (x.adapt f).run (y.adapt f).run := h.map (Except.mapError f)

theorem bindCall {x : ExceptT ε (StateM σ) α} {y : ExceptT ε (StateM τ) α}
    {f : α → ExceptT ε (StateM σ) β} {g : α → ExceptT ε (StateM τ) β}
    (hFirst : Simulates R Fit x.run y.run) (hRest : ∀ a, Simulates R Fit (f a).run (g a).run) :
    Simulates R Fit (x >>= f).run (y >>= g).run := by
  change Simulates R Fit (x.run >>= ExceptT.bindCont f) (y.run >>= ExceptT.bindCont g)
  refine hFirst.bind ?_
  intro r
  cases r with
  | error e => exact .of_pure (.error e) (fun _ => rfl) fun _ => rfl
  | ok a => exact hRest a

theorem bindLift (x : Except Error α) {f : α → Call σ β} {g : α → Call τ β}
    (hRest : ∀ a, x = .ok a → Simulates R Fit (f a).run (g a).run) :
    Simulates R Fit ((liftM x : Call σ α) >>= f).run ((liftM x : Call τ α) >>= g).run := by
  cases x with
  | error e => exact .of_pure (.error e) (fun _ => rfl) fun _ => rfl
  | ok a => exact hRest a rfl

end Simulates

theorem Simulates.walkPages [Transport σ] [Transport τ] {R : σ → τ → Prop} {Fit : σ → Prop}
    {start : String} (hRead : ∀ met uri, Simulates R Fit (readPage start met uri : Call σ _).run
      (readPage start met uri : Call τ _).run)
    {uri : String} {visited : List String} {s : σ} {r : Except Error (List String) × σ}
    (h : walkPages start visited uri s = some r) :
    (Fit r.2 → Fit s) ∧ ∀ t, R s t → Fit r.2 →
      ∃ t', Redfish.walkPages start visited uri t = some (r.1, t') ∧ R r.2 t' := by
  -- Only the walk on the first service is known to end, so the induction follows that one.
  refine Redfish.walkPages.partial_correctness start (fun visited uri s r =>
    (Fit r.2 → Fit s) ∧ ∀ t, R s t → Fit r.2 →
      ∃ t', Redfish.walkPages start visited uri t = some (r.1, t') ∧ R r.2 t') ?_ visited uri s r h
  intro rest ih visited uri s r h
  have hRead := hRead (uri :: visited) uri
  have hWasFit : Fit ((readPage start (uri :: visited) uri : Call σ _) s).2 → Fit s :=
    hRead.was_fit s
  rcases hPage : (readPage start (uri :: visited) uri : Call σ _) s with ⟨result, s₁⟩
  have hPage' : ∀ t, R s t → Fit s₁ →
      ∃ t₁, (readPage start (uri :: visited) uri : Call τ _) t = (result, t₁) ∧ R s₁ t₁ :=
    fun t hR hFit => hRead.exists_run hPage hR hFit
  rw [hPage] at h hWasFit
  have hEnds : ∀ found,
      (∀ t t₁, (readPage start (uri :: visited) uri : Call τ _) t = (result, t₁) →
        Redfish.walkPages start visited uri t = some (found, t₁)) →
      ∀ t, R s t → Fit s₁ →
        ∃ t', Redfish.walkPages start visited uri t = some (found, t') ∧ R s₁ t' := by
    intro found hWalk t hR hFit
    obtain ⟨t₁, hPage₁, hR₁⟩ := hPage' t hR hFit
    exact ⟨t₁, hWalk t t₁ hPage₁, hR₁⟩
  rcases result with e | ⟨uris, _ | link⟩
  · cases h
    exact ⟨hWasFit, hEnds _ fun t t₁ hPage₁ => by rw [Redfish.walkPages, hPage₁]⟩
  · cases h
    exact ⟨hWasFit, hEnds _ fun t t₁ hPage₁ => by rw [Redfish.walkPages, hPage₁]⟩
  · obtain ⟨⟨more, s'⟩, hRest, hResult⟩ := Option.bind_eq_some_iff.mp h
    cases hResult
    obtain ⟨hWasFit', hAgrees'⟩ := ih _ _ _ _ hRest
    refine ⟨fun hFit => hWasFit (hWasFit' hFit), ?_⟩
    intro t hR hFit
    obtain ⟨t₁, hPage₁, hR₁⟩ := hPage' t hR (hWasFit' hFit)
    obtain ⟨t', hMore, hR'⟩ := hAgrees' t₁ hR₁ hFit
    refine ⟨t', ?_, hR'⟩
    rw [Redfish.walkPages, hPage₁]
    simp only [hMore]
    rfl

/-- From each state `x` comes to an end. From related states `y` then gives what `x` gives, and the states
after them are related, as long as `x` leaves a fit state. An unfit one cannot be made fit. -/
def Requests.Simulates (R : σ → τ → Prop) (Fit : σ → Prop) (x : Requests σ α) (y : Requests τ α) :
    Prop :=
  ∀ s, ∃ a s', x s = some (a, s') ∧
    (Fit s' → Fit s ∧ ∀ t, R s t → ∃ t', y t = some (a, t') ∧ R s' t')

namespace Requests.Simulates

variable {R : σ → τ → Prop} {Fit : σ → Prop}

theorem of_pure {x : Requests σ α} {y : Requests τ α} (a : α) (hx : ∀ s, x s = some (a, s))
    (hy : ∀ t, y t = some (a, t)) : Requests.Simulates R Fit x y :=
  fun s => ⟨a, s, hx s, fun hFit => ⟨hFit, fun t hR => ⟨t, hy t, hR⟩⟩⟩

theorem of_state {x : StateM σ α} {y : StateM τ α} (h : Redfish.Simulates R Fit x y) :
    Requests.Simulates R Fit (liftM x) (liftM y) := by
  intro s
  refine ⟨(x s).1, (x s).2, rfl, fun hFit => ⟨h.was_fit s hFit, ?_⟩⟩
  intro t hR
  obtain ⟨t', hRun, hR'⟩ := h.exists_run (Prod.eta (x s)).symm hR hFit
  exact ⟨t', congrArg some hRun, hR'⟩

theorem bind {x : Requests σ α} {y : Requests τ α} {f : α → Requests σ β} {g : α → Requests τ β}
    (hFirst : Requests.Simulates R Fit x y) (hRest : ∀ a, Requests.Simulates R Fit (f a) (g a)) :
    Requests.Simulates R Fit (x >>= f) (y >>= g) := by
  intro s
  obtain ⟨a, s₁, hx, hAgrees⟩ := hFirst s
  obtain ⟨b, s₂, hf, hAgrees'⟩ := hRest a s₁
  refine ⟨b, s₂, ?_, ?_⟩
  · rw [requestsBind_run, hx]
    exact hf
  · intro hFit
    obtain ⟨hFit₁, hRest₁⟩ := hAgrees' hFit
    obtain ⟨hWasFit, hFirst₁⟩ := hAgrees hFit₁
    refine ⟨hWasFit, ?_⟩
    intro t hR
    obtain ⟨t₁, hy, hR₁⟩ := hFirst₁ t hR
    obtain ⟨t₂, hg, hR₂⟩ := hRest₁ t₁ hR₁
    refine ⟨t₂, ?_, hR₂⟩
    rw [requestsBind_run, hy]
    exact hg

theorem adapt {x : ExceptT ε (Requests σ) α} {y : ExceptT ε (Requests τ) α}
    (h : Requests.Simulates R Fit x.run y.run) (f : ε → δ) :
    Requests.Simulates R Fit (x.adapt f).run (y.adapt f).run := by
  change Requests.Simulates R Fit (x.run >>= fun r => pure (r.mapError f))
    (y.run >>= fun r => pure (r.mapError f))
  exact h.bind fun r => .of_pure _ (fun _ => rfl) fun _ => rfl

theorem bindCall {x : ExceptT ε (Requests σ) α} {y : ExceptT ε (Requests τ) α}
    {f : α → ExceptT ε (Requests σ) β} {g : α → ExceptT ε (Requests τ) β}
    (hFirst : Requests.Simulates R Fit x.run y.run)
    (hRest : ∀ a, Requests.Simulates R Fit (f a).run (g a).run) :
    Requests.Simulates R Fit (x >>= f).run (y >>= g).run := by
  change Requests.Simulates R Fit (x.run >>= ExceptT.bindCont f) (y.run >>= ExceptT.bindCont g)
  refine hFirst.bind ?_
  intro r
  cases r with
  | error e => exact .of_pure (.error e) (fun _ => rfl) fun _ => rfl
  | ok a => exact hRest a

end Requests.Simulates

/-- Two services of which the second answers as the first does. A collection of the first ends. -/
structure Simulation (σ τ : Type) [Transport σ] [Transport τ] where
  R : σ → τ → Prop
  Fit : σ → Prop
  document (uri : String) :
    Simulates R Fit (document uri : Call σ Bytes).run (document uri : Call τ Bytes).run
  submit (uri : String) (body : Bytes) {e : Entity} {extra : Http.Headers}
    (hCondition : e.condition = .ok extra) :
    Simulates R Fit (submit uri body extra : Call σ Unit).run (submit uri body extra : Call τ Unit).run
  walk_ends (uri : String) (s : σ) : (walkPages uri [] uri s).isSome = true

section

variable [Transport σ]

theorem getObject_eq_document [Resource α] (uri : String) : (getObject uri : Call σ α) = do
    let body ← document uri
    let a ← (Resource.ofDocument uri body : Except Error α)
    return Resource.attach uri body a := by
  simp only [getObject, document, bind_assoc, pure_bind]

theorem getPage_eq_document (uri : String) : (getPage uri : Call σ Collection) = (do
    let body ← document uri
    ((Collection.ofBytes body).mapError (.decode uri) : Except Error Collection)) := by
  simp only [getPage, document, bind_assoc, pure_bind]

theorem update_eq_submit [Updatable α] (current : α) : (update current : Call σ Unit) = (do
    let delta ← pendingChanges current
    if delta.isEmpty then return
    (Resource.entity current).checkAttached
    let body ← ((Json.Value.object delta).toBytes.mapError .encode : Except Error Bytes)
    let extra ← (Resource.entity current).condition
    submit (Resource.entity current).odataId body extra) := rfl

end

namespace Simulation

variable [Transport σ] [Transport τ] (m : Simulation σ τ)

theorem getObject [Resource α] (uri : String) :
    Simulates m.R m.Fit (getObject uri : Call σ α).run (Redfish.getObject uri : Call τ α).run := by
  rw [getObject_eq_document, getObject_eq_document]
  refine (m.document uri).bindCall ?_
  intro body
  refine .bindLift _ ?_
  intro a _
  exact .of_pure _ (fun _ => rfl) fun _ => rfl

theorem getPage (uri : String) :
    Simulates m.R m.Fit (getPage uri : Call σ Collection).run
      (Redfish.getPage uri : Call τ Collection).run := by
  rw [getPage_eq_document, getPage_eq_document]
  refine (m.document uri).bindCall ?_
  intro body
  exact .of_pure _ (Call.lift_run _) (Call.lift_run _)

theorem readPage (start : String) (met : List String) (uri : String) :
    Simulates m.R m.Fit (readPage start met uri : Call σ _).run
      (Redfish.readPage start met uri : Call τ _).run := by
  refine (m.getPage uri).bindCall ?_
  intro page
  cases page.next? with
  | none => exact .of_pure _ (fun _ => rfl) fun _ => rfl
  | some link =>
    dsimp only
    split
    · exact .of_pure _ (fun _ => rfl) fun _ => rfl
    · exact .of_pure _ (fun _ => rfl) fun _ => rfl

theorem walkPages {start uri : String} {visited : List String} {s : σ}
    {r : Except Error (List String) × σ} (h : walkPages start visited uri s = some r) :
    (m.Fit r.2 → m.Fit s) ∧ ∀ t, m.R s t → m.Fit r.2 →
      ∃ t', Redfish.walkPages start visited uri t = some (r.1, t') ∧ m.R r.2 t' :=
  Simulates.walkPages (m.readPage start) h

theorem getCollection (uri : String) :
    Requests.Simulates m.R m.Fit (getCollection uri : ExceptT Error (Requests σ) _).run
      (Redfish.getCollection uri : ExceptT Error (Requests τ) _).run := by
  intro s
  obtain ⟨r, hWalk⟩ := Option.isSome_iff_exists.mp (m.walk_ends uri s)
  obtain ⟨hWasFit, hAgrees⟩ := m.walkPages hWalk
  exact ⟨r.1, r.2, hWalk, fun hFit => ⟨hWasFit hFit, fun t hR => hAgrees t hR hFit⟩⟩

section

variable [Resource α]

theorem fetchAll (uris : List String) :
    Simulates m.R m.Fit (fetchAll uris : StateM σ (List α × FailureReport))
      (Redfish.fetchAll uris : StateM τ (List α × FailureReport)) := by
  induction uris with
  | nil => exact .of_pure _ (fun _ => rfl) fun _ => rfl
  | cons uri uris ih =>
    refine (m.getObject uri).bind ?_
    intro result
    refine ih.bind ?_
    intro rest
    exact .of_pure _ (fun _ => rfl) fun _ => rfl

theorem fetchMembers (uris : List String) :
    Requests.Simulates m.R m.Fit (fetchMembers uris : Listing σ α (List α)).run
      (Redfish.fetchMembers uris : Listing τ α (List α)).run := by
  refine .bindCall (.of_state ((m.fetchAll uris).map Except.ok)) ?_
  rintro ⟨items, failures⟩
  dsimp only
  split
  · exact .of_pure _ (fun _ => rfl) fun _ => rfl
  · exact .of_pure _ (fun _ => rfl) fun _ => rfl

theorem listReferenced (link : String) :
    Requests.Simulates m.R m.Fit (listReferenced link : Listing σ α (List α)).run
      (Redfish.listReferenced link : Listing τ α (List α)).run := by
  unfold Redfish.listReferenced
  split
  · exact .of_pure _ (fun _ => rfl) fun _ => rfl
  · refine .bindCall ((m.getCollection link).adapt ListError.collection) ?_
    intro uris
    exact m.fetchMembers uris

theorem listLinked (links : List Link) :
    Requests.Simulates m.R m.Fit (listLinked links : Listing σ α (List α)).run
      (Redfish.listLinked links : Listing τ α (List α)).run :=
  m.fetchMembers _

omit [Resource α] in
theorem attachedListing (e : Entity) {x : Listing σ α (List α)} {y : Listing τ α (List α)}
    (h : Requests.Simulates m.R m.Fit x.run y.run) :
    Requests.Simulates m.R m.Fit (e.attachedListing x).run (e.attachedListing y).run := by
  unfold Entity.attachedListing
  cases e.checkAttached with
  | ok => exact h
  | error error => exact .of_pure _ (fun _ => rfl) fun _ => rfl

end

theorem update [Updatable α] (current : α) :
    Simulates m.R m.Fit (update current : Call σ Unit).run (Redfish.update current : Call τ Unit).run := by
  rw [update_eq_submit, update_eq_submit]
  refine .bindLift _ ?_
  intro delta _
  split
  · exact .of_pure _ (fun _ => rfl) fun _ => rfl
  · refine .bindLift _ ?_
    intro _ _
    refine .bindLift _ ?_
    intro body _
    refine .bindLift _ ?_
    intro extra hCondition
    exact m.submit _ body hCondition

end Simulation

end Redfish
