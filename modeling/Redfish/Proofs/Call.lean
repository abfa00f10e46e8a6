import Redfish.Transport

/-!
# Steps of a computation that may fail

A sequence of steps succeeds exactly if each of its steps does, and a call stops at its first error.
-/

namespace Redfish

theorem ok_bind (a : α) (f : α → Except ε β) : (Except.ok a >>= f) = f a := rfl

theorem bind_eq_ok_iff {x : Except ε α} {f : α → Except ε β} {b : β} :
    x >>= f = .ok b ↔ ∃ a, x = .ok a ∧ f a = .ok b := by
  cases x with
  | error e =>
    constructor
    · intro h
      cases h
    · rintro ⟨_, h, _⟩
      cases h
  | ok a =>
    constructor
    · intro h
      exact ⟨a, rfl, h⟩
    · rintro ⟨_, h, hf⟩
      cases h
      exact hf

theorem map_eq_ok_iff {x : Except ε α} {f : α → β} {b : β} :
    x.map f = .ok b ↔ ∃ a, x = .ok a ∧ f a = b := by
  cases x <;> simp [Except.map]

theorem mapError_eq_ok_iff {x : Except ε α} {f : ε → δ} {a : α} :
    x.mapError f = .ok a ↔ x = .ok a := by
  cases x with
  | error e => exact ⟨nofun, nofun⟩
  | ok b =>
    constructor
    · rintro ⟨⟩
      rfl
    · rintro ⟨⟩
      rfl

theorem map_mapError (x : Except ε α) (f : ε → δ) (g : α → β) :
    (x.mapError f).map g = (x.map g).mapError f := by cases x <;> rfl

theorem stateBind_run (x : StateM σ α) (f : α → StateM σ β) (s : σ) :
    (x >>= f) s = f (x s).1 (x s).2 := rfl

theorem requestsBind_run (x : Requests σ α) (f : α → Requests σ β) (s : σ) :
    (x >>= f) s = (x s).bind fun r => f r.1 r.2 := rfl

namespace Call

theorem bind_run (x : ExceptT ε (StateM σ) α) (f : α → ExceptT ε (StateM σ) β) (s : σ) :
    (x >>= f) s = match x s with
      | (.ok a, s') => f a s'
      | (.error e, s') => (.error e, s') := by
  change (ExceptT.bind x f) s = _
  unfold ExceptT.bind ExceptT.mk
  change (match x s with | (r, s') => ExceptT.bindCont f r s') = _
  rcases x s with ⟨r, s'⟩
  cases r <;> rfl

theorem lift_run (x : Except Error α) (s : σ) : (liftM x : Call σ α) s = (x, s) := by
  cases x <;> rfl

end Call

namespace Requests

theorem bind_run (x : ExceptT ε (Requests σ) α) (f : α → ExceptT ε (Requests σ) β) (s : σ) :
    (x >>= f) s = match x s with
      | none => none
      | some (.ok a, s') => f a s'
      | some (.error e, s') => some (.error e, s') := by
  change (ExceptT.bind x f) s = _
  unfold ExceptT.bind ExceptT.mk
  change ((x s).bind fun r => ExceptT.bindCont f r.1 r.2) = _
  rcases x s with _ | ⟨_ | _, _⟩ <;> rfl

theorem adapt_run (x : ExceptT ε (Requests σ) α) (f : ε → δ) (s : σ) :
    x.adapt f s = (x s).map fun r => (r.1.mapError f, r.2) := by
  change ((x s).bind fun r => some (r.1.mapError f, r.2)) = _
  cases x s <;> rfl

end Requests

/-- A resource is fetched by one GET, and all else depends on the answer alone. -/
theorem getObject_run [Transport σ] [Resource α] (uri : String) (s : σ) :
    (getObject uri : Call σ α) s =
      ((Transport.get uri s).1.bind fun response =>
          (Resource.ofDocument uri response.body).map (Resource.attach uri response.body),
        (Transport.get uri s).2) := by
  unfold getObject
  rw [Call.bind_run]
  rcases Transport.get uri s with ⟨r, s'⟩
  cases r with
  | error e => rfl
  | ok response =>
    simp only [Call.bind_run, Call.lift_run]
    cases hRead : (Resource.ofDocument uri response.body : Except Error α) with
    | error e => simp only [Except.bind, Except.map, hRead]
    | ok a =>
      simp only [Except.bind, Except.map, hRead]
      rfl

end Redfish
