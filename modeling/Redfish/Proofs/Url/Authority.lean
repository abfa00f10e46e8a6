import Redfish.Proofs.Call
import Redfish.Proofs.Text
import Redfish.Url

/-!
# The authority of a URL

An authority ends at the first slash. What is read from it, or what is wrong with it, does not depend on
the path behind that slash, and the path is left as it stands.
-/

namespace Redfish.Url

def IsAuthority (cs : List Char) : Prop := ∀ c ∈ cs, c ∉ ['/', '\\', '?', '#']

theorem endsAuthority_eq_false {c : Char} (h : c ∉ ['/', '\\', '?', '#']) (k : Kind) :
    endsAuthority k c = false := by
  simp only [List.mem_cons, List.not_mem_nil, or_false, not_or] at h
  obtain ⟨hSlash, hBackslash, hQuery, hFragment⟩ := h
  simp [endsAuthority, hSlash, hBackslash, hQuery, hFragment]

theorem isSlash_eq_false {c : Char} (h : c ∉ ['/', '\\', '?', '#']) : isSlash c = false := by
  simp only [List.mem_cons, List.not_mem_nil, or_false, not_or] at h
  simp [isSlash, h.1, h.2.1]

theorem parseAuthority_nil {scheme : String} (hKind : kind scheme = .special) :
    parseAuthority scheme [] = .error .emptyHost := by
  unfold parseAuthority
  rw [hKind]
  rfl

namespace IsAuthority

variable {cs : List Char}

theorem tail {c : Char} (h : IsAuthority (c :: cs)) : IsAuthority cs := fun d hd =>
  h d (List.mem_cons_of_mem c hd)

theorem of_splitAtSign? (h : IsAuthority cs) {user host : List Char}
    (hSplit : splitAtSign? cs = some (user, host)) : IsAuthority host := by
  unfold splitAtSign? at hSplit
  split at hSplit
  · obtain ⟨_, rfl⟩ := Prod.mk.inj (Option.some.inj hSplit)
    intro c hc
    exact h c (List.mem_reverse.mp ((List.takeWhile_sublist _).subset (List.mem_reverse.mp hc)))
  · cases hSplit

theorem exists_readUser (h : IsAuthority cs) :
    ∃ r : Except Fault (Bool × List Char), (∀ u, r = .ok u → IsAuthority u.2) ∧
      ∀ path, readUser .special (cs ++ '/' :: path) = r.map fun u => (u.1, u.2 ++ '/' :: path) := by
  have hAuthority : ∀ path, (cs ++ '/' :: path).takeWhile (!endsAuthority .special ·) = cs := by
    intro path
    refine takeWhile_piece ?_ ?_
    · intro c hc
      simp [endsAuthority_eq_false (h c hc)]
    · rintro c ⟨⟩
      rfl
  have hAfter : ∀ path, (cs ++ '/' :: path).drop cs.length = '/' :: path := fun path =>
    List.drop_left
  unfold readUser
  simp only [hAuthority, hAfter]
  cases hSplit : splitAtSign? cs with
  | none => exact ⟨.ok (false, cs), fun u hu => by cases hu; exact h, fun _ => rfl⟩
  | some parts =>
    obtain ⟨user, host⟩ := parts
    have hHost := h.of_splitAtSign? hSplit
    rcases user with _ | ⟨u, user⟩
    · rcases host with _ | ⟨c, host⟩
      · exact ⟨.error .emptyHost, nofun, fun _ => rfl⟩
      · exact ⟨.ok (false, c :: host), fun u hu => by cases hu; exact hHost, fun _ => rfl⟩
    · exact ⟨.ok (u :: user ≠ [':'], host), fun u hu => by cases hu; exact hHost, fun _ => rfl⟩

/-- The host does not depend on the path. What follows it is nothing, or the port behind a colon. -/
theorem readHost_append (h : IsAuthority cs) (bracketed : Bool) (path : List Char) :
    readHost .special bracketed (cs ++ '/' :: path) =
      ((readHost .special bracketed cs).1, (readHost .special bracketed cs).2 ++ '/' :: path) := by
  induction cs generalizing bracketed with
  | nil => rfl
  | cons c cs ih =>
    simp only [List.cons_append, readHost, endsAuthority_eq_false (h c List.mem_cons_self), Bool.false_or]
    split
    · rfl
    · rw [ih h.tail]

theorem readHost_snd (h : IsAuthority cs) (bracketed : Bool) :
    (readHost .special bracketed cs).2 = [] ∨
      ∃ port, (readHost .special bracketed cs).2 = ':' :: port ∧ IsAuthority port := by
  induction cs generalizing bracketed with
  | nil => exact .inl rfl
  | cons c cs ih =>
    simp only [readHost, endsAuthority_eq_false (h c List.mem_cons_self), Bool.false_or]
    split
    · rename_i hColon
      obtain ⟨hColon, _⟩ := Bool.and_eq_true_iff.mp hColon
      obtain rfl := of_decide_eq_true hColon
      exact .inr ⟨cs, rfl, h.tail⟩
    · exact ih h.tail _

theorem exists_readPort (h : IsAuthority cs) (port : Option Nat) :
    ∃ r : Except Fault (Option Nat), ∀ path, readPort port (cs ++ '/' :: path) =
      r.map fun port => (port, '/' :: path) := by
  induction cs generalizing port with
  | nil => exact ⟨.ok port, fun _ => rfl⟩
  | cons c cs ih =>
    have hc := h c List.mem_cons_self
    simp only [List.cons_append, readPort]
    by_cases hDigit : Ipv4.isDigit c = true
    · simp only [hDigit, if_true]
      split
      · exact ⟨.error .invalidPort, fun _ => rfl⟩
      · exact ih h.tail _
    · have hOther : ['/', '\\', '?', '#'].contains c = false := by simpa using hc
      simp only [hDigit, hOther]
      exact ⟨.error .invalidPort, fun _ => rfl⟩

theorem exists_readPortPart (h : IsAuthority cs) (scheme : String) :
    ∃ r : Except Fault (Option Nat), ∀ path,
      readPortPart scheme ((readHost .special false cs).2 ++ '/' :: path) =
        r.map fun port => (port, '/' :: path) := by
  rcases h.readHost_snd false with hNone | ⟨port, hPort, hRest⟩
  · rw [hNone]
    exact ⟨.ok none, fun _ => rfl⟩
  · obtain ⟨r, hr⟩ := hRest.exists_readPort none
    rw [hPort]
    refine ⟨r.map fun port => port.filter fun n => defaultPort? scheme ≠ some n, ?_⟩
    intro path
    change (readPort none (port ++ '/' :: path) >>= _) = _
    rw [hr]
    cases r <;> rfl

theorem exists_parseAuthority (h : IsAuthority cs) {scheme : String} (hKind : kind scheme = .special) :
    ∃ r : Except Fault (Option Host × Option Nat), ∀ path, parseAuthority scheme (cs ++ '/' :: path) =
      r.map fun server => ⟨scheme, server.1, server.2, '/' :: path⟩ := by
  obtain ⟨user, hHost, hUser⟩ := h.exists_readUser
  unfold parseAuthority
  simp only [hKind, hUser]
  cases user with
  | error fault => exact ⟨.error fault, fun _ => rfl⟩
  | ok user =>
    have hHost := hHost user rfl
    obtain ⟨port, hPort⟩ := hHost.exists_readPortPart scheme
    simp only [Except.map, ok_bind, hHost.readHost_append, hPort, decide_true, Bool.true_or, if_true]
    split
    · exact ⟨.error .emptyHost, fun _ => rfl⟩
    · cases Host.parse (readHost .special false user.2).1 with
      | error fault => exact ⟨.error fault, fun _ => rfl⟩
      | ok host =>
        refine ⟨port.map fun port => (some host, port), ?_⟩
        intro path
        cases port <;> rfl

end IsAuthority

end Redfish.Url
