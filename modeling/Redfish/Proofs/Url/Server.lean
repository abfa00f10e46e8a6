import Redfish.Proofs.Url.Host
import Redfish.Proofs.Url.Link

/-!
# The name of a server is read back

A server is named by its host and, unless it is the usual one, its port. No part of such a name looks like
another part of a URL, so that behind a scheme it is read as the same host and port.
-/

namespace Redfish.Url

/-! ## Ports -/

theorem le_ofDigitChars (ds : List Char) (n : Nat) : n ≤ Nat.ofDigitChars 10 ds n := by
  induction ds generalizing n with
  | nil => exact Nat.le_refl n
  | cons c ds ih =>
    rw [Nat.ofDigitChars_cons]
    exact Nat.le_trans (by omega) (ih _)

theorem readPort_of_digits {ds : List Char} (hSome : ds ≠ []) (hDigits : ∀ c ∈ ds, c.isDigit = true)
    {port : Option Nat} (h : Nat.ofDigitChars 10 ds (port.getD 0) ≤ 65535) :
    readPort port ds = .ok (some (Nat.ofDigitChars 10 ds (port.getD 0)), []) := by
  induction ds generalizing port with
  | nil => exact absurd rfl hSome
  | cons c ds ih =>
    obtain ⟨hc, hds⟩ := List.forall_mem_cons.mp hDigits
    rw [Nat.ofDigitChars_cons] at h ⊢
    have hBound := Nat.le_trans (le_ofDigitChars ds _) h
    rw [readPort, Ipv4.isDigit_eq, if_pos hc, if_neg (Nat.not_lt.mpr hBound)]
    cases ds with
    | nil => rfl
    | cons d ds => exact ih (List.cons_ne_nil d ds) hds h

def portText (scheme : String) (port : Nat) : String :=
  if defaultPort? scheme = some port then "" else ":" ++ toString port

theorem toList_portText (scheme : String) (port : Nat) : (portText scheme port).toList =
    if defaultPort? scheme = some port then [] else ':' :: Nat.toDigits 10 port := by
  unfold portText
  split
  · rfl
  · simp only [String.toList_append, Nat.toString_eq_ofList_toDigits, String.toList_ofList]
    rfl

theorem of_mem_portText {scheme : String} {port : Nat} {c : Char}
    (h : c ∈ (portText scheme port).toList) : c = ':' ∨ c.isDigit = true := by
  rw [toList_portText] at h
  split at h
  · cases h
  · exact (List.mem_cons.mp h).imp_right (Nat.isDigit_of_mem_toDigits (by decide) (by decide))

theorem readPortPart_portText (scheme : String) {port : Nat} (h : port ≤ 65535) :
    readPortPart scheme (portText scheme port).toList =
      .ok (if defaultPort? scheme = some port then none else some port, []) := by
  rw [toList_portText]
  split
  · rfl
  · rename_i hUnusual
    have hValue : Nat.ofDigitChars 10 (Nat.toDigits 10 port) 0 = port := Nat.ofDigitChars_ten_toDigits
    have hRead : readPort none (Nat.toDigits 10 port) =
        .ok (some (Nat.ofDigitChars 10 (Nat.toDigits 10 port) 0), []) :=
      readPort_of_digits Nat.toDigits_ne_nil
        (fun c hc => Nat.isDigit_of_mem_toDigits (by decide) (by decide) hc)
        (Nat.le_trans (Nat.le_of_eq hValue) h)
    change (readPort none (Nat.toDigits 10 port) >>= _) = _
    rw [hRead, ok_bind, hValue]
    simp [hUnusual, pure, Except.pure]

theorem readPort_le {port port' : Option Nat} {cs rest : List Char} (hStart : ∀ n ∈ port, n ≤ 65535)
    (h : readPort port cs = .ok (port', rest)) : ∀ n ∈ port', n ≤ 65535 := by
  induction cs generalizing port with
  | nil =>
    obtain ⟨rfl, _⟩ := Prod.mk.inj (Except.ok.inj h)
    exact hStart
  | cons c cs ih =>
    rw [readPort] at h
    split at h
    · dsimp only at h
      split at h
      · cases h
      · rename_i hSmall
        refine ih ?_ h
        rintro n ⟨⟩
        exact Nat.not_lt.mp hSmall
    · split at h
      · obtain ⟨rfl, _⟩ := Prod.mk.inj (Except.ok.inj h)
        exact hStart
      · cases h

theorem readPortPart_bounds {scheme : String} {port : Option Nat} {cs rest : List Char}
    (h : readPortPart scheme cs = .ok (port, rest)) :
    ∀ n ∈ port, n ≤ 65535 ∧ defaultPort? scheme ≠ some n := by
  unfold readPortPart at h
  split at h
  · obtain ⟨⟨read, _⟩, hRead, h⟩ := bind_eq_ok_iff.mp h
    obtain ⟨rfl, _⟩ := Prod.mk.inj (Except.ok.inj h)
    intro n hn
    obtain ⟨hn, hUnusual⟩ := Option.filter_eq_some_iff.mp hn
    exact ⟨readPort_le (fun _ hNone => by cases hNone) hRead n hn, of_decide_eq_true hUnusual⟩
  · obtain ⟨rfl, _⟩ := Prod.mk.inj (Except.ok.inj h)
    intro n hn
    cases hn

/-! ## Names of servers -/

/-- Characters that mean nothing in a URL but themselves. -/
def IsPlain (c : Char) : Prop := c ∉ ['/', '\\', '?', '#', '@'] ∧ isBlank c = false

instance : DecidablePred IsPlain := fun _ => inferInstanceAs (Decidable (_ ∧ _))

theorem isPlain_of_isForbidden {c : Char} (h : Domain.isForbidden c = false) : IsPlain c := by
  unfold Domain.isForbidden at h
  obtain ⟨hVisible, hPlain⟩ := Bool.or_eq_false_iff.mp h
  simp only [Bool.or_eq_false_iff, decide_eq_false_iff_not] at hVisible
  refine ⟨?_, decide_eq_false hVisible.1⟩
  simp at hPlain ⊢
  tauto

theorem isPlain_of_isWritten {c : Char} (h : Ipv6.IsWritten c) : IsPlain c := by
  rcases h with rfl | rfl | hDigit
  · decide
  · decide
  · have hMarks : ['/', '\\', '?', '#', '@'].all (Ipv6.digit? · = none) = true := by decide +kernel
    have hBlank : ∀ n : Fin 33, Ipv6.digit? (Char.ofNat n) = none := by decide +kernel
    refine ⟨?_, ?_⟩
    · intro hc
      rw [of_decide_eq_true (List.all_eq_true.mp hMarks c hc)] at hDigit
      cases hDigit
    · refine decide_eq_false ?_
      intro hc
      have hLow : c.toNat < 33 := Nat.lt_succ_of_le hc
      have hNone := hBlank ⟨c.toNat, hLow⟩
      rw [Char.ofNat_toNat] at hNone
      rw [hNone] at hDigit
      cases hDigit

theorem isPlain_of_isDigit {c : Char} (h : c.isDigit = true) : IsPlain c :=
  isPlain_of_isWritten (.inr (.inr (Ipv6.isSome_digit?_of_isDigit h)))

theorem IsPlain.not_endsAuthority {c : Char} (h : IsPlain c) (k : Kind) : endsAuthority k c = false := by
  refine endsAuthority_eq_false ?_ k
  have := h.1
  simp at this ⊢
  tauto

theorem readHost_of_plain {cs rest : List Char} (hPlain : ∀ c ∈ cs, Domain.isForbidden c = false)
    (hRest : ∀ c ∈ rest.head?, c = ':') : readHost .special false (cs ++ rest) = (cs, rest) := by
  induction cs with
  | nil =>
    cases rest with
    | nil => rfl
    | cons c rest =>
      obtain rfl := hRest c rfl
      rfl
  | cons c cs ih =>
    obtain ⟨hc, hcs⟩ := List.forall_mem_cons.mp hPlain
    have hEnds := (isPlain_of_isForbidden hc).not_endsAuthority .special
    have hColon : c ≠ ':' := by
      rintro rfl
      exact absurd hc (by decide)
    have hBracket : c ≠ '[' := by
      rintro rfl
      exact absurd hc (by decide)
    rw [List.cons_append, readHost]
    simp [hEnds, hColon, hBracket, ih hcs]

theorem readHost_brackets {cs rest : List Char} (hWritten : ∀ c ∈ cs, Ipv6.IsWritten c)
    (hRest : ∀ c ∈ rest.head?, c = ':') :
    readHost .special false ('[' :: (cs ++ [']']) ++ rest) = ('[' :: (cs ++ [']']), rest) := by
  have hEnd : readHost .special false rest = ([], rest) :=
    readHost_of_plain (List.forall_mem_nil _) hRest
  have hInside : readHost .special true (cs ++ ']' :: rest) = (cs ++ [']'], rest) := by
    induction cs with
    | nil =>
      change ((']' :: (readHost .special false rest).1, (readHost .special false rest).2) :
        List Char × List Char) = _
      rw [hEnd]
      rfl
    | cons c cs ih =>
      obtain ⟨hc, hcs⟩ := List.forall_mem_cons.mp hWritten
      have hEnds := (isPlain_of_isWritten hc).not_endsAuthority .special
      have hBracket : c ≠ ']' := by
        rintro rfl
        have hNone : Ipv6.digit? ']' = none := by decide +kernel
        simp [Ipv6.IsWritten, hNone] at hc
      rw [List.cons_append, readHost]
      simp [hEnds, hBracket, ih hcs]
  rw [List.cons_append, List.append_assoc]
  change (('[' :: (readHost .special true (cs ++ ']' :: rest)).1,
    (readHost .special true (cs ++ ']' :: rest)).2) : List Char × List Char) = _
  rw [hInside]

/-- A host as it is written has no character of another part, and its end is found. -/
structure Host.IsSeparate (host : Host) : Prop where
  plain : ∀ c ∈ host.written.toList, IsPlain c
  ends : ∀ rest, (∀ c ∈ rest.head?, c = ':') →
    readHost .special false (host.written.toList ++ rest) = (host.written.toList, rest)

theorem Host.isSeparate_ipv6 (groups : List Nat) : (ipv6 groups).IsSeparate where
  plain c hc := by
    rw [toList_written_ipv6] at hc
    simp only [List.mem_cons, List.mem_append, List.not_mem_nil, or_false] at hc
    rcases hc with rfl | hc | rfl
    · decide
    · exact isPlain_of_isWritten (Ipv6.isWritten_of_mem_text hc)
    · decide
  ends rest hRest := by
    rw [toList_written_ipv6]
    exact readHost_brackets (fun c hc => Ipv6.isWritten_of_mem_text hc) hRest

theorem Host.IsRead.isSeparate {host : Host} (h : host.IsRead) : host.IsSeparate := by
  rcases h.ipv6_or_plain with ⟨groups, rfl, _⟩ | ⟨_, hWritten, hPlain⟩
  · exact isSeparate_ipv6 groups
  · rw [← hWritten] at hPlain
    exact ⟨fun c hc => isPlain_of_isForbidden (hPlain c hc), fun _ => readHost_of_plain hPlain⟩

/-! ## Reading names of servers -/

theorem clean_of_visible {text : String} (h : ∀ c ∈ text.toList, isBlank c = false) :
    clean text = text.toList := by
  rw [clean_of_ends (fun c hc => h c (List.mem_of_mem_head? hc)) fun c hc => h c (List.mem_of_getLast? hc)]
  exact List.filter_eq_self.mpr fun c hc => isKept_of_not_blank (h c hc)

theorem parse_of_scheme {scheme : String} (hScheme : scheme ∈ ["http", "https"]) {text : String}
    {cs : List Char} (hText : clean text = (scheme ++ "://").toList ++ cs) :
    parse text = parseAuthority scheme (cs.dropWhile isSlash) := by
  simp only [List.mem_cons, List.not_mem_nil, or_false] at hScheme
  unfold parse
  rw [hText]
  rcases hScheme with rfl | rfl <;> rfl

theorem readUser_of_plain {cs : List Char} (h : ∀ c ∈ cs, IsPlain c) :
    readUser .special cs = .ok (false, cs) := by
  have hAuthority : cs.takeWhile (!endsAuthority .special ·) = cs := by
    rw [List.takeWhile_eq_self_iff]
    intro c hc
    rw [(h c hc).not_endsAuthority]
    rfl
  have hUser : splitAtSign? cs = none := by
    refine if_neg fun hSign => ?_
    exact absurd (h '@' (List.contains_iff_mem.mp hSign)) (by decide)
  unfold readUser
  rw [hAuthority]
  dsimp only
  rw [hUser]

theorem Host.IsSeparate.isPlain {host : Host} (h : host.IsSeparate) (scheme : String) (port : Nat) :
    ∀ c ∈ (host.written ++ portText scheme port).toList, IsPlain c := by
  intro c hc
  rw [String.toList_append] at hc
  rcases List.mem_append.mp hc with hc | hc
  · exact h.plain c hc
  · rcases of_mem_portText hc with rfl | hDigit
    · decide
    · exact isPlain_of_isDigit hDigit

theorem parse_server {scheme : String} (hScheme : scheme ∈ ["http", "https"]) {host : Host}
    (hSeparate : host.IsSeparate) (hHost : Host.parse host.written.toList = .ok host) {port : Nat}
    (hPort : port ≤ 65535) :
    parse (scheme ++ "://" ++ (host.written ++ portText scheme port)) =
      .ok ⟨scheme, some host, if defaultPort? scheme = some port then none else some port, []⟩ := by
  have hColon : ∀ c ∈ (portText scheme port).toList.head?, c = ':' := by
    rw [toList_portText]
    split
    · exact nofun
    · rintro c ⟨⟩
      rfl
  have hStart : (scheme ++ "://").toList.any isBlank = false := by
    simp only [List.mem_cons, List.not_mem_nil, or_false] at hScheme
    rcases hScheme with rfl | rfl <;> rfl
  have hName : ∀ c ∈ host.written.toList ++ (portText scheme port).toList, IsPlain c := by
    rw [← String.toList_append]
    exact hSeparate.isPlain scheme port
  have hText : (scheme ++ "://" ++ (host.written ++ portText scheme port)).toList =
      (scheme ++ "://").toList ++ (host.written.toList ++ (portText scheme port).toList) := by
    rw [String.toList_append, String.toList_append (s := host.written)]
  have hClean : clean (scheme ++ "://" ++ (host.written ++ portText scheme port)) =
      (scheme ++ "://").toList ++ (host.written.toList ++ (portText scheme port).toList) := by
    rw [clean_of_visible, hText]
    rw [hText]
    intro c hc
    rcases List.mem_append.mp hc with hc | hc
    · exact Bool.eq_false_of_not_eq_true (List.any_eq_false.mp hStart c hc)
    · exact (hName c hc).2
  have hSlash : ∀ c ∈ (host.written.toList ++ (portText scheme port).toList).head?, isSlash c = false := by
    intro c hc
    have := (hName c (List.mem_of_mem_head? hc)).1
    refine isSlash_eq_false ?_
    simp at this ⊢
    tauto
  have hKind : kind scheme = .special := by
    simp only [List.mem_cons, List.not_mem_nil, or_false] at hScheme
    rcases hScheme with rfl | rfl <;> rfl
  have hSome : ¬host.written.toList.isEmpty = true := by
    intro hEmpty
    have hNone : Host.parse [] = .error .emptyHost := by decide +kernel
    rw [List.isEmpty_iff.mp hEmpty, hNone] at hHost
    cases hHost
  rw [parse_of_scheme hScheme hClean, dropWhile_of_head? hSlash]
  unfold parseAuthority
  dsimp only
  rw [hKind, readUser_of_plain hName, ok_bind]
  dsimp only
  rw [hSeparate.ends _ hColon]
  dsimp only
  rw [if_neg hSome, if_pos rfl, hHost, ok_bind, readPortPart_portText scheme hPort]
  rfl

/-! ## What URLs name -/

theorem parseFile_scheme {cs : List Char} {url : Url} (h : parseFile cs = .ok url) : url.scheme = "file" := by
  unfold parseFile at h
  dsimp only at h
  split at h
  · rw [← Except.ok.inj h]
  · obtain ⟨host, _, h⟩ := bind_eq_ok_iff.mp h
    split at h <;> rw [← Except.ok.inj h]

/-- The server that a URL of a special kind names: a host that was read and, if it is not the usual one,
a port. -/
structure NamesServer (url : Url) : Prop where
  host : ∀ host ∈ url.host, host.IsRead
  port : ∀ n ∈ url.port, n ≤ 65535 ∧ defaultPort? url.scheme ≠ some n

theorem NamesServer.port_le {url : Url} (h : NamesServer url) (hScheme : url.scheme ∈ ["http", "https"])
    {port : Nat} (hPort : url.portOrDefault = some port) : port ≤ 65535 := by
  unfold portOrDefault at hPort
  cases hNamed : url.port with
  | some n =>
    rw [hNamed] at hPort
    obtain rfl := Option.some.inj hPort
    exact (h.port _ hNamed).1
  | none =>
    rw [hNamed] at hPort
    simp only [List.mem_cons, List.not_mem_nil, or_false] at hScheme
    rcases hScheme with hScheme | hScheme
    · rw [hScheme] at hPort
      obtain rfl := Option.some.inj hPort
      decide
    · rw [hScheme] at hPort
      obtain rfl := Option.some.inj hPort
      decide

theorem namesServer_of_none (scheme : String) (rest : List Char) :
    NamesServer ⟨scheme, none, none, rest⟩ where
  host _ h := by cases h
  port _ h := by cases h

theorem parseAuthority_spec {scheme : String} {cs : List Char} {url : Url}
    (h : parseAuthority scheme cs = .ok url) :
    url.scheme = scheme ∧ (kind scheme = .special → NamesServer url) := by
  unfold parseAuthority at h
  dsimp only at h
  obtain ⟨⟨hasUser, cs⟩, _, h⟩ := bind_eq_ok_iff.mp h
  dsimp only at h
  split at h
  · split at h
    · cases h
    · rw [← Except.ok.inj h]
      exact ⟨rfl, fun _ => namesServer_of_none scheme _⟩
  · split at h
    · obtain ⟨host, hHost, h⟩ := bind_eq_ok_iff.mp h
      obtain ⟨⟨port, rest⟩, hPort, h⟩ := bind_eq_ok_iff.mp h
      rw [← Except.ok.inj h]
      refine ⟨rfl, fun _ => ⟨?_, readPortPart_bounds hPort⟩⟩
      rintro _ ⟨⟩
      exact Host.isRead_of_parse hHost
    · rename_i hOther
      obtain ⟨host, _, h⟩ := bind_eq_ok_iff.mp h
      obtain ⟨_, _, h⟩ := bind_eq_ok_iff.mp h
      rw [← Except.ok.inj h]
      exact ⟨rfl, fun hSpecial => absurd hSpecial hOther⟩

theorem namesServer_of_parse {text : String} {url : Url} (h : parse text = .ok url)
    (hScheme : url.scheme ∈ ["http", "https"]) : NamesServer url := by
  have hSpecial : kind url.scheme = .special := by
    simp only [List.mem_cons, List.not_mem_nil, or_false] at hScheme
    rcases hScheme with hScheme | hScheme <;> rw [hScheme] <;> rfl
  unfold parse at h
  split at h
  · cases h
  · split at h
    · rename_i hKind _
      exact (parseAuthority_spec h).2 hKind
    · split at h
      · rw [parseFile_scheme h] at hSpecial
        cases hSpecial
      · rw [← Except.ok.inj h]
        exact namesServer_of_none _ _
    · obtain ⟨hSame, hServer⟩ := parseAuthority_spec h
      exact hServer (hSame ▸ hSpecial)
    · rw [← Except.ok.inj h]
      exact namesServer_of_none _ _

end Redfish.Url
