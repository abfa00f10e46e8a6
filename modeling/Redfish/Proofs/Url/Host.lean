import Redfish.Proofs.Url.Ipv6
import Redfish.Url.Host

/-!
# Hosts are read back

A host that was read is a domain in ASCII or an address within its bounds. As it is written in a URL it
is read as the same host, if a domain in ASCII stands for itself.
-/

namespace Redfish.Url

theorem percentDecode_of_plain {bs : Bytes} (h : 0x25 ∉ bs) : percentDecode bs = bs := by
  fun_induction percentDecode bs with
  | case1 => exact absurd List.mem_cons_self h
  | case2 => exact absurd List.mem_cons_self h
  | case3 b rest _ ih => rw [ih fun hb => h (List.mem_cons_of_mem b hb)]
  | case4 => rfl

theorem text?_percentDecode {cs : List Char} (h : '%' ∉ cs) :
    (percentDecode (Bytes.ofText (String.ofList cs))).text? = some (String.ofList cs) := by
  have hPlain : (Bytes.ofText (String.ofList cs)).all (· != 0x25) = true := by
    rw [Bytes.all_ofText_of_class (q := (· != '%')), String.toList_ofList, List.all_eq_true]
    · intro c hc
      exact bne_iff_ne.mpr fun hPercent => h (hPercent ▸ hc)
    · intro c hAscii
      rw [Bool.eq_iff_iff, bne_iff_ne, bne_iff_ne, ← Char.toNat_inj.ne, ← UInt8.toNat_inj.ne,
        Bytes.toNat_toUInt8 hAscii]
      rfl
    · intro c hHigh b hb
      have hByte : b ≠ 0x25 := by
        rintro rfl
        exact absurd hb (by decide)
      have hChar : c ≠ '%' := by
        rintro rfl
        exact hHigh (by decide)
      rw [bne_iff_ne.mpr hByte, bne_iff_ne.mpr hChar]
  rw [percentDecode_of_plain, Bytes.text?_ofText]
  intro hPercent
  exact absurd (List.all_eq_true.mp hPlain _ hPercent) (by decide)

namespace Domain

theorem isForbidden_of_toAscii {name ascii : List Char} (h : toAscii name = .ok ascii) :
    ∀ c ∈ ascii, isForbidden c = false := by
  unfold toAscii at h
  split at h
  · cases h
  · dsimp only at h
    split at h
    · cases h
    · rename_i hPlain
      obtain rfl := Except.ok.inj h
      intro c hc
      simp only [List.any_eq_true, not_exists, not_and, Bool.not_eq_true] at hPlain
      exact hPlain c hc

theorem isAscii_toDigits (n : Nat) : isAscii (Nat.toDigits 10 n) = true := by
  unfold isAscii
  rw [List.all_eq_true]
  intro c hc
  have hDigit : c.isDigit = true := Nat.isDigit_of_mem_toDigits (by decide) (by decide) hc
  exact decide_eq_true (Json.Numeral.isDigit_toUInt8 hDigit).1

theorem of?_toDigits (n : Nat) :
    Label.of? (Nat.toDigits 10 n) = some ⟨Nat.toDigits 10 n, Nat.toDigits 10 n⟩ := by
  unfold Label.of?
  split
  · rename_i hMarked
    have hDigit : 'x'.isDigit = true :=
      Nat.isDigit_of_mem_toDigits (b := 10) (n := n) (by decide) (by decide)
        (hMarked ▸ List.mem_cons_self)
    exact absurd hDigit (by decide)
  · rw [if_pos (isAscii_toDigits n)]

theorem directionsFit_of_ascii {labels : List Label} (h : ∀ l ∈ labels, isAscii l.spelling = true) :
    Label.directionsFit labels = true := by
  unfold Label.directionsFit
  dsimp only
  rw [Bool.or_eq_true, Bool.not_eq_true', List.any_eq_false]
  refine .inl fun l hl => ?_
  rw [h l hl]
  exact Bool.false_ne_true

theorem plain_text {a : Nat} {c : Char} (h : c ∈ (Ipv4.text a).toList) :
    c.toNat < 0x80 ∧ c.toLower = c ∧ isForbidden c = false := by
  have hDigit : ∀ d : Fin 10, (Nat.digitChar d).toNat < 0x80 ∧
      (Nat.digitChar d).toLower = Nat.digitChar d ∧ isForbidden (Nat.digitChar d) = false := by decide
  rcases Ipv4.of_mem_text h with rfl | hc
  · decide
  · obtain ⟨d, rfl⟩ := exists_digitChar hc
    exact hDigit d

theorem meaning?_text (a : Nat) : meaning? (Ipv4.text a).toList = some (Ipv4.text a).toList := by
  have hAscii : isAscii (Ipv4.text a).toList = true :=
    List.all_eq_true.mpr fun c hc => decide_eq_true (plain_text hc).1
  unfold meaning?
  rw [if_pos hAscii, List.map_congr_left fun c hc => (plain_text hc).2.1, List.map_id']

theorem labels?_text (a : Nat) : labels? (Ipv4.text a).toList =
    some ((Ipv4.octets a).map fun n => ⟨Nat.toDigits 10 n, Nat.toDigits 10 n⟩) := by
  unfold labels?
  rw [meaning?_text, Option.bind_eq_bind, Option.bind_some, Ipv4.splitOn_text,
    mapM_map fun n _ => of?_toDigits n]
  refine if_pos (directionsFit_of_ascii ?_)
  intro l hl
  obtain ⟨n, _, rfl⟩ := List.mem_map.mp hl
  exact isAscii_toDigits n

theorem toAscii_text (a : Nat) : toAscii (Ipv4.text a).toList = .ok (Ipv4.text a).toList := by
  have hPlain : (Ipv4.text a).toList.any isForbidden = false := by
    rw [List.any_eq_false]
    intro c hc
    rw [(plain_text hc).2.2]
    exact Bool.false_ne_true
  have hJoined : ['.'].intercalate (((Ipv4.octets a).map fun n =>
      (⟨Nat.toDigits 10 n, Nat.toDigits 10 n⟩ : Label)).map (·.ascii)) = (Ipv4.text a).toList := by
    rw [List.map_map]
    exact (Ipv4.toList_text a).symm
  unfold toAscii
  rw [labels?_text]
  dsimp only
  rw [hJoined, hPlain]
  rfl

end Domain

namespace Host

inductive IsRead : Host → Prop
  | domain {source name : List Char} (hName : Domain.toAscii source = .ok name) (hSome : name ≠ [])
      (hNumber : Ipv4.endsInNumber name = false) : IsRead (.domain (String.ofList name))
  | ipv4 {address : Nat} (h : address < 2 ^ 32) : IsRead (.ipv4 address)
  | ipv6 {groups : List Nat} (h : Ipv6.IsAddress groups) : IsRead (.ipv6 groups)

theorem isRead_of_bracketed? {cs : List Char} {host : Host} (h : bracketed? cs = some (.ok host)) :
    host.IsRead := by
  unfold bracketed? at h
  split at h
  · have h := Option.some.inj h
    split at h
    · obtain ⟨groups, hGroups, rfl⟩ := map_eq_ok_iff.mp h
      exact .ipv6 (Ipv6.isAddress_of_parse hGroups)
    · cases h
  · cases h

theorem bracketed?_brackets (cs : List Char) :
    bracketed? ('[' :: (cs ++ [']'])) = some ((Ipv6.parse cs).map ipv6) := by
  simp [bracketed?]

def ofName (decoded : List Char) : Except Fault Host := do
  let name ← Domain.toAscii decoded
  if name.isEmpty then throw .emptyHost
  if Ipv4.endsInNumber name then return ipv4 (← Ipv4.parse name)
  return domain (String.ofList name)

theorem isRead_of_ofName {decoded : List Char} {host : Host} (h : ofName decoded = .ok host) :
    host.IsRead := by
  obtain ⟨name, hName, h⟩ := bind_eq_ok_iff.mp h
  cases name with
  | nil => cases h
  | cons c cs =>
    change (if Ipv4.endsInNumber (c :: cs) = true then Ipv4.parse (c :: cs) >>= fun a => pure (ipv4 a)
      else pure (domain (String.ofList (c :: cs)))) = _ at h
    split at h
    · obtain ⟨a, ha, h⟩ := bind_eq_ok_iff.mp h
      obtain rfl := Except.ok.inj h
      exact .ipv4 (Ipv4.lt_of_parse ha)
    · rename_i hNumber
      obtain rfl := Except.ok.inj h
      exact .domain hName (List.cons_ne_nil c cs) (Bool.not_eq_true _ ▸ hNumber)

theorem isRead_of_parse {cs : List Char} {host : Host} (h : parse cs = .ok host) : host.IsRead := by
  unfold parse at h
  split at h
  · rename_i hBracketed
    exact isRead_of_bracketed? (h ▸ hBracketed)
  · dsimp only at h
    split at h
    · exact isRead_of_ofName h
    · cases h

/-- The host as it is written in a URL. -/
def written : Host → String
  | ipv6 groups => "[" ++ Ipv6.text groups ++ "]"
  | host => host.text

@[simp] theorem written_domain (name : String) : (domain name).written = name := rfl

@[simp] theorem written_ipv4 (address : Nat) : (ipv4 address).written = Ipv4.text address := rfl

theorem toList_written_ipv6 (groups : List Nat) :
    (ipv6 groups).written.toList = '[' :: ((Ipv6.text groups).toList ++ [']']) := by
  change ("[" ++ Ipv6.text groups ++ "]").toList = _
  rw [String.toList_append, String.toList_append]
  rfl

theorem IsRead.exists_source {name : String} (h : (Host.domain name).IsRead) :
    ∃ source, Domain.toAscii source = .ok name.toList := by
  cases h with
  | domain hName => exact ⟨_, hName.trans (congrArg Except.ok String.toList_ofList.symm)⟩

theorem IsRead.ipv6_or_plain {host : Host} (h : host.IsRead) :
    (∃ groups, host = .ipv6 groups ∧ Ipv6.IsAddress groups) ∨
      (∀ groups, host ≠ .ipv6 groups) ∧ host.written = host.text ∧
        ∀ c ∈ host.text.toList, Domain.isForbidden c = false := by
  cases h with
  | domain hName =>
    refine .inr ⟨nofun, rfl, ?_⟩
    rw [text, String.toList_ofList]
    exact Domain.isForbidden_of_toAscii hName
  | @ipv4 address =>
    exact .inr ⟨nofun, rfl, Domain.isForbidden_of_toAscii (Domain.toAscii_text address)⟩
  | ipv6 hGroups => exact .inl ⟨_, rfl, hGroups⟩

theorem parse_of_plain {cs : List Char} (hAscii : Domain.toAscii cs = .ok cs) :
    parse cs = ofName cs := by
  have hPlain := Domain.isForbidden_of_toAscii hAscii
  have hPercent : '%' ∉ cs := by
    intro h
    exact absurd (hPlain _ h) (by decide)
  have hBracketed : bracketed? cs = none := by
    unfold bracketed?
    split
    · exact absurd (hPlain '[' List.mem_cons_self) (by decide)
    · rfl
  unfold parse
  rw [hBracketed, text?_percentDecode hPercent]
  dsimp only
  rw [String.toList_ofList]
  rfl

theorem parse_written {host : Host} (h : host.IsRead)
    (hIdempotent : ∀ name, host = domain name → Domain.toAscii name.toList = .ok name.toList) :
    parse host.written.toList = .ok host := by
  cases h with
  | domain hName hSome hNumber =>
    rename_i source name
    have hAscii := hIdempotent _ rfl
    rw [String.toList_ofList] at hAscii
    rw [written_domain, String.toList_ofList, parse_of_plain hAscii, ofName, hAscii, ok_bind,
      if_neg (by simpa using hSome), hNumber]
    rfl
  | ipv4 hAddress =>
    rename_i a
    have hSome : ¬(Ipv4.text a).toList.isEmpty = true := by
      have hNumber := Ipv4.endsInNumber_text a
      intro hEmpty
      rw [List.isEmpty_iff.mp hEmpty] at hNumber
      exact absurd hNumber (by decide)
    rw [written_ipv4, parse_of_plain (Domain.toAscii_text a), ofName, Domain.toAscii_text, ok_bind,
      if_neg hSome, Ipv4.endsInNumber_text, Ipv4.parse_text hAddress]
    rfl
  | ipv6 hGroups =>
    rename_i groups
    unfold parse
    rw [toList_written_ipv6, bracketed?_brackets, Ipv6.parse_text hGroups]
    rfl

end Host

end Redfish.Url
