import Redfish.Proofs.Url.Ipv4
import Redfish.Url.Ipv6

/-!
# IPv6 addresses are read back

Whatever notation an address was read from, it is eight groups below 65536. In its usual form the groups
before and after the longest run of zeros are read as they are written, and the two colons between them
stand for what is missing.
-/

namespace Redfish.Url.Ipv6

open Ipv4 (addDigit?)

structure IsAddress (groups : List Nat) : Prop where
  length_eq : groups.length = 8
  group_lt : ∀ n ∈ groups, n < 65536

theorem value?_bounds {b : UInt8} {d : Nat} (h : Hex.value? b = some d) : b.toNat < 128 ∧ d < 16 := by
  unfold Hex.value? at h
  simp only [UInt8.le_iff_toNat_le] at h
  split at h
  · rename_i hDigit
    obtain rfl := Option.some.inj h
    have hHigh : b.toNat ≤ 0x39 := hDigit.2
    omega
  · split at h
    · rename_i hCapital
      obtain rfl := Option.some.inj h
      have hHigh : b.toNat ≤ 0x46 := hCapital.2
      omega
    · split at h
      · rename_i hSmall
        obtain rfl := Option.some.inj h
        have hHigh : b.toNat ≤ 0x66 := hSmall.2
        omega
      · cases h

theorem digit?_lt {c : Char} {d : Nat} (h : digit? c = some d) : d < 16 := by
  have hBytes : Bytes.ofText c.toString = String.utf8EncodeChar c := by
    rw [show c.toString = String.ofList [c] from String.singleton_eq_ofList, Bytes.ofText_ofList,
      List.flatMap_singleton]
  unfold digit? Hex.number? at h
  rw [hBytes] at h
  by_cases hAscii : c.toNat < 128
  · rw [Bytes.utf8EncodeChar_of_lt hAscii, List.foldlM_cons] at h
    obtain ⟨n, hn, h⟩ := Option.bind_eq_some_iff.mp h
    obtain ⟨value, hValue, rfl⟩ := Option.map_eq_some_iff.mp hn
    obtain rfl := Option.some.inj h
    have hBound := (value?_bounds hValue).2
    omega
  · have hHigh := Bytes.le_of_mem_utf8EncodeChar hAscii
    cases hChar : String.utf8EncodeChar c with
    | nil => exact absurd hChar String.utf8EncodeChar_ne_nil
    | cons b bs =>
      rw [hChar, List.foldlM_cons] at h
      obtain ⟨n, hn, _⟩ := Option.bind_eq_some_iff.mp h
      obtain ⟨value, hValue, _⟩ := Option.map_eq_some_iff.mp hn
      have hLow := (value?_bounds hValue).1
      have := hHigh b (hChar ▸ List.mem_cons_self)
      omega

/-- What is read of a group are digits, at most so many of them. -/
theorem readGroup_lt (count value : Nat) (cs : List Char) :
    (readGroup count value cs).1 < 16 ^ count * (value + 1) := by
  have hStop (k value : Nat) : value < 16 ^ k * (value + 1) :=
    Nat.lt_of_lt_of_le (Nat.lt_succ_self value) (Nat.le_mul_of_pos_left _ (Nat.pow_pos (by decide)))
  induction count generalizing value cs with
  | zero => exact hStop 0 value
  | succ count ih =>
    cases cs with
    | nil => exact hStop _ value
    | cons c cs =>
      simp only [readGroup]
      cases hDigit : digit? c with
      | none => exact hStop _ value
      | some d =>
        have hd := digit?_lt hDigit
        calc (readGroup count (16 * value + d) cs).1
          _ < 16 ^ count * (16 * value + d + 1) := ih _ _
          _ ≤ 16 ^ count * (16 * (value + 1)) := Nat.mul_le_mul_left _ (by omega)
          _ = 16 ^ (count + 1) * (value + 1) := by rw [Nat.pow_succ, Nat.mul_assoc]

theorem embeddedPart?_le {cs : List Char} {n : Nat} (h : embeddedPart? cs = some n) : n ≤ 255 := by
  unfold embeddedPart? at h
  split at h
  · cases h
  · obtain rfl := Option.some.inj h
    omega
  · cases h
  · obtain ⟨_, hSmall⟩ := Option.filter_eq_some_iff.mp h
    exact of_decide_eq_true hSmall

theorem embedded?_lt {cs : List Char} {a b : Nat} (h : embedded? cs = some (a, b)) :
    a < 65536 ∧ b < 65536 := by
  unfold embedded? at h
  obtain ⟨ns, hns, h⟩ := Option.bind_eq_some_iff.mp h
  have hParts : ∀ n ∈ ns, n ≤ 255 := by
    intro n hn
    obtain ⟨_, _, hp⟩ := exists_of_mem_mapM hns n hn
    exact embeddedPart?_le hp
  split at h
  · obtain ⟨rfl, rfl⟩ := Prod.mk.inj (Option.some.inj h)
    simp only [List.forall_mem_cons] at hParts
    omega
  · cases h

def Groups.InRange (g : Groups) : Prop := ∀ n ∈ g.read, n < 65536

theorem Groups.InRange.push {g : Groups} (h : g.InRange) {n : Nat} (hn : n < 65536) :
    (g.push n).InRange := by
  intro m hm
  rcases List.mem_append.mp hm with hm | hm
  · exact h m hm
  · exact List.mem_singleton.mp hm ▸ hn

theorem inRange_of_readGroups {fuel : Nat} {g g' : Groups} {cs : List Char} (hStart : g.InRange)
    (h : readGroups fuel g cs = some g') : g'.InRange := by
  induction fuel generalizing g cs with
  | zero =>
    cases cs with
    | nil => exact Option.some.inj h ▸ hStart
    | cons c cs => cases h
  | succ fuel ih =>
    cases cs with
    | nil => exact Option.some.inj h ▸ hStart
    | cons c cs =>
      have hGroup := readGroup_lt 4 0 (c :: cs)
      simp only [readGroups] at h
      split at h
      · cases h
      · split at h
        · split at h
          · cases h
          · exact ih (g := { g with gap := some g.read.length }) hStart h
        · split at h
          · rename_i n hRead
            rw [hRead] at hGroup
            exact Option.some.inj h ▸ hStart.push hGroup
          · rename_i n rest hRead
            rw [hRead] at hGroup
            split at h
            · cases h
            · exact ih (hStart.push hGroup) h
          · split at h
            · obtain ⟨⟨a, b⟩, hEmbedded, rfl⟩ := Option.map_eq_some_iff.mp h
              obtain ⟨ha, hb⟩ := embedded?_lt hEmbedded
              exact (hStart.push ha).push hb
            · cases h
          · cases h

theorem Groups.InRange.isAddress {g : Groups} (h : g.InRange) {groups : List Nat}
    (hComplete : g.complete? = some groups) : IsAddress groups := by
  unfold complete? at hComplete
  split at hComplete
  · split at hComplete
    · rename_i hLength
      obtain rfl := Option.some.inj hComplete
      exact ⟨hLength, h⟩
    · cases hComplete
  · rename_i at_ _
    split at hComplete
    · rename_i hLength
      obtain rfl := Option.some.inj hComplete
      refine ⟨?_, ?_⟩
      · rw [List.length_append, List.length_append, List.length_replicate, List.length_take,
          List.length_drop]
        omega
      · intro n hn
        rcases List.mem_append.mp hn with hn | hn
        · rcases List.mem_append.mp hn with hn | hn
          · exact h n (List.mem_of_mem_take hn)
          · rw [List.eq_of_mem_replicate hn]
            decide
        · exact h n (List.mem_of_mem_drop hn)
    · cases hComplete

theorem isAddress_of_parse {cs : List Char} {groups : List Nat} (h : parse cs = .ok groups) :
    IsAddress groups := by
  have hNone (gap : Option Nat) : Groups.InRange ⟨[], gap⟩ := List.forall_mem_nil _
  unfold parse at h
  dsimp only at h
  split at h
  · rename_i hGroups
    obtain rfl := Except.ok.inj h
    obtain ⟨g, hg, hComplete⟩ := Option.bind_eq_some_iff.mp hGroups
    refine Groups.InRange.isAddress ?_ hComplete
    split at hg
    · exact inRange_of_readGroups (hNone _) hg
    · cases hg
    · cases hg
    · cases hg
    · exact inRange_of_readGroups (hNone _) hg
  · cases h

/-! ## Groups as they are written -/

def joined (ns : List Nat) : List Char := [':'].intercalate (ns.map (Nat.toDigits 16))

theorem toList_groupsText (ns : List Nat) : (groupsText ns).toList = joined ns := by
  unfold groupsText joined
  rw [String.toList_intercalate, List.map_map]
  congr 2
  funext n
  exact String.toList_ofList

theorem joined_cons (n : Nat) {ns : List Nat} (h : ns ≠ []) :
    joined (n :: ns) = Nat.toDigits 16 n ++ ':' :: joined ns := by
  unfold joined
  rw [List.map_cons, List.intercalate_cons_of_ne_nil (by simpa using h)]
  simp

theorem length_le_joined (ns : List Nat) : ns.length ≤ (joined ns).length := by
  induction ns with
  | nil => exact Nat.le_refl 0
  | cons n ns ih =>
    have hDigits : 1 ≤ (Nat.toDigits 16 n).length := Nat.length_toDigits_pos
    cases ns with
    | nil => simpa [joined] using hDigits
    | cons m ns =>
      rw [joined_cons n (List.cons_ne_nil _ _)]
      simp only [List.length_append, List.length_cons] at ih ⊢
      omega

theorem isSome_digit?_of_foldlM {base value n : Nat} {ds : List Char}
    (h : ds.foldlM (addDigit? base) value = some n) : ∀ c ∈ ds, (digit? c).isSome = true := by
  induction ds generalizing value with
  | nil => exact nofun
  | cons c ds ih =>
    rw [List.foldlM_cons] at h
    obtain ⟨next, hNext, h⟩ := Option.bind_eq_some_iff.mp h
    refine List.forall_mem_cons.mpr ⟨?_, ih h⟩
    unfold digit?
    unfold addDigit? at hNext
    split at hNext
    · rename_i hDigit
      rw [hDigit]
      rfl
    · cases hNext

theorem isSome_digit?_of_mem_toDigits {base n : Nat} (hLow : 1 < base) (hHigh : base ≤ 16) {c : Char}
    (hc : c ∈ Nat.toDigits base n) : (digit? c).isSome = true :=
  isSome_digit?_of_foldlM (Ipv4.digits?_toDigits hLow hHigh n) c hc

theorem isSome_digit?_of_isDigit {c : Char} (h : c.isDigit = true) : (digit? c).isSome = true := by
  obtain ⟨d, rfl⟩ := exists_digitChar h
  rw [digit?, number?_digitChar (by omega)]
  rfl

theorem readGroup_of_digits {count value n : Nat} {ds rest : List Char}
    (h : ds.foldlM (addDigit? 16) value = some n) (hCount : ds.length ≤ count)
    (hRest : ∀ c ∈ rest.head?, digit? c = none) : readGroup count value (ds ++ rest) = (n, rest) := by
  induction ds generalizing count value with
  | nil =>
    obtain rfl := Option.some.inj h
    cases count with
    | zero => rfl
    | succ count =>
      cases rest with
      | nil => rfl
      | cons c rest => simp [readGroup, hRest c rfl]
  | cons c ds ih =>
    obtain ⟨count, rfl⟩ := Nat.exists_eq_add_of_le' (Nat.le_trans (Nat.succ_pos ds.length) hCount)
    rw [List.foldlM_cons] at h
    obtain ⟨next, hNext, h⟩ := Option.bind_eq_some_iff.mp h
    unfold addDigit? at hNext
    split at hNext
    · rename_i d hDigit
      have hDigit : digit? c = some d := hDigit
      rw [if_pos (digit?_lt hDigit)] at hNext
      obtain rfl := Option.some.inj hNext
      simp only [List.cons_append, readGroup, hDigit]
      exact ih h (Nat.le_of_succ_le_succ hCount)
    · cases hNext

theorem readGroup_toDigits {n : Nat} (h : n < 65536) {rest : List Char}
    (hRest : ∀ c ∈ rest.head?, digit? c = none) :
    readGroup 4 0 (Nat.toDigits 16 n ++ rest) = (n, rest) := by
  refine readGroup_of_digits (Ipv4.digits?_toDigits (by decide) (by decide) n) ?_ hRest
  exact (Nat.length_toDigits_le_iff (by decide) (by decide)).mpr h

theorem exists_toDigits (n : Nat) :
    ∃ c cs, Nat.toDigits 16 n = c :: cs ∧ c ≠ ':' := by
  cases hDigits : Nat.toDigits 16 n with
  | nil => exact absurd hDigits Nat.toDigits_ne_nil
  | cons c cs =>
    refine ⟨c, cs, rfl, ?_⟩
    rintro rfl
    have hColon : (digit? ':').isSome = true :=
      isSome_digit?_of_mem_toDigits (by decide) (by decide) (hDigits ▸ List.mem_cons_self)
    exact absurd hColon (by decide +kernel)

theorem readGroups_last (fuel : Nat) {g : Groups} (hPlaces : g.places < 8) {n : Nat} (h : n < 65536) :
    readGroups (fuel + 1) g (Nat.toDigits 16 n) = some (g.push n) := by
  have hRead : readGroup 4 0 (Nat.toDigits 16 n ++ []) = (n, []) := readGroup_toDigits h nofun
  obtain ⟨c, cs, hDigits, hColon⟩ := exists_toDigits n
  rw [List.append_nil, hDigits] at hRead
  rw [hDigits]
  simp only [readGroups]
  rw [if_neg (Nat.ne_of_lt hPlaces), if_neg hColon, hRead]

theorem readGroups_colon (fuel : Nat) {g : Groups} (hPlaces : g.places < 8) {n : Nat} (h : n < 65536)
    {rest : List Char} (hRest : rest ≠ []) :
    readGroups (fuel + 1) g (Nat.toDigits 16 n ++ ':' :: rest) = readGroups fuel (g.push n) rest := by
  have hStop : ∀ c ∈ (':' :: rest).head?, digit? c = none := by
    rintro c ⟨⟩
    decide +kernel
  have hRead := readGroup_toDigits h hStop
  obtain ⟨c, cs, hDigits, hColon⟩ := exists_toDigits n
  rw [hDigits, List.cons_append] at hRead ⊢
  simp only [readGroups]
  rw [if_neg (Nat.ne_of_lt hPlaces), if_neg hColon, hRead]
  simp [hRest]

def Groups.pushAll (ns : List Nat) (g : Groups) : Groups := { g with read := g.read ++ ns }

theorem Groups.pushAll_cons (n : Nat) (ns : List Nat) (g : Groups) :
    g.pushAll (n :: ns) = (g.push n).pushAll ns := by
  simp [pushAll, push]

theorem Groups.places_push (n : Nat) (g : Groups) : (g.push n).places = g.places + 1 := by
  unfold places push
  rw [List.length_append]
  dsimp only
  exact Nat.add_right_comm _ _ _

theorem readGroups_joined {ns : List Nat} (h : ∀ n ∈ ns, n < 65536) {fuel : Nat}
    (hFuel : ns.length ≤ fuel) {g : Groups} (hPlaces : g.places + ns.length ≤ 8) :
    readGroups fuel g (joined ns) = some (g.pushAll ns) := by
  induction ns generalizing fuel g with
  | nil => cases fuel <;> simp [joined, readGroups, Groups.pushAll]
  | cons n ns ih =>
    obtain ⟨fuel, rfl⟩ := Nat.exists_eq_add_of_le' (Nat.le_trans (Nat.succ_pos ns.length) hFuel)
    obtain ⟨hn, hns⟩ := List.forall_mem_cons.mp h
    rw [List.length_cons] at hFuel hPlaces
    have hRoom : g.places < 8 := by omega
    rw [Groups.pushAll_cons]
    by_cases hLast : ns = []
    · subst hLast
      simpa [joined, Groups.pushAll] using readGroups_last fuel hRoom hn
    · have hRest : joined ns ≠ [] := List.ne_nil_of_length_pos
        (Nat.lt_of_lt_of_le (List.length_pos_iff.mpr hLast) (length_le_joined ns))
      rw [joined_cons n hLast, readGroups_colon fuel hRoom hn hRest]
      refine ih hns (Nat.le_of_succ_le_succ hFuel) ?_
      rw [Groups.places_push]
      omega

/-- Groups before two colons, the first of which belongs to the last of the groups. -/
theorem readGroups_joined_colon {ns : List Nat} (hSome : ns ≠ []) (h : ∀ n ∈ ns, n < 65536) (fuel : Nat)
    {g : Groups} (hPlaces : g.places + ns.length ≤ 8) {rest : List Char} (hRest : rest ≠ []) :
    readGroups (fuel + ns.length) g (joined ns ++ ':' :: rest) = readGroups fuel (g.pushAll ns) rest := by
  induction ns generalizing g with
  | nil => exact absurd rfl hSome
  | cons n ns ih =>
    obtain ⟨hn, hns⟩ := List.forall_mem_cons.mp h
    rw [List.length_cons] at hPlaces
    have hRoom : g.places < 8 := by omega
    rw [Groups.pushAll_cons, List.length_cons, ← Nat.add_assoc]
    by_cases hLast : ns = []
    · subst hLast
      simpa [joined, Groups.pushAll] using readGroups_colon fuel hRoom hn hRest
    · rw [joined_cons n hLast, List.append_assoc, List.cons_append,
        readGroups_colon (fuel + ns.length) hRoom hn (by simp)]
      refine ih hLast hns ?_
      rw [Groups.places_push]
      omega

theorem parse_of_read {cs : List Char} (hFirst : cs.head? ≠ some ':') (hLength : 2 ≤ cs.length)
    {g : Groups} (hRead : readGroups cs.length ⟨[], none⟩ cs = some g) {groups : List Nat}
    (hComplete : g.complete? = some groups) : parse cs = .ok groups := by
  unfold parse
  split
  · exact absurd rfl hFirst
  · exact absurd rfl hFirst
  · exact absurd hLength (by decide)
  · exact absurd hLength (by simp)
  · dsimp only
    rw [hRead, Option.bind_some, hComplete]

theorem parse_of_read_gap {cs : List Char} {g : Groups}
    (hRead : readGroups cs.length ⟨[], some 0⟩ cs = some g) {groups : List Nat}
    (hComplete : g.complete? = some groups) : parse (':' :: ':' :: cs) = .ok groups := by
  simp only [parse, hRead, Option.bind_some, hComplete]

theorem head?_joined_append {ns : List Nat} (h : ns ≠ []) (rest : List Char) :
    (joined ns ++ rest).head? ≠ some ':' := by
  obtain ⟨n, ns, rfl⟩ := List.exists_cons_of_ne_nil h
  obtain ⟨c, cs, hDigits, hColon⟩ := exists_toDigits n
  have hHead : (joined (n :: ns)).head? = some c := by
    by_cases hLast : ns = []
    · subst hLast
      simp [joined, hDigits]
    · rw [joined_cons n hLast, hDigits]
      rfl
  rw [List.head?_append, hHead]
  exact fun hc => hColon (Option.some.inj hc)

theorem parse_joined {ns : List Nat} (h : IsAddress ns) : parse (joined ns) = .ok ns := by
  have hSome : ns ≠ [] := List.ne_nil_of_length_pos (by rw [h.length_eq]; decide)
  have hLength := length_le_joined ns
  have hRead : readGroups (joined ns).length ⟨[], none⟩ (joined ns) = some ⟨ns, none⟩ :=
    readGroups_joined h.group_lt hLength (Nat.le_of_eq (by simp [Groups.places, h.length_eq]))
  refine parse_of_read ?_ ?_ hRead ?_
  · simpa using head?_joined_append hSome []
  · rw [h.length_eq] at hLength
    omega
  · exact if_pos h.length_eq

theorem complete?_gap {before after : List Nat} (h : before.length + after.length < 8) :
    (⟨before ++ after, some before.length⟩ : Groups).complete? =
      some (before ++ List.replicate (8 - (before.length + after.length)) 0 ++ after) := by
  unfold Groups.complete?
  dsimp only
  rw [List.length_append, if_pos h, List.take_left, List.drop_left]

/-- Two colons stand for the groups that are missing. -/
theorem parse_gap {before after : List Nat} (hBefore : ∀ n ∈ before, n < 65536)
    (hAfter : ∀ n ∈ after, n < 65536) (hCount : before.length + after.length < 8) :
    parse (joined before ++ ':' :: ':' :: joined after) =
      .ok (before ++ List.replicate (8 - (before.length + after.length)) 0 ++ after) := by
  by_cases hSome : before = []
  · subst hSome
    refine parse_of_read_gap (readGroups_joined hAfter (length_le_joined after) ?_) (complete?_gap hCount)
    simp only [Groups.places, List.length_nil, Option.isSome_some, if_true] at hCount ⊢
    omega
  · have hFuel : (joined before ++ ':' :: ':' :: joined after).length =
        (joined before).length - before.length + (joined after).length + 1 + 1 + before.length := by
      have := length_le_joined before
      simp only [List.length_append, List.length_cons]
      omega
    refine parse_of_read (head?_joined_append hSome _) (by rw [hFuel]; omega) ?_ (complete?_gap hCount)
    have hStart : (⟨[], none⟩ : Groups).places + before.length ≤ 8 := by
      simp [Groups.places]
      omega
    rw [hFuel, readGroups_joined_colon hSome hBefore _ hStart (List.cons_ne_nil _ _)]
    have hRoom : (Groups.pushAll before ⟨[], none⟩).places ≠ 8 := by
      simp [Groups.pushAll, Groups.places]
      omega
    rw [readGroups, if_neg hRoom, if_pos rfl]
    refine readGroups_joined hAfter ?_ ?_
    · have := length_le_joined after
      omega
    · simp [Groups.pushAll, Groups.places]
      omega

theorem exists_of_longestRun {position start length : Nat} {ns : List Nat}
    (h : longestRun position ns = (start, length)) (hSome : 0 < length) :
    ∃ before after, ns = before ++ List.replicate length 0 ++ after ∧ start = position + before.length := by
  induction ns generalizing position with
  | nil =>
    obtain ⟨rfl, rfl⟩ := Prod.mk.inj h
    exact absurd hSome (by decide)
  | cons n ns ih =>
    simp only [longestRun] at h
    split at h
    · obtain ⟨rfl, rfl⟩ := Prod.mk.inj h
      refine ⟨[], (n :: ns).dropWhile (· = 0), ?_, rfl⟩
      have hZeros : (n :: ns).takeWhile (· = 0) =
          List.replicate ((n :: ns).takeWhile (· = 0)).length 0 := by
        refine List.eq_replicate_of_mem ?_
        intro m hm
        simpa using List.mem_takeWhile_imp hm
      rw [List.nil_append, ← hZeros, List.takeWhile_append_dropWhile]
    · obtain ⟨before, after, hSplit, rfl⟩ := ih h
      refine ⟨n :: before, after, ?_, ?_⟩
      · rw [hSplit]
        rfl
      · rw [List.length_cons]
        omega

/-! ## The end in the form of IPv4 -/

theorem embeddedPart?_toDigits {n : Nat} (h : n ≤ 255) : embeddedPart? (Nat.toDigits 10 n) = some n := by
  have hRead : Ipv4.digits? 10 (Nat.toDigits 10 n) = some n :=
    Ipv4.digits?_toDigits (by decide) (by decide) n
  rcases Nat.eq_zero_or_pos n with rfl | hPos
  · rfl
  · have hHead := Json.Numeral.head?_toDigits hPos
    cases hDigits : Nat.toDigits 10 n with
    | nil => exact absurd hDigits Nat.toDigits_ne_nil
    | cons c cs =>
      rw [hDigits] at hHead hRead
      unfold embeddedPart?
      split
      · rename_i hNil
        cases hNil
      · exact absurd (congrArg some (List.cons.inj ‹_›).1) hHead
      · exact absurd (congrArg some (List.cons.inj ‹_›).1) hHead
      · rw [hRead]
        simpa using h

theorem embedded?_text {a b : Nat} (ha : a < 65536) (hb : b < 65536) :
    embedded? (Ipv4.text (65536 * a + b)).toList = some (a, b) := by
  have hOctets : Ipv4.octets (65536 * a + b) = [a / 256, a % 256, b / 256, b % 256] := by
    simp only [Ipv4.octets, List.cons.injEq, and_true]
    omega
  have hSmall : ∀ n ∈ [a / 256, a % 256, b / 256, b % 256], n ≤ 255 := by
    simp only [List.forall_mem_cons]
    exact ⟨by omega, by omega, by omega, by omega, List.forall_mem_nil _⟩
  have hRead := mapM_map fun n hn => embeddedPart?_toDigits (hSmall n hn)
  rw [List.map_id'] at hRead
  unfold embedded?
  rw [Ipv4.splitOn_text, hOctets, hRead]
  change some (256 * (a / 256) + a % 256, 256 * (b / 256) + b % 256) = _
  rw [Nat.div_add_mod, Nat.div_add_mod]

theorem exists_foldlM_addDigit? {ds : List Char} (h : ∀ c ∈ ds, (digit? c).isSome = true) (value : Nat) :
    ∃ n, ds.foldlM (addDigit? 16) value = some n := by
  induction ds generalizing value with
  | nil => exact ⟨value, rfl⟩
  | cons c ds ih =>
    obtain ⟨hc, hds⟩ := List.forall_mem_cons.mp h
    obtain ⟨d, hDigit⟩ := Option.isSome_iff_exists.mp hc
    obtain ⟨n, hn⟩ := ih hds (16 * value + d)
    have hDigit' : Hex.number? (Bytes.ofText c.toString) = some d := hDigit
    refine ⟨n, ?_⟩
    rw [List.foldlM_cons, addDigit?, hDigit']
    dsimp only
    rw [if_pos (digit?_lt hDigit)]
    exact hn

/-- The first number looks like a group, but a dot follows it. -/
theorem exists_readGroup_text {a : Nat} (h : a < 2 ^ 32) :
    ∃ n rest, readGroup 4 0 (Ipv4.text a).toList = (n, '.' :: rest) := by
  have hDigits : ∀ c ∈ Nat.toDigits 10 (a / 16777216), (digit? c).isSome = true := fun c hc =>
    isSome_digit?_of_mem_toDigits (by decide) (by decide) hc
  have hLength : (Nat.toDigits 10 (a / 16777216)).length ≤ 4 :=
    (Nat.length_toDigits_le_iff (by decide) (by decide)).mpr (by omega)
  obtain ⟨n, hn⟩ := exists_foldlM_addDigit? hDigits 0
  rw [Ipv4.toList_text, Ipv4.octets, List.map_cons, List.intercalate_cons_of_ne_nil (by simp),
    List.append_assoc, List.singleton_append]
  refine ⟨n, _, readGroup_of_digits hn hLength ?_⟩
  rintro c ⟨⟩
  decide +kernel

theorem parse_embedded {a b : Nat} (ha : a < 65536) (hb : b < 65536) :
    parse ("::ffff:" ++ Ipv4.text (65536 * a + b)).toList = .ok [0, 0, 0, 0, 0, 0xFFFF, a, b] := by
  obtain ⟨n, rest, hDot⟩ := exists_readGroup_text (a := 65536 * a + b) (by omega)
  have hEmbedded := embedded?_text ha hb
  rw [String.toList_append]
  cases hText : (Ipv4.text (65536 * a + b)).toList with
  | nil =>
    rw [hText] at hDot
    cases hDot
  | cons c cs =>
    rw [hText] at hDot hEmbedded
    have hColon : c ≠ ':' := by
      rintro rfl
      have hStop : digit? ':' = none := by decide +kernel
      simp [readGroup, hStop] at hDot
    refine parse_of_read_gap (g := ⟨[0xFFFF, a, b], some 0⟩) ?_ rfl
    refine (readGroups_colon (n := 0xFFFF) (cs.length + 5) (by decide) (by decide)
      (List.cons_ne_nil c cs)).trans ?_
    simp only [readGroups]
    rw [if_neg (by decide), if_neg hColon, hDot, hEmbedded]
    rfl

/-- The three ways in which an address is written. -/
inductive Form : List Nat → List Char → Prop
  | embedded (a b : Nat) :
      Form [0, 0, 0, 0, 0, 0xFFFF, a, b] ("::ffff:" ++ Ipv4.text (65536 * a + b)).toList
  | whole (groups : List Nat) : Form groups (joined groups)
  | gap (before after : List Nat) {length : Nat} (h : 0 < length) :
      Form (before ++ List.replicate length 0 ++ after) (joined before ++ ':' :: ':' :: joined after)

theorem form_text (groups : List Nat) : Form groups (text groups).toList := by
  unfold text
  split
  · exact .embedded _ _
  · split
    rename_i start length hRun
    split
    · rw [toList_groupsText]
      exact .whole groups
    · have hSome : 0 < length := by omega
      obtain ⟨before, after, hSplit, hStart⟩ := exists_of_longestRun hRun hSome
      rw [Nat.zero_add] at hStart
      have hBefore : groups.take start = before := by
        rw [hSplit, hStart, List.append_assoc, List.take_left]
      have hAfter : groups.drop (start + length) = after := by
        rw [hSplit, hStart]
        exact List.drop_left' (by simp)
      have hText : (groupsText before ++ "::" ++ groupsText after).toList =
          joined before ++ ':' :: ':' :: joined after := by
        rw [String.toList_append, String.toList_append, toList_groupsText, toList_groupsText,
          List.append_assoc]
        rfl
      rw [hBefore, hAfter, hText, hSplit]
      exact .gap before after hSome

theorem parse_text {groups : List Nat} (h : IsAddress groups) :
    parse (text groups).toList = .ok groups := by
  have hForm := form_text groups
  generalize (text groups).toList = cs at hForm
  cases hForm with
  | embedded a b => exact parse_embedded (h.group_lt a (by simp)) (h.group_lt b (by simp))
  | whole => exact parse_joined h
  | gap before after hSome =>
    rename_i length
    obtain ⟨hCount, hLt⟩ := h
    simp only [List.length_append, List.length_replicate] at hCount
    simp only [List.mem_append] at hLt
    have hLength : 8 - (before.length + after.length) = length := by omega
    rw [parse_gap (fun n hn => hLt n (.inl (.inl hn))) (fun n hn => hLt n (.inr hn)) (by omega),
      hLength]

theorem colon_mem_text {groups : List Nat} (h : IsAddress groups) : ':' ∈ (text groups).toList := by
  have hForm := form_text groups
  generalize (text groups).toList = cs at hForm
  cases hForm with
  | embedded a b => simp
  | whole =>
    obtain ⟨hLength, _⟩ := h
    match groups, hLength with
    | n :: m :: ns, _ => simp [joined_cons n (List.cons_ne_nil m ns)]
  | gap before after => simp

def IsWritten (c : Char) : Prop := c = ':' ∨ c = '.' ∨ (digit? c).isSome = true

theorem isWritten_of_mem_joined {ns : List Nat} {c : Char} (h : c ∈ joined ns) : IsWritten c := by
  refine (of_mem_intercalate h).imp_right ?_
  rintro ⟨ds, hds, hc⟩
  obtain ⟨n, _, rfl⟩ := List.mem_map.mp hds
  exact .inr (isSome_digit?_of_mem_toDigits (by decide) (by decide) hc)

theorem isWritten_of_mem_text {groups : List Nat} {c : Char} (h : c ∈ (text groups).toList) :
    IsWritten c := by
  have hForm := form_text groups
  generalize (text groups).toList = cs at hForm h
  cases hForm with
  | embedded a b =>
    rw [String.toList_append, List.mem_append] at h
    rcases h with h | h
    · have hPrefix : "::ffff:".toList.all (fun c => c = ':' || (digit? c).isSome) = true := by
        decide +kernel
      rcases Bool.or_eq_true_iff.mp (List.all_eq_true.mp hPrefix c h) with hColon | hDigit
      · exact .inl (of_decide_eq_true hColon)
      · exact .inr (.inr hDigit)
    · exact .inr ((Ipv4.of_mem_text h).imp_right isSome_digit?_of_isDigit)
  | whole => exact isWritten_of_mem_joined h
  | gap before after =>
    simp only [List.mem_append, List.mem_cons] at h
    rcases h with h | rfl | rfl | h
    · exact isWritten_of_mem_joined h
    · exact .inl rfl
    · exact .inl rfl
    · exact isWritten_of_mem_joined h

end Redfish.Url.Ipv6
