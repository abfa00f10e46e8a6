import Redfish.Proofs.Text
import Redfish.Url

/-!
# The target of a URL

The target of a URL starts with a slash. A path and a query of plain characters stay as they are in it, if
no segment of the path stands for the same place or the place above.
-/

namespace Redfish.Url

theorem percentEncode_eq_self {encoded : UInt8 → Bool} {cs : List Char}
    (h : ∀ c ∈ cs, c.toNat < 128 ∧ encoded c.toUInt8 = false) : percentEncode encoded cs = cs := by
  unfold percentEncode
  rw [Bytes.ofText_ofList]
  induction cs with
  | nil => rfl
  | cons c cs ih =>
    obtain ⟨⟨hAscii, hFree⟩, hRest⟩ := List.forall_mem_cons.mp h
    rw [List.flatMap_cons, List.flatMap_append, ih hRest, Bytes.utf8EncodeChar_of_lt hAscii,
      List.flatMap_singleton, hFree, if_neg Bool.false_ne_true, Bytes.toNat_toUInt8 hAscii, Char.ofNat_toNat]
    rfl

namespace Path

theorem dropDot?_eq_some_iff {segment rest : List Char} (h : '%' ∉ segment) :
    dropDot? segment = some rest ↔ segment = '.' :: rest := by
  unfold dropDot?
  split
  · simp
  · simp at h
  · simp at h
  · rename_i hDot _ _
    refine ⟨nofun, ?_⟩
    rintro rfl
    exact absurd rfl (hDot rest)

theorem isSingleDot_iff {segment : List Char} (h : '%' ∉ segment) :
    isSingleDot segment = true ↔ segment = ['.'] := by
  unfold isSingleDot
  rw [decide_eq_true_eq, dropDot?_eq_some_iff h]

theorem isDoubleDot_iff {segment : List Char} (h : '%' ∉ segment) :
    isDoubleDot segment = true ↔ segment = ['.', '.'] := by
  unfold isDoubleDot
  rw [decide_eq_true_eq, Option.bind_eq_some_iff]
  constructor
  · rintro ⟨rest, hFirst, hSecond⟩
    obtain rfl := (dropDot?_eq_some_iff h).mp hFirst
    obtain rfl := (dropDot?_eq_some_iff fun hMem => h (List.mem_cons_of_mem _ hMem)).mp hSecond
    rfl
  · rintro rfl
    exact ⟨['.'], rfl, rfl⟩

theorem walk_of_places {reached segments : List (List Char)}
    (h : ∀ s ∈ segments, isSingleDot s = false ∧ isDoubleDot s = false) :
    walk reached segments = segments.reverse ++ reached := by
  induction segments generalizing reached with
  | nil => rfl
  | cons s segments ih =>
    obtain ⟨⟨hSingle, hDouble⟩, hRest⟩ := List.forall_mem_cons.mp h
    cases segments with
    | nil => simp [walk, hSingle, hDouble]
    | cons next more =>
      rw [walk, hDouble, hSingle, if_neg Bool.false_ne_true, if_neg Bool.false_ne_true, ih hRest]
      simp

theorem walk_ne_nil {reached segments : List (List Char)} (h : segments ≠ []) :
    walk reached segments ≠ [] := by
  induction segments generalizing reached with
  | nil => exact absurd rfl h
  | cons s segments ih =>
    cases segments with
    | nil =>
      unfold walk
      split
      · exact List.cons_ne_nil _ _
      · split <;> exact List.cons_ne_nil _ _
    | cons next more =>
      rw [walk]
      split
      · exact ih (List.cons_ne_nil _ _)
      · split <;> exact ih (List.cons_ne_nil _ _)

theorem flatMap_slash {segments : List (List Char)} (h : segments ≠ []) :
    segments.flatMap ('/' :: ·) = '/' :: ['/'].intercalate segments := by
  induction segments with
  | nil => exact absurd rfl h
  | cons s segments ih =>
    cases segments with
    | nil => simp
    | cons next more =>
      rw [List.flatMap_cons, ih (List.cons_ne_nil _ _), List.intercalate_cons_cons]
      simp

theorem flatMap_splitOn (cs : List Char) : (cs.splitOn '/').flatMap ('/' :: ·) = '/' :: cs := by
  have hSome : cs.splitOn '/' ≠ [] := List.splitOnP_ne_nil _ _
  rw [flatMap_slash hSome, List.intercalate_splitOn]

theorem mem_of_mem_splitOn {cs s : List Char} (hs : s ∈ cs.splitOn '/') {c : Char} (hc : c ∈ s) :
    c ∈ '/' :: cs := by
  rw [← flatMap_splitOn]
  exact List.mem_flatMap.mpr ⟨s, hs, List.mem_cons_of_mem _ hc⟩

theorem normal_of_places {cs : List Char}
    (hPlain : ∀ c ∈ '/' :: cs, c.toNat < 128 ∧ encodedInPath c.toUInt8 = false)
    (hPlaces : ∀ s ∈ cs.splitOn '/', isSingleDot s = false ∧ isDoubleDot s = false) :
    normal cs = '/' :: cs := by
  have hSegments : (cs.splitOn '/').map (percentEncode encodedInPath) = cs.splitOn '/' := by
    refine (List.map_congr_left fun s hs => percentEncode_eq_self fun c hc => ?_).trans (List.map_id _)
    exact hPlain c (mem_of_mem_splitOn hs hc)
  unfold normal
  simp only [hSegments]
  rw [walk_of_places hPlaces, List.append_nil, List.reverse_reverse, flatMap_splitOn]

theorem head?_normal (cs : List Char) : (normal cs).head? = some '/' := by
  have hSome : (cs.splitOn '/').map (percentEncode encodedInPath) ≠ [] := by
    rw [Ne, List.map_eq_nil_iff]
    exact List.splitOnP_ne_nil _ _
  unfold normal
  cases hReached : (walk [] ((cs.splitOn '/').map (percentEncode encodedInPath))).reverse with
  | nil => exact absurd (List.reverse_eq_nil_iff.mp hReached) (walk_ne_nil hSome)
  | cons s segments => simp [hReached]

end Path

/-- Characters that stand for themselves wherever they are in a path. -/
def isPlain (c : Char) : Bool := c.isAlphanum || "-._~:@!$&()*+,;=/".toList.contains c

theorem toNat_of_isPlain {c : Char} (h : isPlain c = true) : c.toNat < 128 := by
  unfold isPlain at h
  have hBelow : ∀ d : Char, c.val ≤ d.val → d.toNat < 128 → c.toNat < 128 := fun d hLe hd =>
    Nat.lt_of_le_of_lt (UInt32.le_iff_toNat_le.mp hLe) hd
  rcases Bool.or_eq_true_iff.mp h with hAlphanum | hMark
  · rcases Bool.or_eq_true_iff.mp hAlphanum with hLetter | hDigit
    · rcases Bool.or_eq_true_iff.mp hLetter with hUpper | hLower
      · exact hBelow 'Z' (of_decide_eq_true hUpper).2 (by decide)
      · exact hBelow 'z' (of_decide_eq_true (Bool.and_eq_true_iff.mp hLower).2) (by decide)
    · exact hBelow '9' (of_decide_eq_true (Bool.and_eq_true_iff.mp hDigit).2) (by decide)
  · have hMarks : "-._~:@!$&()*+,;=/".toList.all (·.toNat < 128) = true := rfl
    exact of_decide_eq_true (List.all_eq_true.mp hMarks c (List.contains_iff_mem.mp hMark))

structure StaysPlain (c : Char) : Prop where
  ascii : c.toNat < 128
  path : encodedInPath c.toUInt8 = false
  query : encodedInQuery c.toUInt8 = false
  other : c ∉ ['\\', '?', '#', '%']
  visible : ¬c ≤ ' '

theorem staysPlain {c : Char} (h : isPlain c = true) : StaysPlain c := by
  have hAscii := toNat_of_isPlain h
  -- There are few enough plain characters to look at each.
  have hAll : ∀ n < 128, isPlain (Char.ofNat n) = true →
      encodedInPath (Char.ofNat n).toUInt8 = false ∧ encodedInQuery (Char.ofNat n).toUInt8 = false ∧
        Char.ofNat n ∉ ['\\', '?', '#', '%'] ∧ ¬Char.ofNat n ≤ ' ' := by decide +kernel
  have hThis := hAll c.toNat hAscii
  rw [Char.ofNat_toNat] at hThis
  obtain ⟨hPath, hQuery, hOther, hVisible⟩ := hThis h
  exact ⟨hAscii, hPath, hQuery, hOther, hVisible⟩

structure IsPlainPath (path : List Char) : Prop where
  plain : ∀ c ∈ path, isPlain c = true
  places : ∀ s ∈ path.splitOn '/', s ≠ ['.'] ∧ s ≠ ['.', '.']

def located (path : List Char) (query : Option (List Char)) : List Char :=
  '/' :: path ++ (query.map ('?' :: ·)).getD []

/-- A plain path, with or without a query of plain characters and question marks. -/
def IsPlainTarget (target : List Char) : Prop :=
  ∃ path query, target = located path query ∧ IsPlainPath path ∧
    ∀ q, query = some q → ∀ c ∈ q, isPlain c = true ∨ c = '?'

theorem IsPlainPath.normal_eq {path : List Char} (h : IsPlainPath path) : Path.normal path = '/' :: path := by
  have hStays : ∀ c ∈ '/' :: path, StaysPlain c :=
    List.forall_mem_cons.mpr ⟨staysPlain rfl, fun c hc => staysPlain (h.plain c hc)⟩
  refine Path.normal_of_places (fun c hc => ⟨(hStays c hc).ascii, (hStays c hc).path⟩) ?_
  intro s hs
  have hPercent : '%' ∉ s := fun hMem => (hStays '%' (Path.mem_of_mem_splitOn hs hMem)).other (by simp)
  obtain ⟨hSingle, hDouble⟩ := h.places s hs
  rw [Bool.eq_false_iff, Bool.eq_false_iff, Ne, Ne, Path.isSingleDot_iff hPercent,
    Path.isDoubleDot_iff hPercent]
  exact ⟨hSingle, hDouble⟩

theorem target_of_located {u : Url} {path : List Char} {query : Option (List Char)}
    (hRest : u.rest = located path query) (hPath : ∀ c ∈ path, c ∉ ['\\', '?', '#'])
    (hQuery : ∀ q, query = some q → '#' ∉ q) :
    u.target = String.ofList
      (Path.normal path ++ (query.map fun q => '?' :: percentEncode encodedInQuery q).getD []) := by
  have hRooted : ∀ c ∈ '/' :: path, c ∉ ['\\', '?', '#'] := List.forall_mem_cons.mpr ⟨by simp, hPath⟩
  have hBefore : ∀ c ∈ '/' :: path, decide (c ≠ '?') = true := by
    intro c hc
    rw [decide_eq_true_eq]
    rintro rfl
    exact hRooted '?' hc (by simp)
  have hAfter : ∀ c ∈ ((query.map ('?' :: ·)).getD []).head?, decide (c ≠ '?') = false := by
    cases query with
    | none => exact nofun
    | some q =>
      rintro c ⟨⟩
      rfl
  have hLocated : u.rest.takeWhile (· ≠ '#') = located path query := by
    rw [hRest, List.takeWhile_eq_self_iff]
    intro c hc
    rw [decide_eq_true_eq]
    rintro rfl
    rcases List.mem_append.mp hc with hc | hc
    · exact hRooted '#' hc (by simp)
    · cases query with
      | none => cases hc
      | some q => exact hQuery q rfl ((List.mem_cons.mp hc).resolve_left (by decide))
  have hSlashes : ('/' :: path).map (fun c => if c = '\\' then '/' else c) = '/' :: path := by
    refine (List.map_congr_left fun c hc => if_neg ?_).trans (List.map_id _)
    rintro rfl
    exact hRooted '\\' hc (by simp)
  unfold target
  simp only [hLocated, located, takeWhile_piece hBefore hAfter, dropWhile_piece hBefore hAfter, hSlashes]
  cases query <;> rfl

theorem target_of_plain {u : Url} (h : IsPlainTarget u.rest) : u.target = String.ofList u.rest := by
  obtain ⟨path, query, hRest, hPath, hQuery⟩ := h
  have hOther : ∀ c ∈ path, c ∉ ['\\', '?', '#'] := by
    intro c hc hMem
    refine (staysPlain (hPath.plain c hc)).other ?_
    simp only [List.mem_cons] at hMem ⊢
    tauto
  have hStays : ∀ q, query = some q → ∀ c ∈ q, c.toNat < 128 ∧ encodedInQuery c.toUInt8 = false := by
    intro q hq c hc
    rcases hQuery q hq c hc with hPlain | rfl
    · exact ⟨(staysPlain hPlain).ascii, (staysPlain hPlain).query⟩
    · decide
  rw [target_of_located hRest hOther, hRest, hPath.normal_eq]
  · cases query with
    | none => rfl
    | some q =>
      rw [Option.map_some, percentEncode_eq_self (hStays q rfl)]
      rfl
  · intro q hq hMem
    exact absurd (hStays q hq '#' hMem).2 (by decide)

theorem visible_of_plain {target : List Char} (h : IsPlainTarget target) : ∀ c ∈ target, ¬c ≤ ' ' := by
  obtain ⟨path, query, rfl, hPath, hQuery⟩ := h
  intro c hc
  rcases List.mem_append.mp hc with hc | hc
  · rcases List.mem_cons.mp hc with rfl | hc
    · decide
    · exact (staysPlain (hPath.plain c hc)).visible
  · cases query with
    | none => cases hc
    | some q =>
      rcases List.mem_cons.mp hc with rfl | hc
      · decide
      · rcases hQuery q rfl c hc with hPlain | rfl
        · exact (staysPlain hPlain).visible
        · decide

theorem head?_target (u : Url) : u.target.toList.head? = some '/' := by
  unfold target
  rw [String.toList_ofList, List.head?_append, Path.head?_normal]
  rfl

end Redfish.Url
