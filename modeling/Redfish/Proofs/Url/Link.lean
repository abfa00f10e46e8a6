import Redfish.Proofs.Url.Authority

/-!
# Links that are complete in themselves

A link names its scheme and an authority before its path. A path without blanks is read as it stands,
whatever the authority is, as long as there is one.
-/

namespace Redfish.Url

def isBlank (c : Char) : Bool := c ≤ ' '

def isKept (c : Char) : Bool := c ≠ '\t' && c ≠ '\n' && c ≠ '\r'

theorem isKept_of_not_blank {c : Char} (h : isBlank c = false) : isKept c = true := by
  unfold isKept
  simp only [Bool.and_eq_true, decide_eq_true_eq]
  refine ⟨⟨?_, ?_⟩, ?_⟩ <;> rintro rfl <;> exact absurd h (by decide)

theorem clean_of_ends {text : String} (hFirst : ∀ c ∈ text.toList.head?, isBlank c = false)
    (hLast : ∀ c ∈ text.toList.getLast?, isBlank c = false) :
    clean text = text.toList.filter isKept := by
  have hTrimmed : ((text.toList.dropWhile isBlank).reverse.dropWhile isBlank).reverse = text.toList := by
    rw [dropWhile_of_head? hFirst, dropWhile_of_head?, List.reverse_reverse]
    rwa [List.head?_reverse]
  exact congrArg (List.filter isKept) hTrimmed

def linkStarts : List String := ["http://", "https://"]

theorem parse_of_clean {start : String} (hStart : start ∈ linkStarts) :
    ∃ scheme, kind scheme = .special ∧ ∀ text cs, clean text = start.toList ++ cs →
      parse text = parseAuthority scheme (cs.dropWhile isSlash) := by
  simp only [linkStarts, List.mem_cons, List.not_mem_nil, or_false] at hStart
  rcases hStart with rfl | rfl
  · refine ⟨"http", rfl, ?_⟩
    intro text cs hClean
    unfold parse
    rw [hClean]
    rfl
  · refine ⟨"https", rfl, ?_⟩
    intro text cs hClean
    unfold parse
    rw [hClean]
    rfl

theorem clean_link {start : String} (hStart : start ∈ linkStarts) (authority : String) {path : List Char}
    (hPath : ∀ c ∈ path, isBlank c = false) :
    clean (start ++ authority ++ String.ofList ('/' :: path)) =
      start.toList ++ (authority.toList.filter isKept ++ '/' :: path) := by
  have hRooted : ∀ c ∈ '/' :: path, isBlank c = false := List.forall_mem_cons.mpr ⟨rfl, hPath⟩
  have hWhole : ∀ c ∈ start.toList, isKept c = true := by
    simp only [linkStarts, List.mem_cons, List.not_mem_nil, or_false] at hStart
    rcases hStart with rfl | rfl <;> exact List.all_eq_true.mp rfl
  have hText : (start ++ authority ++ String.ofList ('/' :: path)).toList =
      start.toList ++ authority.toList ++ '/' :: path := by
    rw [String.toList_append, String.toList_append, String.toList_ofList]
  rw [clean_of_ends, hText, List.filter_append, List.filter_append, List.append_assoc,
    List.filter_eq_self.mpr hWhole, List.filter_eq_self.mpr fun c hc => isKept_of_not_blank (hRooted c hc)]
  · rw [hText, List.append_assoc]
    simp only [linkStarts, List.mem_cons, List.not_mem_nil, or_false] at hStart
    rcases hStart with rfl | rfl
    · rintro c ⟨⟩
      rfl
    · rintro c ⟨⟩
      rfl
  · rw [hText, List.getLast?_append_of_ne_nil _ (List.cons_ne_nil _ _)]
    intro c hc
    exact hRooted c (List.mem_of_getLast? hc)

/-- A link is read with the server that its authority names, and its path as it stands. -/
theorem exists_parse_link {start : String} (hStart : start ∈ linkStarts) {authority : String}
    (hAuthority : IsAuthority authority.toList)
    (hAccepted : ∃ url, parse (start ++ authority ++ "/") = .ok url) :
    ∃ scheme host port, ∀ path : List Char, (∀ c ∈ path, isBlank c = false) →
      parse (start ++ authority ++ String.ofList ('/' :: path)) =
        .ok ⟨scheme, host, port, '/' :: path⟩ := by
  obtain ⟨scheme, hKind, hParse⟩ := parse_of_clean hStart
  have hKept : IsAuthority (authority.toList.filter isKept) := fun c hc =>
    hAuthority c (List.mem_of_mem_filter hc)
  obtain ⟨url, hUrl⟩ := hAccepted
  have hRoot := hParse _ _ (clean_link hStart authority (List.forall_mem_nil _))
  rw [show String.ofList ['/'] = "/" from rfl, hUrl] at hRoot
  -- Without an authority the path would be read as one.
  have hSlashes : ∀ path, (authority.toList.filter isKept ++ '/' :: path).dropWhile isSlash =
      authority.toList.filter isKept ++ '/' :: path := by
    intro path
    refine dropWhile_of_head? ?_
    cases hChars : authority.toList.filter isKept with
    | nil =>
      rw [hChars] at hRoot
      exact absurd (hRoot.trans (parseAuthority_nil hKind)) nofun
    | cons c cs =>
      rw [hChars] at hKept
      rintro d ⟨⟩
      exact isSlash_eq_false (hKept c List.mem_cons_self)
  obtain ⟨server, hServer⟩ := hKept.exists_parseAuthority hKind
  rw [hSlashes, hServer] at hRoot
  cases server with
  | error fault => cases hRoot
  | ok server =>
    refine ⟨scheme, server.1, server.2, ?_⟩
    intro path hPath
    rw [hParse _ _ (clean_link hStart authority hPath), hSlashes, hServer]
    rfl

end Redfish.Url
