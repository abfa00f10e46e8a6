import Mathlib.Tactic.SplitIfs
import Redfish.Json.Printer
import Redfish.Proofs.Json.Outline
import Redfish.Proofs.Table

/-!
# Reading what was written

The reader undoes the printer. Every text is read as it was, whatever characters it has, and a value as
it was if the members of its objects are sorted. So values that are written alike are the same.
-/

namespace Redfish.Json

namespace Text

theorem scan_quote (reversed rest : Bytes) :
    scan reversed none false (0x22 :: rest) = (closed reversed false, some rest) := by
  rw [scan.eq_def]
  rfl

theorem scan_plain {b : UInt8} (hQuote : b ≠ 0x22) (hSlash : b ≠ 0x5C) (hControl : ¬b < 0x20)
    (reversed rest : Bytes) :
    scan reversed none false (b :: rest) = scan (b :: reversed) none false rest := by
  rw [scan.eq_def]
  simp only [hQuote, hSlash, hControl, if_false]
  rfl

theorem scan_letter {e c : UInt8} (h : unescape? e = some c) (hLetter : e ≠ 0x75)
    (reversed rest : Bytes) :
    scan reversed none false (0x5C :: e :: rest) = scan (c :: reversed) none false rest := by
  rw [scan.eq_def]
  simp [hLetter, h]

theorem number?_hexDigits : ∀ n < 32,
    Hex.number? [0x30, 0x30, hexDigit (n / 16), hexDigit (n % 16)] = some n := by
  decide

theorem utf8EncodeChar_control : ∀ n < 32,
    String.utf8EncodeChar (Char.ofNat n) = [UInt8.ofNat n] := by
  decide

theorem scan_code {n : Nat} (h : n < 32) (reversed rest : Bytes) :
    scan reversed none false
        (0x5C :: 0x75 :: 0x30 :: 0x30 :: hexDigit (n / 16) :: hexDigit (n % 16) :: rest) =
      scan (UInt8.ofNat n :: reversed) none false rest := by
  have hLead : isLead n = false := by
    unfold isLead
    rw [decide_eq_false (by omega), Bool.false_and]
  have hTrail : isTrail n = false := by
    unfold isTrail
    rw [decide_eq_false (by omega), Bool.false_and]
  rw [scan.eq_def]
  simp [number?_hexDigits n h, hLead, hTrail, utf8EncodeChar_control n h]

theorem escapeByte_cases (b : UInt8) :
    (∃ e, e ≠ 0x75 ∧ unescape? e = some b ∧ escapeByte b = [0x5C, e]) ∨
    (b.toNat < 32 ∧ escapeByte b =
      [0x5C, 0x75, 0x30, 0x30, hexDigit (b.toNat / 16), hexDigit (b.toNat % 16)]) ∨
    (b ≠ 0x22 ∧ b ≠ 0x5C ∧ ¬b < 0x20 ∧ escapeByte b = [b]) := by
  unfold escapeByte
  split_ifs with hQuote hSlash hBack hTab hLine hPage hReturn hControl
  · exact .inl ⟨0x22, by decide, by rw [hQuote]; rfl, rfl⟩
  · exact .inl ⟨0x5C, by decide, by rw [hSlash]; rfl, rfl⟩
  · exact .inl ⟨0x62, by decide, hBack ▸ rfl, rfl⟩
  · exact .inl ⟨0x74, by decide, hTab ▸ rfl, rfl⟩
  · exact .inl ⟨0x6E, by decide, hLine ▸ rfl, rfl⟩
  · exact .inl ⟨0x66, by decide, hPage ▸ rfl, rfl⟩
  · exact .inl ⟨0x72, by decide, hReturn ▸ rfl, rfl⟩
  · exact .inr (.inl ⟨hControl, rfl⟩)
  · exact .inr (.inr ⟨hQuote, hSlash, hControl, rfl⟩)

theorem scan_escapeByte (b : UInt8) (reversed rest : Bytes) :
    scan reversed none false (escapeByte b ++ rest) = scan (b :: reversed) none false rest := by
  rcases escapeByte_cases b with ⟨e, hLetter, hEscape, hWritten⟩ | ⟨hControl, hWritten⟩ |
    ⟨hQuote, hSlash, hControl, hWritten⟩
  · rw [hWritten]
    exact scan_letter hEscape hLetter reversed rest
  · rw [hWritten]
    refine (scan_code hControl reversed rest).trans ?_
    rw [UInt8.ofNat_toNat]
  · rw [hWritten]
    exact scan_plain hQuote hSlash hControl reversed rest

theorem scan_escaped (bs reversed rest : Bytes) :
    scan reversed none false (bs.flatMap escapeByte ++ 0x22 :: rest) =
      (closed (bs.reverse ++ reversed) false, some rest) := by
  induction bs generalizing reversed with
  | nil => exact scan_quote reversed rest
  | cons b bs ih =>
    rw [List.flatMap_cons, List.append_assoc, scan_escapeByte, ih, List.reverse_cons,
      List.append_assoc, List.singleton_append]

theorem read_quoted (s : String) (rest : Bytes) :
    read ((Bytes.ofText s).flatMap escapeByte ++ 0x22 :: rest) = (.plain s, some rest) := by
  refine (scan_escaped (Bytes.ofText s) [] rest).trans ?_
  have hClosed : closed ((Bytes.ofText s).reverse ++ []) false = .plain s := by
    unfold closed
    rw [List.append_nil, List.reverse_reverse, Bytes.text?_ofText]
    rfl
  rw [hClosed]

end Text

def Ends (rest : Bytes) : Prop := ∀ b ∈ rest.head?, b = 0x2C ∨ b = 0x5D ∨ b = 0x7D

/-- What is written for the number begins as a number and is read as this one. -/
structure Number.ReadsBack (n : Number) : Prop where
  starts : ∃ b bs, n.render = b :: bs ∧ (b = 0x2D ∨ Numeral.isDigit b = true)
  compact : ∀ b ∈ n.render, b ≠ 0x22 ∧ Outline.isBlank b = false
  reads : ∀ rest, Ends rest → Numeral.read (n.render ++ rest) = (⟨.ok n, none⟩, some rest)

/-- The value opens at most `levels` levels of nesting less one, the members of its objects are sorted by
their names, and its numbers are read back. -/
inductive Value.Canonical : (levels : Nat) → Value → Prop
  | null {levels : Nat} : Canonical levels .null
  | bool {levels : Nat} (b : Bool) : Canonical levels (.bool b)
  | number {levels : Nat} {n : Number} (h : n.ReadsBack) : Canonical levels (.number n)
  | text {levels : Nat} (s : String) : Canonical levels (.text s)
  | array {levels : Nat} {vs : List Value} (h : ∀ v ∈ vs, Canonical (levels + 1) v) :
      Canonical (levels + 2) (.array vs)
  | object {levels : Nat} {ms : List (String × Value)} (sorted : Table.Sorted ms)
      (h : ∀ m ∈ ms, Canonical (levels + 1) m.2) : Canonical (levels + 2) (.object ms)

namespace Outline

theorem skipBlanks_cons {b : UInt8} (h : isBlank b = false) (bs : Bytes) :
    skipBlanks (b :: bs) = b :: bs := by
  unfold skipBlanks
  rw [List.dropWhile_cons, h, if_neg Bool.false_ne_true]

end Outline

open Outline

theorem number_first {b : UInt8} (h : b = 0x2D ∨ Numeral.isDigit b = true) :
    isBlank b = false ∧ b ≠ 0x22 ∧ b ≠ 0x7B ∧ b ≠ 0x5B ∧ b ≠ 0x5D ∧ b ≠ 0x6E ∧ b ≠ 0x74 ∧ b ≠ 0x66 := by
  have hRange : 0x2D ≤ b ∧ b ≤ 0x39 := by
    rcases h with rfl | hDigit
    · decide
    · unfold Numeral.isDigit at hDigit
      rw [Bool.and_eq_true, decide_eq_true_eq, decide_eq_true_eq] at hDigit
      exact ⟨UInt8.le_trans (by decide) hDigit.1, hDigit.2⟩
  have hBlank : isBlank b = false := by
    rw [← Bool.not_eq_true]
    intro hBlank
    unfold isBlank at hBlank
    simp only [Bool.or_eq_true, decide_eq_true_eq] at hBlank
    rcases hBlank with ((rfl | rfl) | rfl) | rfl <;> exact absurd hRange.1 (by decide)
  refine ⟨hBlank, ?_, ?_, ?_, ?_, ?_, ?_, ?_⟩
  · rintro rfl
    exact absurd hRange.1 (by decide)
  all_goals
    rintro rfl
    exact absurd hRange.2 (by decide)

theorem Value.Canonical.starts {levels : Nat} {v : Value} (h : v.Canonical levels) :
    ∃ b bs, v.render = b :: bs ∧ isBlank b = false ∧ b ≠ 0x5D := by
  cases h with
  | null => exact ⟨_, _, rfl, rfl, by decide⟩
  | bool b => cases b <;> exact ⟨_, _, rfl, rfl, by decide⟩
  | number h =>
    obtain ⟨b, bs, hRender, hFirst⟩ := h.starts
    obtain ⟨hBlank, _, _, _, hBracket, _⟩ := number_first hFirst
    exact ⟨b, bs, hRender, hBlank, hBracket⟩
  | text s => exact ⟨_, _, rfl, rfl, by decide⟩
  | array h => exact ⟨_, _, rfl, rfl, by decide⟩
  | object sorted h => exact ⟨_, _, rfl, rfl, by decide⟩

/-- The reader gives back the outline of the value and leaves what stands behind it. -/
def Reads (v : Value) : Prop := ∀ fuel rest, 3 * v.render.length ≤ fuel → Ends rest →
  readValue fuel (v.render ++ rest) = (v.exactOutline, some rest)

theorem reads_of_succ {v : Value} (hSome : v.render ≠ [])
    (h : ∀ fuel rest, 3 * v.render.length ≤ fuel + 1 → Ends rest →
      readValue (fuel + 1) (v.render ++ rest) = (v.exactOutline, some rest)) : Reads v := by
  intro fuel rest hFuel hEnds
  have hLength := List.length_pos_iff.mpr hSome
  obtain ⟨fuel, rfl⟩ := Nat.exists_eq_add_one_of_ne_zero (show fuel ≠ 0 by omega)
  exact h fuel rest hFuel hEnds

theorem reads_null : Reads .null := by
  refine reads_of_succ (List.cons_ne_nil _ _) ?_
  intro fuel rest _ _
  rw [readValue]
  rfl

theorem reads_bool (b : Bool) : Reads (.bool b) := by
  cases b
  all_goals
    refine reads_of_succ (List.cons_ne_nil _ _) ?_
    intro fuel rest _ _
    rw [readValue]
    rfl

theorem reads_number {n : Number} (h : n.ReadsBack) : Reads (.number n) := by
  obtain ⟨b, bs, hRender, hFirst⟩ := h.starts
  have hValue : Value.render (.number n) = b :: bs := hRender
  refine reads_of_succ (hValue ▸ List.cons_ne_nil b bs) ?_
  intro fuel rest _ hEnds
  have hRead := h.reads rest hEnds
  rw [hRender, List.cons_append] at hRead
  obtain ⟨hBlank, hQuote, hBrace, hBracket, _, hNull, hYes, hNo⟩ := number_first hFirst
  have hNumber : (decide (b = 0x2D) || Numeral.isDigit b) = true := by
    rw [Bool.or_eq_true, decide_eq_true_eq]
    exact hFirst
  rw [hValue, List.cons_append, readValue, skipBlanks_cons hBlank]
  simp only [hQuote, hBrace, hBracket, hNull, hYes, hNo, hNumber, if_false, if_true, hRead]
  rfl

theorem reads_text (s : String) : Reads (.text s) := by
  refine reads_of_succ (List.cons_ne_nil _ _) ?_
  intro fuel rest _ _
  have hRender : Value.render (.text s) ++ rest =
      0x22 :: ((Bytes.ofText s).flatMap escapeByte ++ 0x22 :: rest) := by
    simp [Value.render, renderText]
  rw [hRender, readValue, skipBlanks_cons rfl]
  simp only [if_true, Text.read_quoted]
  rfl

theorem ends_cons {b : UInt8} (h : b = 0x2C ∨ b = 0x5D ∨ b = 0x7D) (rest : Bytes) :
    Ends (b :: rest) := by
  rintro _ ⟨⟩
  exact h

def laterItems : List Value → Bytes
  | [] => []
  | v :: vs => 0x2C :: renderItems (v :: vs)

theorem renderItems_cons (v : Value) (vs : List Value) :
    renderItems (v :: vs) = v.render ++ laterItems vs := by
  cases vs with
  | nil => rw [renderItems, laterItems, List.append_nil]
  | cons w vs => rw [renderItems, laterItems]

theorem ends_laterItems (vs : List Value) (rest : Bytes) :
    Ends (laterItems vs ++ 0x5D :: rest) := by
  cases vs with
  | nil => exact ends_cons (by decide) rest
  | cons v vs => exact ends_cons (by decide) _

theorem readItem_render {v : Value} (h : Reads v) {fuel : Nat}
    (hFuel : 3 * v.render.length ≤ fuel) {behind : Bytes} (hEnds : Ends behind) :
    readItem (fuel + 1) (v.render ++ behind) =
      let (items, flaw, rest) := readItems fuel false behind
      (v.exactOutline :: items, flaw, rest) := by
  rw [readItem, h fuel behind hFuel hEnds]

theorem readItems_later {levels : Nat} {vs : List Value}
    (hItems : ∀ v ∈ vs, v.Canonical levels ∧ Reads v) {fuel : Nat}
    (hFuel : 3 * (laterItems vs).length < fuel) (rest : Bytes) :
    readItems fuel false (laterItems vs ++ 0x5D :: rest) = (itemOutlines vs, none, some rest) := by
  induction vs generalizing fuel with
  | nil =>
    obtain ⟨fuel, rfl⟩ := Nat.exists_eq_add_of_lt hFuel
    rw [laterItems, List.nil_append, readItems, skipBlanks_cons rfl]
    rfl
  | cons v vs ih =>
    obtain ⟨⟨hCanonical, hRead⟩, hLater⟩ := List.forall_mem_cons.mp hItems
    rw [laterItems, List.length_cons, renderItems_cons, List.length_append] at hFuel
    -- The comma and the item take a call each besides those for the value.
    obtain ⟨fuel, rfl⟩ := Nat.exists_eq_add_of_le' (show 2 ≤ fuel by omega)
    obtain ⟨b, bs, hRender, hBlank, hBracket⟩ := hCanonical.starts
    have hItem : readItem (fuel + 1) (v.render ++ (laterItems vs ++ 0x5D :: rest)) =
        (itemOutlines (v :: vs), none, some rest) := by
      rw [readItem_render hRead (by omega) (ends_laterItems vs rest), ih hLater (by omega)]
      rfl
    have hHead : (skipBlanks (v.render ++ (laterItems vs ++ 0x5D :: rest))).head? ≠ some 0x5D := by
      rw [hRender, List.cons_append, skipBlanks_cons hBlank]
      exact fun h => hBracket (Option.some.inj h)
    rw [laterItems, List.cons_append, renderItems_cons, List.append_assoc, readItems,
      skipBlanks_cons rfl]
    simp only [hHead, hItem, if_false, if_true]
    rfl

theorem reads_array {levels : Nat} {vs : List Value}
    (hItems : ∀ v ∈ vs, v.Canonical levels ∧ Reads v) : Reads (.array vs) := by
  refine reads_of_succ (List.cons_ne_nil _ _) ?_
  intro fuel rest hFuel _
  have hRender : Value.render (.array vs) ++ rest = 0x5B :: (renderItems vs ++ 0x5D :: rest) := by
    simp [Value.render]
  have hLength : (Value.render (.array vs)).length = (renderItems vs).length + 2 := by
    simp [Value.render]
  have hRead : readItems fuel true (renderItems vs ++ 0x5D :: rest) =
      (itemOutlines vs, none, some rest) := by
    obtain ⟨fuel, rfl⟩ := Nat.exists_eq_add_of_le' (show 2 ≤ fuel by omega)
    cases vs with
    | nil =>
      rw [renderItems, List.nil_append, readItems, skipBlanks_cons rfl]
      rfl
    | cons v vs =>
      obtain ⟨⟨hCanonical, hFirst⟩, hLater⟩ := List.forall_mem_cons.mp hItems
      rw [renderItems_cons, List.length_append] at hLength
      have hItem : readItem (fuel + 1) (v.render ++ (laterItems vs ++ 0x5D :: rest)) =
          (itemOutlines (v :: vs), none, some rest) := by
        rw [readItem_render hFirst (by omega) (ends_laterItems vs rest),
          readItems_later hLater (by omega)]
        rfl
      obtain ⟨b, bs, hValue, hBlank, hBracket⟩ := hCanonical.starts
      rw [renderItems_cons, List.append_assoc]
      rw [hValue, List.cons_append] at hItem ⊢
      rw [readItems, skipBlanks_cons hBlank]
      simp only [hBracket, hItem, if_false, if_true]
  rw [hRender, readValue, skipBlanks_cons rfl]
  simp only [hRead, if_true]
  rfl

def laterMembers : List (String × Value) → Bytes
  | [] => []
  | m :: ms => 0x2C :: renderMembers (m :: ms)

theorem renderMembers_cons (m : String × Value) (ms : List (String × Value)) :
    renderMembers (m :: ms) = renderText m.1 ++ 0x3A :: m.2.render ++ laterMembers ms := by
  cases ms with
  | nil => rw [renderMembers, laterMembers, List.append_nil]
  | cons k ms => rw [renderMembers, laterMembers]

theorem ends_laterMembers (ms : List (String × Value)) (rest : Bytes) :
    Ends (laterMembers ms ++ 0x7D :: rest) := by
  cases ms with
  | nil => exact ends_cons (by decide) rest
  | cons m ms => exact ends_cons (by decide) _

theorem readMember_render {m : String × Value} (h : Reads m.2) {fuel : Nat}
    (hFuel : 3 * m.2.render.length ≤ fuel) {behind : Bytes} (hEnds : Ends behind) :
    readMember (fuel + 1)
        ((Bytes.ofText m.1).flatMap escapeByte ++ 0x22 :: 0x3A :: (m.2.render ++ behind)) =
      let (members, close, rest) := readMembers fuel false behind
      ((.plain m.1, m.2.exactOutline) :: members, close, rest) := by
  rw [readMember, Text.read_quoted]
  simp only [skipBlanks_cons (show isBlank 0x3A = false from rfl), if_true]
  rw [h fuel behind hFuel hEnds]

theorem renderMembers_append (m : String × Value) (ms : List (String × Value)) (rest : Bytes) :
    renderMembers (m :: ms) ++ rest = 0x22 :: ((Bytes.ofText m.1).flatMap escapeByte ++
      0x22 :: 0x3A :: (m.2.render ++ (laterMembers ms ++ rest))) := by
  rw [renderMembers_cons]
  simp [renderText]

theorem length_renderMembers (m : String × Value) (ms : List (String × Value)) :
    m.2.render.length + (laterMembers ms).length + 3 ≤ (renderMembers (m :: ms)).length := by
  rw [renderMembers_cons]
  simp only [renderText, List.length_append, List.length_cons]
  omega

theorem readMembers_later {ms : List (String × Value)} (hMembers : ∀ m ∈ ms, Reads m.2) {fuel : Nat}
    (hFuel : 3 * (laterMembers ms).length < fuel) (rest : Bytes) :
    readMembers fuel false (laterMembers ms ++ 0x7D :: rest) =
      (memberOutlines ms, .closed, some rest) := by
  induction ms generalizing fuel with
  | nil =>
    obtain ⟨fuel, rfl⟩ := Nat.exists_eq_add_of_lt hFuel
    rw [laterMembers, List.nil_append, readMembers, skipBlanks_cons rfl]
    rfl
  | cons m ms ih =>
    obtain ⟨hRead, hLater⟩ := List.forall_mem_cons.mp hMembers
    rw [laterMembers, List.length_cons] at hFuel
    have hLength := length_renderMembers m ms
    obtain ⟨fuel, rfl⟩ := Nat.exists_eq_add_of_le' (show 2 ≤ fuel by omega)
    rw [laterMembers, List.cons_append, renderMembers_append, readMembers, skipBlanks_cons rfl]
    simp only [skipBlanks_cons (show isBlank 0x22 = false from rfl), if_true]
    rw [readMember_render hRead (by omega) (ends_laterMembers ms rest), ih hLater (by omega)]
    rfl

theorem reads_object {ms : List (String × Value)} (hMembers : ∀ m ∈ ms, Reads m.2) :
    Reads (.object ms) := by
  refine reads_of_succ (List.cons_ne_nil _ _) ?_
  intro fuel rest hFuel _
  have hRender : Value.render (.object ms) ++ rest = 0x7B :: (renderMembers ms ++ 0x7D :: rest) := by
    simp [Value.render]
  have hLength : (Value.render (.object ms)).length = (renderMembers ms).length + 2 := by
    simp [Value.render]
  have hRead : readMembers fuel true (renderMembers ms ++ 0x7D :: rest) =
      (memberOutlines ms, .closed, some rest) := by
    obtain ⟨fuel, rfl⟩ := Nat.exists_eq_add_of_le' (show 2 ≤ fuel by omega)
    cases ms with
    | nil =>
      rw [renderMembers, List.nil_append, readMembers, skipBlanks_cons rfl]
      rfl
    | cons m ms =>
      obtain ⟨hFirst, hLater⟩ := List.forall_mem_cons.mp hMembers
      have hMember := length_renderMembers m ms
      rw [renderMembers_append, readMembers, skipBlanks_cons rfl]
      simp only [if_true]
      rw [readMember_render hFirst (by omega) (ends_laterMembers ms rest),
        readMembers_later hLater (by omega)]
      rfl
  rw [hRender, readValue, skipBlanks_cons rfl]
  simp only [hRead, if_true]
  rfl

theorem Value.Canonical.reads {levels : Nat} {v : Value} (h : v.Canonical levels) : Reads v := by
  induction h with
  | null => exact reads_null
  | bool b => exact reads_bool b
  | number h => exact reads_number h
  | text s => exact reads_text s
  | array h ih => exact reads_array fun v hv => ⟨h v hv, ih v hv⟩
  | object _ _ ih => exact reads_object ih

theorem itemValues_itemOutlines {levels : Nat} {vs : List Value}
    (h : ∀ v ∈ vs, v.exactOutline.value levels = .ok v) :
    itemValues levels (itemOutlines vs) = .ok vs := by
  induction vs with
  | nil => rfl
  | cons v vs ih =>
    obtain ⟨hFirst, hLater⟩ := List.forall_mem_cons.mp h
    exact bind_eq_ok_iff.mpr ⟨v, hFirst, bind_eq_ok_iff.mpr ⟨vs, ih hLater, rfl⟩⟩

theorem memberValues_memberOutlines {levels : Nat} {ms : List (String × Value)}
    (h : ∀ m ∈ ms, m.2.exactOutline.value levels = .ok m.2) :
    memberValues levels (memberOutlines ms) = .ok ms := by
  induction ms with
  | nil => rfl
  | cons m ms ih =>
    obtain ⟨hFirst, hLater⟩ := List.forall_mem_cons.mp h
    refine bind_eq_ok_iff.mpr ⟨m.1, rfl, bind_eq_ok_iff.mpr ⟨m.2, hFirst, ?_⟩⟩
    exact bind_eq_ok_iff.mpr ⟨ms, ih hLater, rfl⟩

/-- The outline of a value spells the value: nothing is lost in an object whose members are sorted. -/
theorem Value.Canonical.value_exactOutline {levels : Nat} {v : Value} (h : v.Canonical levels) :
    v.exactOutline.value levels = .ok v := by
  induction h with
  | null | number _ | text _ => rfl
  | bool b => cases b <;> rfl
  | @array levels vs _ ih =>
    refine bind_eq_ok_iff.mpr ⟨levels + 1, if_neg (by omega), ?_⟩
    refine bind_eq_ok_iff.mpr ⟨vs, itemValues_itemOutlines ih, ?_⟩
    exact bind_eq_ok_iff.mpr ⟨(), rfl, rfl⟩
  | @object levels ms sorted _ ih =>
    refine bind_eq_ok_iff.mpr ⟨levels + 1, if_neg (by omega), ?_⟩
    refine bind_eq_ok_iff.mpr ⟨ms, memberValues_memberOutlines ih, ?_⟩
    refine bind_eq_ok_iff.mpr ⟨(), rfl, ?_⟩
    rw [sorted.ofList_eq]
    rfl

theorem Value.Canonical.read_render {levels : Nat} {v : Value} (h : v.Canonical levels) :
    Outline.read v.render = (v.exactOutline, some []) := by
  have hReads := h.reads (3 * v.render.length + 3) [] (by omega) nofun
  rw [List.append_nil] at hReads
  exact hReads

/-- The outline of the text that a value is written as. -/
def Value.outline (v : Value) : Outline := (Outline.read v.render).1

theorem Value.Canonical.outline_eq {levels : Nat} {v : Value} (h : v.Canonical levels) :
    v.outline = v.exactOutline := by
  rw [outline, h.read_render]

/-- A way for values to arrive at a reader that takes what is read back as it was meant. -/
def KeepsCanonical (arrives : Value → Outline) : Prop :=
  ∀ {levels : Nat} {v : Value}, v.Canonical levels → arrives v = v.exactOutline

theorem keepsCanonical_exactOutline : KeepsCanonical Value.exactOutline := fun _ => rfl

theorem keepsCanonical_outline : KeepsCanonical Value.outline := Value.Canonical.outline_eq

theorem Value.Canonical.run_render {v : Value} (h : v.Canonical Decoder.levels) {d : Decoder α} {a : α}
    (hDecode : d Decoder.levels v.exactOutline = .ok a) : d.run v.render = .ok a := by
  unfold Decoder.run
  rw [h.read_render]
  exact bind_eq_ok_iff.mpr ⟨a, hDecode, rfl⟩

theorem Value.Canonical.decode_render {v : Value} (h : v.Canonical Decoder.levels) :
    (Codec.decode : Decoder Value).run v.render = .ok v :=
  h.run_render h.value_exactOutline

theorem Value.Canonical.render_inj {v w : Value} (hv : v.Canonical Decoder.levels)
    (hw : w.Canonical Decoder.levels) : v.render = w.render ↔ v = w := by
  constructor
  · intro h
    have hRead := hv.decode_render
    rw [h, hw.decode_render] at hRead
    exact (Except.ok.inj hRead).symm
  · exact congrArg Value.render

end Redfish.Json
