import Redfish.Proofs.Json.Reading

/-!
# The compact form

Nothing is written between the parts of a value: a blank in a written value is always one of a text.
-/

namespace Redfish.Json

open Outline

/-- The bytes outside the quoted texts. -/
def unquoted (inside : Bool) : Bytes → Bytes
  | [] => []
  | b :: rest =>
    if inside then
      if b = 0x5C then
        match rest with
        | [] => []
        | _ :: rest => unquoted true rest
      else unquoted (b ≠ 0x22) rest
    else if b = 0x22 then unquoted true rest
    else b :: unquoted false rest

/-- No blank stands outside the quoted texts. -/
def IsCompact (bs : Bytes) : Prop := ∀ b ∈ unquoted false bs, isBlank b = false

theorem unquoted_escape (e : UInt8) (rest : Bytes) :
    unquoted true (0x5C :: e :: rest) = unquoted true rest := by
  rw [unquoted.eq_def]
  rfl

theorem unquoted_inside {b : UInt8} (hQuote : b ≠ 0x22) (hSlash : b ≠ 0x5C) (rest : Bytes) :
    unquoted true (b :: rest) = unquoted true rest := by
  rw [unquoted.eq_def]
  simp [hQuote, hSlash]

theorem unquoted_outside {b : UInt8} (hQuote : b ≠ 0x22) (rest : Bytes) :
    unquoted false (b :: rest) = b :: unquoted false rest := by
  rw [unquoted.eq_def]
  simp [hQuote]

theorem unquoted_escapeByte (b : UInt8) (rest : Bytes) :
    unquoted true (escapeByte b ++ rest) = unquoted true rest := by
  rcases Text.escapeByte_cases b with ⟨e, _, _, hWritten⟩ | ⟨hControl, hWritten⟩ |
    ⟨hQuote, hSlash, _, hWritten⟩
  · rw [hWritten]
    exact unquoted_escape e rest
  · have hDigit : ∀ n < 16, hexDigit n ≠ 0x22 ∧ hexDigit n ≠ 0x5C := by decide
    obtain ⟨hHigh, hHigh'⟩ := hDigit (b.toNat / 16) (by omega)
    obtain ⟨hLow, hLow'⟩ := hDigit (b.toNat % 16) (by omega)
    rw [hWritten]
    refine (unquoted_escape 0x75 _).trans ?_
    refine (unquoted_inside (by decide) (by decide) _).trans ?_
    refine (unquoted_inside (by decide) (by decide) _).trans ?_
    exact (unquoted_inside hHigh hHigh' _).trans (unquoted_inside hLow hLow' rest)
  · rw [hWritten]
    exact unquoted_inside hQuote hSlash rest

theorem unquoted_renderText (s : String) (rest : Bytes) :
    unquoted false (renderText s ++ rest) = unquoted false rest := by
  have hInside : ∀ bs : Bytes,
      unquoted true (bs.flatMap escapeByte ++ 0x22 :: rest) = unquoted false rest := by
    intro bs
    induction bs with
    | nil =>
      rw [List.flatMap_nil, List.nil_append, unquoted.eq_def]
      rfl
    | cons b bs ih => rw [List.flatMap_cons, List.append_assoc, unquoted_escapeByte, ih]
  have hRender : renderText s ++ rest = 0x22 :: ((Bytes.ofText s).flatMap escapeByte ++ 0x22 :: rest) := by
    simp [renderText]
  rw [hRender, unquoted.eq_def]
  exact hInside _

theorem isCompact_cons {b : UInt8} (hQuote : b ≠ 0x22) (hBlank : isBlank b = false) {rest : Bytes}
    (h : IsCompact rest) : IsCompact (b :: rest) := by
  unfold IsCompact
  rw [unquoted_outside hQuote]
  exact List.forall_mem_cons.mpr ⟨hBlank, h⟩

theorem isCompact_of_plain {bs rest : Bytes} (hPlain : ∀ b ∈ bs, b ≠ 0x22 ∧ isBlank b = false)
    (h : IsCompact rest) : IsCompact (bs ++ rest) := by
  induction bs with
  | nil => exact h
  | cons b bs ih =>
    obtain ⟨⟨hQuote, hBlank⟩, hLater⟩ := List.forall_mem_cons.mp hPlain
    exact isCompact_cons hQuote hBlank (ih hLater)

theorem isCompact_items {vs : List Value}
    (hItems : ∀ v ∈ vs, ∀ {rest}, IsCompact rest → IsCompact (v.render ++ rest)) {rest : Bytes}
    (h : IsCompact rest) : IsCompact (laterItems vs ++ rest) := by
  induction vs with
  | nil => exact h
  | cons v vs ih =>
    obtain ⟨hFirst, hLater⟩ := List.forall_mem_cons.mp hItems
    rw [laterItems, renderItems_cons, List.cons_append, List.append_assoc]
    exact isCompact_cons (by decide) rfl (hFirst (ih hLater))

theorem isCompact_members {ms : List (String × Value)}
    (hMembers : ∀ m ∈ ms, ∀ {rest}, IsCompact rest → IsCompact (m.2.render ++ rest)) {rest : Bytes}
    (h : IsCompact rest) : IsCompact (laterMembers ms ++ rest) := by
  induction ms with
  | nil => exact h
  | cons m ms ih =>
    obtain ⟨hFirst, hLater⟩ := List.forall_mem_cons.mp hMembers
    have hValue := isCompact_cons (b := 0x3A) (by decide) rfl (hFirst (ih hLater))
    rw [laterMembers, renderMembers_cons, List.cons_append, List.append_assoc, List.append_assoc]
    refine isCompact_cons (by decide) rfl ?_
    unfold IsCompact
    rw [unquoted_renderText]
    exact hValue

theorem Value.Canonical.isCompact_append {levels : Nat} {v : Value} (h : v.Canonical levels)
    {rest : Bytes} (hRest : IsCompact rest) : IsCompact (v.render ++ rest) := by
  induction h generalizing rest with
  | null => exact isCompact_of_plain (by decide +kernel) hRest
  | bool b => cases b <;> exact isCompact_of_plain (by decide +kernel) hRest
  | number h => exact isCompact_of_plain h.compact hRest
  | text s =>
    unfold IsCompact
    rw [Value.render, unquoted_renderText]
    exact hRest
  | @array _ vs _ ih =>
    have hEnd := isCompact_cons (b := 0x5D) (by decide) rfl hRest
    rw [Value.render, List.cons_append, List.cons_append, List.append_assoc]
    refine isCompact_cons (by decide) rfl ?_
    cases vs with
    | nil => exact hEnd
    | cons v vs =>
      obtain ⟨hFirst, hLater⟩ := List.forall_mem_cons.mp ih
      rw [renderItems_cons, List.append_assoc]
      exact hFirst (isCompact_items hLater hEnd)
  | @object _ ms _ _ ih =>
    have hEnd := isCompact_cons (b := 0x7D) (by decide) rfl hRest
    rw [Value.render, List.cons_append, List.cons_append, List.append_assoc]
    refine isCompact_cons (by decide) rfl ?_
    cases ms with
    | nil => exact hEnd
    | cons m ms =>
      obtain ⟨hFirst, hLater⟩ := List.forall_mem_cons.mp ih
      have hValue := isCompact_cons (b := 0x3A) (by decide) rfl (hFirst (isCompact_members hLater hEnd))
      rw [renderMembers_cons, List.append_assoc, List.append_assoc]
      unfold IsCompact
      rw [unquoted_renderText]
      exact hValue

theorem Value.Canonical.isCompact {levels : Nat} {v : Value} (h : v.Canonical levels) :
    IsCompact v.render := by
  have hAll : IsCompact (v.render ++ []) := h.isCompact_append nofun
  rwa [List.append_nil] at hAll

end Redfish.Json
