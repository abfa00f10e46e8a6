import Mathlib.Data.List.Forall2
import Mathlib.Data.List.TakeWhile
import Mathlib.Data.UInt
import Redfish.Text.Utf8

/-!
# Pieces of texts

A piece of a text ends where the first character stands that does not belong to it. Pieces are read each
by itself, and put together they have no characters but their own and the separator. An ASCII character is
one byte, its code, and the bytes of every other character lie above these.
-/

namespace Redfish

section

variable {p : α → Bool} {piece rest : List α}

theorem takeWhile_piece (hPiece : ∀ a ∈ piece, p a = true) (hRest : ∀ a ∈ rest.head?, p a = false) :
    (piece ++ rest).takeWhile p = piece := by
  rw [List.takeWhile_append_of_pos hPiece]
  cases rest with
  | nil => simp
  | cons a rest => simp [hRest a rfl]

theorem dropWhile_piece (hPiece : ∀ a ∈ piece, p a = true) (hRest : ∀ a ∈ rest.head?, p a = false) :
    (piece ++ rest).dropWhile p = rest := by
  rw [List.dropWhile_append_of_pos hPiece]
  cases rest with
  | nil => rfl
  | cons a rest => simp [hRest a rfl]

theorem dropWhile_of_head? (h : ∀ a ∈ rest.head?, p a = false) : rest.dropWhile p = rest :=
  dropWhile_piece (List.forall_mem_nil _) h

end

theorem forall₂_of_mapM {f : α → Option β} {as : List α} {bs : List β} (h : as.mapM f = some bs) :
    List.Forall₂ (fun a b => f a = some b) as bs := by
  induction as generalizing bs with
  | nil =>
    obtain rfl := Option.some.inj h
    exact .nil
  | cons a as ih =>
    rw [List.mapM_cons] at h
    obtain ⟨b, hb, h⟩ := Option.bind_eq_some_iff.mp h
    obtain ⟨bs, hbs, h⟩ := Option.bind_eq_some_iff.mp h
    obtain rfl := Option.some.inj h
    exact .cons hb (ih hbs)

theorem exists_of_mem_mapM {f : α → Option β} {as : List α} {bs : List β} (h : as.mapM f = some bs) :
    ∀ b ∈ bs, ∃ a ∈ as, f a = some b := by
  have hParts := forall₂_of_mapM h
  clear h
  induction hParts with
  | nil => exact nofun
  | cons hPart _ ih =>
    rw [List.forall_mem_cons]
    refine ⟨⟨_, List.mem_cons_self, hPart⟩, ?_⟩
    intro b hb
    obtain ⟨a, ha, hPart⟩ := ih b hb
    exact ⟨a, List.mem_cons_of_mem _ ha, hPart⟩

theorem mapM_map {f : β → Option γ} {g : α → β} {k : α → γ} {as : List α}
    (h : ∀ a ∈ as, f (g a) = some (k a)) : (as.map g).mapM f = some (as.map k) := by
  induction as with
  | nil => rfl
  | cons a as ih =>
    obtain ⟨ha, has⟩ := List.forall_mem_cons.mp h
    rw [List.map_cons, List.mapM_cons, ha, ih has]
    rfl

theorem of_mem_intercalate {a separator : α} {ls : List (List α)} (h : a ∈ [separator].intercalate ls) :
    a = separator ∨ ∃ l ∈ ls, a ∈ l := by
  induction ls with
  | nil => cases h
  | cons l ls ih =>
    by_cases hLast : ls = []
    · subst hLast
      rw [List.intercalate_singleton] at h
      exact .inr ⟨l, List.mem_cons_self, h⟩
    · rw [List.intercalate_cons_of_ne_nil hLast] at h
      simp only [List.mem_append, List.mem_singleton] at h
      rcases h with (h | rfl) | h
      · exact .inr ⟨l, List.mem_cons_self, h⟩
      · exact .inl rfl
      · exact (ih h).imp_right fun ⟨l', hl', ha⟩ => ⟨l', List.mem_cons_of_mem l hl', ha⟩

namespace Bytes

theorem toNat_toUInt8 {c : Char} (h : c.toNat < 128) : c.toUInt8.toNat = c.toNat := by
  change c.toNat % 256 = c.toNat
  omega

theorem utf8Size_eq_one_iff (c : Char) : c.utf8Size = 1 ↔ c.toNat < 128 := by
  rw [Char.utf8Size_eq_one_iff, UInt32.le_iff_toNat_le]
  exact Nat.lt_succ_iff.symm

theorem utf8EncodeChar_of_lt {c : Char} (h : c.toNat < 128) :
    String.utf8EncodeChar c = [c.toUInt8] := by
  rw [String.utf8EncodeChar_eq_singleton ((utf8Size_eq_one_iff c).mpr h), Char.toUInt8_val]

theorem le_of_mem_utf8EncodeChar {c : Char} (h : ¬c.toNat < 128) :
    ∀ b ∈ String.utf8EncodeChar c, 128 ≤ b.toNat := by
  have hOr : ∀ {mark : UInt8}, 128 ≤ mark.toNat → ∀ b : UInt8, 128 ≤ (b ||| mark).toNat := by
    intro mark hMark b
    rw [UInt8.toNat_or]
    exact Nat.le_trans hMark Nat.right_le_or
  have hSmall : c.utf8Size ≠ 1 := fun hOne => h ((utf8Size_eq_one_iff c).mp hOne)
  rcases Char.utf8Size_eq c with hSize | hSize | hSize | hSize
  · exact absurd hSize hSmall
  · rw [String.utf8EncodeChar_eq_cons_cons hSize]
    simp only [List.forall_mem_cons]
    exact ⟨hOr (by decide) _, hOr (by decide) _, nofun⟩
  · rw [String.utf8EncodeChar_eq_cons_cons_cons hSize]
    simp only [List.forall_mem_cons]
    exact ⟨hOr (by decide) _, hOr (by decide) _, hOr (by decide) _, nofun⟩
  · rw [String.utf8EncodeChar_eq_cons_cons_cons_cons hSize]
    simp only [List.forall_mem_cons]
    exact ⟨hOr (by decide) _, hOr (by decide) _, hOr (by decide) _, hOr (by decide) _, nofun⟩

theorem all_ofText (p : UInt8 → Bool) (s : String) :
    (ofText s).all p = s.toList.all fun c => (String.utf8EncodeChar c).all p := by
  rw [← List.all_flatMap, ← ofText_ofList, String.ofList_toList]

/-- A class of bytes as a class of characters: it has an ASCII character with its code, and every other
character with all of the higher bytes. -/
theorem all_ofText_of_class {p : UInt8 → Bool} {q : Char → Bool}
    (hAscii : ∀ c : Char, c.toNat < 128 → p c.toUInt8 = q c)
    (hHigh : ∀ c : Char, ¬c.toNat < 128 → ∀ b : UInt8, 128 ≤ b.toNat → p b = q c) (s : String) :
    (ofText s).all p = s.toList.all q := by
  rw [all_ofText]
  congr 1
  funext c
  by_cases h : c.toNat < 128
  · rw [utf8EncodeChar_of_lt h, List.all_cons, List.all_nil, Bool.and_true, hAscii c h]
  · have hSame : ∀ b ∈ String.utf8EncodeChar c, p b = q c :=
      fun b hb => hHigh c h b (le_of_mem_utf8EncodeChar h b hb)
    cases hClass : q c with
    | true => exact List.all_eq_true.mpr fun b hb => (hSame b hb).trans hClass
    | false =>
      obtain ⟨b, hb⟩ := List.exists_mem_of_ne_nil _ (String.utf8EncodeChar_ne_nil (c := c))
      exact List.all_eq_false.mpr ⟨b, hb, ne_true_of_eq_false ((hSame b hb).trans hClass)⟩

end Bytes

end Redfish
