/-!
# UTF-8 text and its bytes

Bodies travel as bytes and are shown as text. Reading bytes back as text is exact on the bytes of a
text (`text?_ofText`); bytes that are no UTF-8 are shown with U+FFFD in place of each ill-formed
piece.
-/

namespace Redfish

abbrev Bytes := List UInt8

namespace Bytes

def ofText (s : String) : Bytes := s.toUTF8.data.toList

def text? (bs : Bytes) : Option String := String.fromUTF8? ⟨bs.toArray⟩

theorem ofText_ofList (cs : List Char) : ofText (String.ofList cs) = cs.flatMap String.utf8EncodeChar := by
  simp [ofText, List.utf8Encode]

theorem ofText_append (s t : String) : ofText (s ++ t) = ofText s ++ ofText t := by
  simp [ofText]

theorem text?_ofText (s : String) : text? (ofText s) = some s := by
  simp [text?, ofText, String.fromUTF8?, String.fromUTF8, s.isValidUTF8]

theorem ofText_inj {s t : String} (h : ofText s = ofText t) : s = t := by
  have := text?_ofText s
  rw [h, text?_ofText] at this
  exact (Option.some.inj this).symm

/-- The shape that a leading byte promises: how many bytes follow it, the bounds of the first of
them, and the bits that the leading byte itself carries. -/
def lead? (b : UInt8) : Option (Nat × UInt8 × UInt8 × Nat) :=
  let carried (modulus : Nat) := b.toNat % modulus
  if 0xC2 ≤ b ∧ b ≤ 0xDF then some (1, 0x80, 0xBF, carried 32)
  else if b = 0xE0 then some (2, 0xA0, 0xBF, carried 16)
  else if b = 0xED then some (2, 0x80, 0x9F, carried 16)
  else if 0xE1 ≤ b ∧ b ≤ 0xEF then some (2, 0x80, 0xBF, carried 16)
  else if b = 0xF0 then some (3, 0x90, 0xBF, carried 8)
  else if 0xF1 ≤ b ∧ b ≤ 0xF3 then some (3, 0x80, 0xBF, carried 8)
  else if b = 0xF4 then some (3, 0x80, 0x8F, carried 8)
  else none

/-- Reads the `count` bytes that follow a leading byte, the first of them within `low` and `high`.
An ill-formed sequence ends before the byte that does not fit. -/
def followers : (count : Nat) → (low high : UInt8) → (code : Nat) → Bytes → Option Char × Bytes
  | 0, _, _, code, bs => (some (Char.ofNat code), bs)
  | _ + 1, _, _, _, [] => (none, [])
  | count + 1, low, high, code, b :: bs =>
    if low ≤ b ∧ b ≤ high then followers count 0x80 0xBF (code * 64 + b.toNat % 64) bs
    else (none, b :: bs)

theorem length_followers_le (count : Nat) (low high : UInt8) (code : Nat) (bs : Bytes) :
    (followers count low high code bs).2.length ≤ bs.length := by
  induction count generalizing low high code bs with
  | zero => simp [followers]
  | succ n ih =>
    cases bs with
    | nil => simp [followers]
    | cons b bs =>
      simp only [followers]
      split
      · exact Nat.le_succ_of_le (ih ..)
      · simp

/-- The characters of the bytes, U+FFFD standing for each ill-formed piece. -/
def lossyChars : Bytes → List Char
  | [] => []
  | b :: bs =>
    if b < 0x80 then Char.ofNat b.toNat :: lossyChars bs
    else match lead? b with
      | none => '\uFFFD' :: lossyChars bs
      | some (count, low, high, code) =>
        (followers count low high code bs).1.getD '\uFFFD' ::
          lossyChars (followers count low high code bs).2
termination_by bs => bs.length
decreasing_by
  · exact Nat.lt_succ_self _
  · exact Nat.lt_succ_self _
  · exact Nat.lt_succ_of_le (length_followers_le ..)

def text (bs : Bytes) : String := (text? bs).getD (String.ofList (lossyChars bs))

@[simp] theorem text_ofText (s : String) : text (ofText s) = s := by
  simp [text, text?_ofText]

end Bytes

end Redfish
