/-!
# Bytes and text

Text in UTF-8, read in two ways. The strict one accepts exactly the bytes of some text. The lenient
one accepts all bytes: each longest run of bytes that could have become a character, and each byte
that cannot start one, gives a replacement character.
-/

namespace PresentationVerifier.Encoding

/-- The UTF-8 bytes of a text. -/
def utf8Bytes (s : String) : List UInt8 :=
  s.toByteArray.data.toList

/-- The text that has the given UTF-8 bytes. -/
def utf8Text? (bytes : List UInt8) : Option String :=
  String.fromUTF8? ⟨bytes.toArray⟩

/-- Reading undoes writing. -/
@[simp] theorem utf8Text?_utf8Bytes (s : String) : utf8Text? (utf8Bytes s) = some s := by
  have h : (⟨(utf8Bytes s).toArray⟩ : ByteArray) = s.toByteArray := by
    simp [utf8Bytes]
  rw [utf8Text?, h, String.fromUTF8?, dif_pos s.isValidUTF8]
  rfl

/-- Bytes that are read as a text are the bytes of that text. -/
theorem utf8Bytes_of_utf8Text? {bytes : List UInt8} {s : String} (h : utf8Text? bytes = some s) :
    bytes = utf8Bytes s := by
  rw [utf8Text?, String.fromUTF8?] at h
  split at h
  · injection h with h
    subst h
    simp [utf8Bytes, String.fromUTF8]
  · cases h

/-! ## Lenient reading -/

/-- The character that stands for bytes that are no text. -/
def replacement : Char := '\uFFFD'

/-- Where a lenient reading stands between two bytes: bytes of a character that are still needed,
the range that the next one has to lie in, and the value of the bits so far. -/
structure Unfinished where
  needed : Nat
  least : Nat
  most : Nat
  bits : Nat
deriving DecidableEq, Repr

/-- What a byte is at the start of a character: a character of its own, the start of a longer one, or
neither. -/
def firstByte (b : Nat) : Char ⊕ Option Unfinished :=
  if b < 0x80 then .inl (Char.ofNat b)
  else if 0xC2 ≤ b ∧ b ≤ 0xDF then .inr (some ⟨1, 0x80, 0xBF, b - 0xC0⟩)
  else if b = 0xE0 then .inr (some ⟨2, 0xA0, 0xBF, 0⟩)
  else if b = 0xED then .inr (some ⟨2, 0x80, 0x9F, 0xD⟩)
  else if 0xE1 ≤ b ∧ b ≤ 0xEF then .inr (some ⟨2, 0x80, 0xBF, b - 0xE0⟩)
  else if b = 0xF0 then .inr (some ⟨3, 0x90, 0xBF, 0⟩)
  else if 0xF1 ≤ b ∧ b ≤ 0xF3 then .inr (some ⟨3, 0x80, 0xBF, b - 0xF0⟩)
  else if b = 0xF4 then .inr (some ⟨3, 0x80, 0x8F, 4⟩)
  else .inr none

/-- The characters of the bytes, given where the reading stands. -/
def lossyFrom : Option Unfinished → List UInt8 → List Char
  | none, [] => []
  | some _, [] => [replacement]
  | state, b :: rest =>
    match state with
    | some p =>
      if p.least ≤ b.toNat ∧ b.toNat ≤ p.most then
        if p.needed ≤ 1 then Char.ofNat (p.bits * 64 + (b.toNat - 0x80)) :: lossyFrom none rest
        else lossyFrom (some ⟨p.needed - 1, 0x80, 0xBF, p.bits * 64 + (b.toNat - 0x80)⟩) rest
      else
        match firstByte b.toNat with
        | .inl c => replacement :: c :: lossyFrom none rest
        | .inr (some q) => replacement :: lossyFrom (some q) rest
        | .inr none => replacement :: replacement :: lossyFrom none rest
    | none =>
      match firstByte b.toNat with
      | .inl c => c :: lossyFrom none rest
      | .inr (some q) => lossyFrom (some q) rest
      | .inr none => replacement :: lossyFrom none rest

/-- The text of the bytes, with a replacement character for what is no text. -/
def lossyText (bytes : List UInt8) : String :=
  String.ofList (lossyFrom none bytes)

/-! ## Lenient reading of text -/

/-- The start of a character of two bytes, by the bits that it holds. -/
theorem firstByte_two : ∀ a < 32, 2 ≤ a → firstByte (a + 0xC0) = .inr (some ⟨1, 0x80, 0xBF, a⟩) := by
  decide

/-- The start of a character of three bytes. After the least and after the one of the surrogates fewer
bytes may follow. -/
theorem firstByte_three : ∀ a < 16, firstByte (a + 0xE0) =
    .inr (some ⟨2, if a = 0 then 0xA0 else 0x80, if a = 0xD then 0x9F else 0xBF, a⟩) := by
  decide

/-- The start of a character of four bytes. -/
theorem firstByte_four : ∀ a < 5, firstByte (a + 0xF0) =
    .inr (some ⟨3, if a = 0 then 0x90 else 0x80, if a = 4 then 0x8F else 0xBF, a⟩) := by
  decide

/-- A byte within a character that needs more bytes after it. -/
theorem lossyFrom_more {needed least most bits x : Nat} (hBits : x < 64)
    (hLeast : least ≤ x + 0x80) (hMost : x + 0x80 ≤ most) (rest : List UInt8) :
    lossyFrom (some ⟨needed + 2, least, most, bits⟩) (UInt8.ofNat (x + 0x80) :: rest) =
      lossyFrom (some ⟨needed + 1, 0x80, 0xBF, bits * 64 + x⟩) rest := by
  have hByte : (UInt8.ofNat (x + 0x80)).toNat = x + 0x80 :=
    UInt8.toNat_ofNat_of_lt' (show _ < 256 by omega)
  simp only [lossyFrom, hByte]
  rw [if_pos ⟨hLeast, hMost⟩, if_neg (by omega), Nat.add_sub_cancel]
  rfl

/-- The last byte of a character. -/
theorem lossyFrom_last {least most bits x : Nat} (hBits : x < 64) (hLeast : least ≤ x + 0x80)
    (hMost : x + 0x80 ≤ most) (rest : List UInt8) :
    lossyFrom (some ⟨1, least, most, bits⟩) (UInt8.ofNat (x + 0x80) :: rest) =
      Char.ofNat (bits * 64 + x) :: lossyFrom none rest := by
  have hByte : (UInt8.ofNat (x + 0x80)).toNat = x + 0x80 :=
    UInt8.toNat_ofNat_of_lt' (show _ < 256 by omega)
  simp only [lossyFrom, hByte]
  rw [if_pos ⟨hLeast, hMost⟩, if_pos (by omega), Nat.add_sub_cancel]

/-- The first byte of a character that needs more bytes. -/
theorem lossyFrom_first {a : Nat} (ha : a < 256) (rest : List UInt8) {p : Unfinished}
    (h : firstByte a = .inr (some p)) :
    lossyFrom none (UInt8.ofNat a :: rest) = lossyFrom (some p) rest := by
  have hByte : (UInt8.ofNat a).toNat = a :=
    UInt8.toNat_ofNat_of_lt' (show _ < 256 by omega)
  simp only [lossyFrom, hByte, h]

/-- The bytes of a character are read as that character. -/
theorem lossyFrom_utf8EncodeChar (c : Char) (rest : List UInt8) :
    lossyFrom none (String.utf8EncodeChar c ++ rest) = c :: lossyFrom none rest := by
  have hChar : Char.ofNat c.val.toNat = c := Char.ofNat_toNat c
  have hValid : c.val.toNat < 0xD800 ∨ 0xDFFF < c.val.toNat ∧ c.val.toNat < 0x110000 := c.valid
  unfold String.utf8EncodeChar
  generalize c.val.toNat = v at hChar hValid
  dsimp only
  -- the four lengths of a character
  split
  · next hOne =>
    have hByte : (UInt8.ofNat v).toNat = v :=
      UInt8.toNat_ofNat_of_lt' (show _ < 256 by omega)
    simp only [List.cons_append, List.nil_append, lossyFrom, hByte, firstByte]
    rw [if_pos (by omega), hChar]
  split
  · next hTwo =>
    have hFirst := firstByte_two (v / 64 % 32) (by omega) (by omega)
    simp only [List.cons_append, List.nil_append]
    rw [lossyFrom_first (by omega) _ hFirst, lossyFrom_last (by omega) (by omega) (by omega),
      show v / 64 % 32 * 64 + v % 64 = v by omega, hChar]
  split
  · next hThree =>
    have hFirst := firstByte_three (v / 4096 % 16) (by omega)
    simp only [List.cons_append, List.nil_append]
    -- the second byte is not below the least, as two bytes are not enough, and is not a surrogate's
    have hLeast : (if v / 4096 % 16 = 0 then 0xA0 else 0x80) ≤ v / 64 % 64 + 0x80 := by
      split <;> omega
    have hMost : v / 64 % 64 + 0x80 ≤ (if v / 4096 % 16 = 0xD then 0x9F else 0xBF) := by
      split <;> omega
    rw [lossyFrom_first (by omega) _ hFirst, lossyFrom_more (by omega) hLeast hMost,
      lossyFrom_last (by omega) (by omega) (by omega),
      show (v / 4096 % 16 * 64 + v / 64 % 64) * 64 + v % 64 = v by omega, hChar]
  · next hFour =>
    have hFirst := firstByte_four (v / 262144 % 8) (by omega)
    simp only [List.cons_append, List.nil_append]
    have hLeast : (if v / 262144 % 8 = 0 then 0x90 else 0x80) ≤ v / 4096 % 64 + 0x80 := by
      split <;> omega
    have hMost : v / 4096 % 64 + 0x80 ≤ (if v / 262144 % 8 = 4 then 0x8F else 0xBF) := by
      split <;> omega
    rw [lossyFrom_first (by omega) _ hFirst, lossyFrom_more (by omega) hLeast hMost,
      lossyFrom_more (by omega) (by omega) (by omega), lossyFrom_last (by omega) (by omega) (by omega),
      show ((v / 262144 % 8 * 64 + v / 4096 % 64) * 64 + v / 64 % 64) * 64 + v % 64 = v by omega, hChar]

theorem utf8Bytes_ofList (cs : List Char) :
    utf8Bytes (String.ofList cs) = cs.flatMap String.utf8EncodeChar := by
  rw [utf8Bytes, String.toByteArray_ofList, List.utf8Encode, List.toList_data_toByteArray]

/-- **Lenient reading of text** leaves it as it is. -/
@[simp] theorem lossyText_utf8Bytes (s : String) : lossyText (utf8Bytes s) = s := by
  have hChars : ∀ cs : List Char, lossyFrom none (cs.flatMap String.utf8EncodeChar) = cs := by
    intro cs
    induction cs with
    | nil => rfl
    | cons c cs ih => rw [List.flatMap_cons, lossyFrom_utf8EncodeChar, ih]
  have hBytes : utf8Bytes s = s.toList.flatMap String.utf8EncodeChar := by
    rw [← utf8Bytes_ofList, String.ofList_toList]
  rw [lossyText, hBytes, hChars, String.ofList_toList]

end PresentationVerifier.Encoding
