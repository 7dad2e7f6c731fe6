/-!
# Base64 without padding

Three bytes are written as four characters of an alphabet, one or two remaining bytes as two or
three. Reading accepts exactly what writing produces: only characters of the alphabet, no count of
characters that no bytes give, and zeros in the bits that the last character does not need.
-/

namespace PresentationVerifier.Encoding

/-- A base64 alphabet: letters and digits are common to all, the last two characters differ. -/
structure Alphabet where
  /-- The character of 62. -/
  plus : Char
  /-- The character of 63. -/
  slash : Char

/-- The alphabet with `+` and `/`. -/
def standard : Alphabet := ⟨'+', '/'⟩

/-- The alphabet with `-` and `_`, which need no escape in a URL. -/
def urlSafe : Alphabet := ⟨'-', '_'⟩

/-- The character of a number below 64. -/
def Alphabet.char (α : Alphabet) (n : Nat) : Char :=
  if n < 26 then Char.ofNat ('A'.toNat + n)
  else if n < 52 then Char.ofNat ('a'.toNat + (n - 26))
  else if n < 62 then Char.ofNat ('0'.toNat + (n - 52))
  else if n = 62 then α.plus
  else α.slash

/-- The number of a character. -/
def Alphabet.index? (α : Alphabet) (c : Char) : Option Nat :=
  if 'A'.toNat ≤ c.toNat ∧ c.toNat ≤ 'Z'.toNat then some (c.toNat - 'A'.toNat)
  else if 'a'.toNat ≤ c.toNat ∧ c.toNat ≤ 'z'.toNat then some (c.toNat - 'a'.toNat + 26)
  else if '0'.toNat ≤ c.toNat ∧ c.toNat ≤ '9'.toNat then some (c.toNat - '0'.toNat + 52)
  else if c = α.plus then some 62
  else if c = α.slash then some 63
  else none

/-- The number of a character is one of 64, and that character is the one of the number. -/
theorem Alphabet.char_of_index? {α : Alphabet} {c : Char} {n : Nat} (h : α.index? c = some n) :
    n < 64 ∧ α.char n = c := by
  have hUpper : 'A'.toNat = 65 ∧ 'Z'.toNat = 90 := by decide
  have hLower : 'a'.toNat = 97 ∧ 'z'.toNat = 122 := by decide
  have hDigit : '0'.toNat = 48 ∧ '9'.toNat = 57 := by decide
  unfold index? at h
  split at h
  · next hRange =>
    obtain rfl := Option.some.inj h
    refine ⟨by omega, ?_⟩
    rw [char, if_pos (by omega), Nat.add_sub_cancel' hRange.1, Char.ofNat_toNat]
  split at h
  · next hRange =>
    obtain rfl := Option.some.inj h
    refine ⟨by omega, ?_⟩
    rw [char, if_neg (by omega), if_pos (by omega), Nat.add_sub_cancel, Nat.add_sub_cancel' hRange.1,
      Char.ofNat_toNat]
  split at h
  · next hRange =>
    obtain rfl := Option.some.inj h
    refine ⟨by omega, ?_⟩
    rw [char, if_neg (by omega), if_neg (by omega), if_pos (by omega), Nat.add_sub_cancel,
      Nat.add_sub_cancel' hRange.1, Char.ofNat_toNat]
  split at h
  · next hPlus =>
    obtain rfl := Option.some.inj h
    exact ⟨by omega, hPlus.symm⟩
  split at h
  · next hSlash =>
    obtain rfl := Option.some.inj h
    exact ⟨by omega, hSlash.symm⟩
  · cases h

/-- The characters of an alphabet are distinct, so that each is read as the number it was written for. -/
def Alphabet.Distinct (α : Alphabet) : Prop :=
  ∀ n < 64, α.index? (α.char n) = some n

/-- The characters of the alphabet for URLs are distinct. -/
@[simp] theorem urlSafe_distinct : urlSafe.Distinct := by
  unfold Alphabet.Distinct
  decide

namespace Base64

/-- The characters of some bytes. -/
def encodeChars (α : Alphabet) : List UInt8 → List Char
  | [] => []
  | [a] => [α.char (a.toNat / 4), α.char (a.toNat % 4 * 16)]
  | [a, b] =>
    [α.char (a.toNat / 4), α.char (a.toNat % 4 * 16 + b.toNat / 16), α.char (b.toNat % 16 * 4)]
  | a :: b :: c :: rest =>
    α.char (a.toNat / 4) :: α.char (a.toNat % 4 * 16 + b.toNat / 16) ::
      α.char (b.toNat % 16 * 4 + c.toNat / 64) :: α.char (c.toNat % 64) :: encodeChars α rest

/-- The bytes of some characters. -/
def decodeChars (α : Alphabet) : List Char → Option (List UInt8)
  | [] => some []
  | [_] => none
  | [a, b] =>
    (α.index? a).bind fun i => (α.index? b).bind fun j =>
      if j % 16 = 0 then some [UInt8.ofNat (i * 4 + j / 16)] else none
  | [a, b, c] =>
    (α.index? a).bind fun i => (α.index? b).bind fun j => (α.index? c).bind fun k =>
      if k % 4 = 0 then
        some [UInt8.ofNat (i * 4 + j / 16), UInt8.ofNat (j % 16 * 16 + k / 4)]
      else none
  | a :: b :: c :: d :: rest =>
    (α.index? a).bind fun i => (α.index? b).bind fun j => (α.index? c).bind fun k =>
      (α.index? d).bind fun l =>
        (decodeChars α rest).map fun bytes =>
          UInt8.ofNat (i * 4 + j / 16) :: UInt8.ofNat (j % 16 * 16 + k / 4) ::
            UInt8.ofNat (k % 4 * 64 + l) :: bytes

/-- The text of some bytes. -/
def encode (α : Alphabet) (bytes : List UInt8) : String :=
  String.ofList (encodeChars α bytes)

/-- The bytes of a text. -/
def decode? (α : Alphabet) (s : String) : Option (List UInt8) :=
  decodeChars α s.toList

/-- The bytes of a text from which any padding at the end is taken off first. -/
def decodeTrimmed? (α : Alphabet) (s : String) : Option (List UInt8) :=
  decodeChars α (s.toList.reverse.dropWhile (· = '=')).reverse

/-- The bytes of a text that may be padded with `=`, fully or in part, but not beyond a multiple of
four characters. -/
def decodePadded? (α : Alphabet) (s : String) : Option (List UInt8) :=
  let chars := (s.toList.reverse.dropWhile (· = '=')).reverse
  let padding := s.toList.length - chars.length
  if padding = 0 ∨ (chars.length % 4 ≠ 0 ∧ chars.length % 4 + padding ≤ 4) then
    decodeChars α chars
  else none

/-! ## Canonical form -/

variable {α : Alphabet}

/-- Characters that are read as bytes are those that these bytes are written as. -/
theorem encodeChars_of_decodeChars {cs : List Char} {bytes : List UInt8}
    (h : decodeChars α cs = some bytes) : encodeChars α bytes = cs := by
  -- by induction on the groups of four characters, the last of which may be shorter
  induction cs using decodeChars.induct generalizing bytes with
  | case1 =>
    obtain rfl := Option.some.inj h
    rfl
  | case2 => cases h
  | case3 a b =>
    simp only [decodeChars, Option.bind_eq_some_iff, Option.ite_none_right_eq_some,
      Option.some.injEq] at h
    obtain ⟨i, hi, j, hj, hZero, rfl⟩ := h
    obtain ⟨hi, rfl⟩ := Alphabet.char_of_index? hi
    obtain ⟨hj, rfl⟩ := Alphabet.char_of_index? hj
    have hFirst : (UInt8.ofNat (i * 4 + j / 16)).toNat = i * 4 + j / 16 :=
      UInt8.toNat_ofNat_of_lt' (show _ < 256 by omega)
    rw [encodeChars, hFirst, show (i * 4 + j / 16) / 4 = i by omega,
      show (i * 4 + j / 16) % 4 * 16 = j by omega]
  | case4 a b c =>
    simp only [decodeChars, Option.bind_eq_some_iff, Option.ite_none_right_eq_some,
      Option.some.injEq] at h
    obtain ⟨i, hi, j, hj, k, hk, hZero, rfl⟩ := h
    obtain ⟨hi, rfl⟩ := Alphabet.char_of_index? hi
    obtain ⟨hj, rfl⟩ := Alphabet.char_of_index? hj
    obtain ⟨hk, rfl⟩ := Alphabet.char_of_index? hk
    have hFirst : (UInt8.ofNat (i * 4 + j / 16)).toNat = i * 4 + j / 16 :=
      UInt8.toNat_ofNat_of_lt' (show _ < 256 by omega)
    have hSecond : (UInt8.ofNat (j % 16 * 16 + k / 4)).toNat = j % 16 * 16 + k / 4 :=
      UInt8.toNat_ofNat_of_lt' (show _ < 256 by omega)
    rw [encodeChars, hFirst, hSecond, show (i * 4 + j / 16) / 4 = i by omega,
      show (i * 4 + j / 16) % 4 * 16 + (j % 16 * 16 + k / 4) / 16 = j by omega,
      show (j % 16 * 16 + k / 4) % 16 * 4 = k by omega]
  | case5 a b c d rest ih =>
    simp only [decodeChars, Option.bind_eq_some_iff, Option.map_eq_some_iff] at h
    obtain ⟨i, hi, j, hj, k, hk, l, hl, bytes, hRest, rfl⟩ := h
    obtain ⟨hi, rfl⟩ := Alphabet.char_of_index? hi
    obtain ⟨hj, rfl⟩ := Alphabet.char_of_index? hj
    obtain ⟨hk, rfl⟩ := Alphabet.char_of_index? hk
    obtain ⟨hl, rfl⟩ := Alphabet.char_of_index? hl
    have hFirst : (UInt8.ofNat (i * 4 + j / 16)).toNat = i * 4 + j / 16 :=
      UInt8.toNat_ofNat_of_lt' (show _ < 256 by omega)
    have hSecond : (UInt8.ofNat (j % 16 * 16 + k / 4)).toNat = j % 16 * 16 + k / 4 :=
      UInt8.toNat_ofNat_of_lt' (show _ < 256 by omega)
    have hThird : (UInt8.ofNat (k % 4 * 64 + l)).toNat = k % 4 * 64 + l :=
      UInt8.toNat_ofNat_of_lt' (show _ < 256 by omega)
    rw [encodeChars, hFirst, hSecond, hThird, ih hRest, show (i * 4 + j / 16) / 4 = i by omega,
      show (i * 4 + j / 16) % 4 * 16 + (j % 16 * 16 + k / 4) / 16 = j by omega,
      show (j % 16 * 16 + k / 4) % 16 * 4 + (k % 4 * 64 + l) / 64 = k by omega,
      show (k % 4 * 64 + l) % 64 = l by omega]

/-- Bytes are written with the 64 characters of the alphabet only. -/
theorem exists_of_mem_encodeChars {bytes : List UInt8} {c : Char} (h : c ∈ encodeChars α bytes) :
    ∃ n < 64, c = α.char n := by
  induction bytes using encodeChars.induct with
  | case1 => cases h
  | case2 a =>
    have ha := a.toNat_lt
    simp only [encodeChars, List.mem_cons, List.not_mem_nil, or_false] at h
    rcases h with rfl | rfl <;> exact ⟨_, by omega, rfl⟩
  | case3 a b =>
    have ha := a.toNat_lt
    have hb := b.toNat_lt
    simp only [encodeChars, List.mem_cons, List.not_mem_nil, or_false] at h
    rcases h with rfl | rfl | rfl <;> exact ⟨_, by omega, rfl⟩
  | case4 a b c rest ih =>
    have ha := a.toNat_lt
    have hb := b.toNat_lt
    have hc := c.toNat_lt
    simp only [encodeChars, List.mem_cons] at h
    -- the first three bytes give four characters, and the rest of the bytes the others
    rcases h with rfl | rfl | rfl | rfl | hRest
    · exact ⟨_, by omega, rfl⟩
    · exact ⟨_, by omega, rfl⟩
    · exact ⟨_, by omega, rfl⟩
    · exact ⟨_, by omega, rfl⟩
    · exact ih hRest

/-- A byte is the one of its number, in whatever way the number is put together. -/
theorem ofNat_of_eq_toNat (b : UInt8) {n : Nat} (h : n = b.toNat) : UInt8.ofNat n = b := by
  rw [h, UInt8.ofNat_toNat]

/-- Reading undoes writing. -/
@[simp] theorem decodeChars_encodeChars (hα : α.Distinct) (bytes : List UInt8) :
    decodeChars α (encodeChars α bytes) = some bytes := by
  -- by induction on the groups of three bytes, the last of which may be shorter
  induction bytes using encodeChars.induct with
  | case1 => rfl
  | case2 a =>
    have ha := a.toNat_lt
    simp only [encodeChars, decodeChars, hα (a.toNat / 4) (by omega),
      hα (a.toNat % 4 * 16) (by omega), Option.bind_some]
    rw [if_pos (by omega), ofNat_of_eq_toNat a (by omega)]
  | case3 a b =>
    have ha := a.toNat_lt
    have hb := b.toNat_lt
    simp only [encodeChars, decodeChars, hα (a.toNat / 4) (by omega),
      hα (a.toNat % 4 * 16 + b.toNat / 16) (by omega), hα (b.toNat % 16 * 4) (by omega),
      Option.bind_some]
    rw [if_pos (by omega), ofNat_of_eq_toNat a (by omega), ofNat_of_eq_toNat b (by omega)]
  | case4 a b c rest ih =>
    have ha := a.toNat_lt
    have hb := b.toNat_lt
    have hc := c.toNat_lt
    simp only [encodeChars, decodeChars, hα (a.toNat / 4) (by omega),
      hα (a.toNat % 4 * 16 + b.toNat / 16) (by omega),
      hα (b.toNat % 16 * 4 + c.toNat / 64) (by omega), hα (c.toNat % 64) (by omega),
      Option.bind_some, ih, Option.map_some]
    rw [ofNat_of_eq_toNat a (by omega), ofNat_of_eq_toNat b (by omega), ofNat_of_eq_toNat c (by omega)]

/-- **Canonical form**: a text is read as some bytes exactly when it is what they are written as. -/
theorem decodeChars_eq_some_iff (hα : α.Distinct) {cs : List Char} {bytes : List UInt8} :
    decodeChars α cs = some bytes ↔ cs = encodeChars α bytes := by
  constructor
  · intro h
    exact (encodeChars_of_decodeChars h).symm
  · rintro rfl
    exact decodeChars_encodeChars hα bytes

end Base64

end PresentationVerifier.Encoding
