import PresentationVerifier.Encoding.Utf8
import PresentationVerifier.Text.Split

/-!
# Form bodies

An `application/x-www-form-urlencoded` body is a row of pairs: `&` between the pairs, the first `=` of
a pair between name and value, `+` for a space and `%` with two hexadecimal digits for any byte. All
bodies can be read; a `%` without two digits stands for itself and bytes that are no text are read
leniently. `encode` writes a body that reads back as the given pairs.
-/

namespace PresentationVerifier.Encoding.Form

/-- The value of a hexadecimal digit of either case, given as a byte. -/
def hexValue? (b : UInt8) : Option Nat :=
  let n := b.toNat
  if 0x30 ≤ n ∧ n ≤ 0x39 then some (n - 0x30)
  else if 0x41 ≤ n ∧ n ≤ 0x46 then some (n - 0x41 + 10)
  else if 0x61 ≤ n ∧ n ≤ 0x66 then some (n - 0x61 + 10)
  else none

/-- The byte of two hexadecimal digits. -/
def hexByte? (high low : UInt8) : Option UInt8 :=
  (hexValue? high).bind fun h => (hexValue? low).map fun l => UInt8.ofNat (h * 16 + l)

/-- Replaces each `%` that two hexadecimal digits follow by the byte they denote. -/
def percentDecode : List UInt8 → List UInt8
  | [] => []
  | [a] => [a]
  | [a, b] => [a, b]
  | a :: b :: c :: rest =>
    if a = 0x25 then
      match hexByte? b c with
      | some x => x :: percentDecode rest
      | none => a :: percentDecode (b :: c :: rest)
    else a :: percentDecode (b :: c :: rest)

/-- The text of a name or value. Spaces come first: an escaped plus sign stays one. -/
def decodePart (bytes : List UInt8) : String :=
  lossyText (percentDecode (bytes.map fun b => if b = 0x2B then 0x20 else b))

/-- The name and the value of a pair. A pair without `=` has the empty value. -/
def decodePair (bytes : List UInt8) : String × String :=
  match Text.splitFirst (0x3D : UInt8) bytes with
  | some (name, value) => (decodePart name, decodePart value)
  | none => (decodePart bytes, "")

/-- The pairs of a body in their order. Nothing between two `&` is no pair. -/
def decode (body : List UInt8) : List (String × String) :=
  ((Text.splitAt (0x26 : UInt8) body).filter (· ≠ [])).map decodePair

/-! ## Writing -/

/-- The bytes that are written as they are: letters, digits and `*-._`. -/
def isSafe (b : UInt8) : Bool :=
  let n := b.toNat
  (decide (0x30 ≤ n) && decide (n ≤ 0x39)) || (decide (0x41 ≤ n) && decide (n ≤ 0x5A)) ||
    (decide (0x61 ≤ n) && decide (n ≤ 0x7A)) || n == 0x2A || n == 0x2D || n == 0x2E || n == 0x5F

/-- The upper case hexadecimal digit, as a byte, of a number below sixteen. -/
def hexDigit (n : Nat) : UInt8 :=
  if n < 10 then UInt8.ofNat (0x30 + n) else UInt8.ofNat (0x41 + (n - 10))

/-- A byte of a name or value as it is written. -/
def encodeByte (b : UInt8) : List UInt8 :=
  if b = 0x20 then [0x2B]
  else if isSafe b then [b]
  else [0x25, hexDigit (b.toNat / 16), hexDigit (b.toNat % 16)]

/-- A name or value as it is written. -/
def encodePart (s : String) : List UInt8 :=
  (utf8Bytes s).flatMap encodeByte

/-- A pair as it is written. -/
def encodePair (p : String × String) : List UInt8 :=
  encodePart p.1 ++ 0x3D :: encodePart p.2

/-- The body of some pairs. -/
def encode (pairs : List (String × String)) : List UInt8 :=
  Text.join (0x26 : UInt8) (pairs.map encodePair)

/-! ## Reading what was written -/

/-- A digit is read as the one that it is, and it is none of the characters with a meaning. -/
theorem hexDigit_spec : ∀ n < 16, hexValue? (hexDigit n) = some n ∧ hexDigit n ≠ 0x2B ∧
    hexDigit n ≠ 0x26 ∧ hexDigit n ≠ 0x3D := by
  decide

/-- The two digits of a byte denote it. -/
theorem hexByte?_hexDigit (b : UInt8) :
    hexByte? (hexDigit (b.toNat / 16)) (hexDigit (b.toNat % 16)) = some b := by
  have hSize : b.toNat < 256 := b.toNat_lt
  obtain ⟨hHigh, -⟩ := hexDigit_spec (b.toNat / 16) (by omega)
  obtain ⟨hLow, -⟩ := hexDigit_spec (b.toNat % 16) (by omega)
  rw [hexByte?, hHigh, hLow, Option.bind_some, Option.map_some,
    show b.toNat / 16 * 16 + b.toNat % 16 = b.toNat by omega, UInt8.ofNat_toNat]

/-- A byte that is written as it is has no meaning of its own. -/
theorem isSafe_spec {b : UInt8} (h : isSafe b = true) :
    b ≠ 0x25 ∧ b ≠ 0x2B ∧ b ≠ 0x26 ∧ b ≠ 0x3D := by
  refine ⟨?_, ?_, ?_, ?_⟩ <;> (rintro rfl; revert h; decide)

/-- A byte that starts no escape is kept. -/
theorem percentDecode_cons {b : UInt8} (h : b ≠ 0x25) (rest : List UInt8) :
    percentDecode (b :: rest) = b :: percentDecode rest := by
  match rest with
  | [] => rfl
  | [_] => rfl
  | c :: d :: rest => rw [percentDecode, if_neg h]

/-- A byte with a plus sign read as the space that it stands for. -/
def unplus (b : UInt8) : UInt8 :=
  if b = 0x2B then 0x20 else b

/-- A byte is read as it was written, as itself, as a plus sign or with an escape. -/
theorem percentDecode_encodeByte (b : UInt8) (rest : List UInt8) :
    percentDecode ((encodeByte b ++ rest).map unplus) = b :: percentDecode (rest.map unplus) := by
  unfold encodeByte
  split
  · next hSpace =>
    subst hSpace
    exact percentDecode_cons (by decide) _
  split
  · next hSafe =>
    obtain ⟨hPercent, hPlus, -⟩ := isSafe_spec hSafe
    rw [List.singleton_append, List.map_cons, unplus, if_neg hPlus]
    exact percentDecode_cons hPercent _
  · have hSize : b.toNat < 256 := b.toNat_lt
    obtain ⟨-, hHigh, -⟩ := hexDigit_spec (b.toNat / 16) (by omega)
    obtain ⟨-, hLow, -⟩ := hexDigit_spec (b.toNat % 16) (by omega)
    -- the digits of an escape are no plus signs
    simp only [List.cons_append, List.nil_append, List.map_cons, unplus, if_neg hHigh, if_neg hLow]
    rw [if_neg (by decide), percentDecode, if_pos rfl, hexByte?_hexDigit]

/-- A name or a value is read as it was written. -/
@[simp] theorem decodePart_encodePart (s : String) : decodePart (encodePart s) = s := by
  -- byte by byte, as no escape reaches into the next one
  have hBytes : ∀ bytes : List UInt8,
      percentDecode ((bytes.flatMap encodeByte).map unplus) = bytes := by
    intro bytes
    induction bytes with
    | nil => rfl
    | cons b bytes ih => rw [List.flatMap_cons, percentDecode_encodeByte, ih]
  have hPart : percentDecode ((encodePart s).map unplus) = utf8Bytes s := hBytes (utf8Bytes s)
  rw [decodePart, show (fun b : UInt8 => if b = 0x2B then 0x20 else b) = unplus from rfl, hPart,
    lossyText_utf8Bytes]

/-- No separator is left unescaped in what is written for a name or a value. -/
theorem not_separator_of_mem_encodePart {s : String} {b : UInt8} (h : b ∈ encodePart s) :
    b ≠ 0x26 ∧ b ≠ 0x3D := by
  obtain ⟨a, -, hb⟩ := List.mem_flatMap.mp h
  have hSize : a.toNat < 256 := a.toNat_lt
  obtain ⟨-, -, hHigh⟩ := hexDigit_spec (a.toNat / 16) (by omega)
  obtain ⟨-, -, hLow⟩ := hexDigit_spec (a.toNat % 16) (by omega)
  unfold encodeByte at hb
  split at hb
  · obtain rfl := List.mem_singleton.mp hb
    decide
  split at hb
  · next hSafe =>
    obtain rfl := List.mem_singleton.mp hb
    obtain ⟨-, -, hSeparator⟩ := isSafe_spec hSafe
    exact hSeparator
  · simp only [List.mem_cons, List.not_mem_nil, or_false] at hb
    rcases hb with rfl | rfl | rfl
    · decide
    · exact hHigh
    · exact hLow

/-- A pair is read as it was written. -/
@[simp] theorem decodePair_encodePair (p : String × String) : decodePair (encodePair p) = p := by
  have hFree : (0x3D : UInt8) ∉ encodePart p.1 := fun h => (not_separator_of_mem_encodePart h).2 rfl
  rw [decodePair, encodePair, Text.splitFirst_eq_some_iff.mpr ⟨rfl, hFree⟩]
  simp only [decodePart_encodePart]

@[simp] theorem encodePair_ne_nil (p : String × String) : encodePair p ≠ [] := by
  simp [encodePair]

/-- There is no separator of pairs in a pair. -/
theorem not_mem_encodePair (p : String × String) : (0x26 : UInt8) ∉ encodePair p := by
  intro h
  rcases List.mem_append.mp h with hName | hValue
  · exact (not_separator_of_mem_encodePart hName).1 rfl
  · rcases List.mem_cons.mp hValue with hMark | hValue
    · exact absurd hMark (by decide)
    · exact (not_separator_of_mem_encodePart hValue).1 rfl

/-- **Reading undoes writing.** -/
@[simp] theorem decode_encode (pairs : List (String × String)) : decode (encode pairs) = pairs := by
  cases pairs with
  | nil => rfl
  | cons p rest =>
    have hPieces : Text.Pieces (0x26 : UInt8) (encode (p :: rest)) ((p :: rest).map encodePair) := by
      refine ⟨by simp, ?_, rfl⟩
      intro piece hPiece
      obtain ⟨q, -, rfl⟩ := List.mem_map.mp hPiece
      exact not_mem_encodePair q
    have hKept : ((p :: rest).map encodePair).filter (· ≠ []) = (p :: rest).map encodePair := by
      rw [List.filter_eq_self]
      intro piece hPiece
      obtain ⟨q, -, rfl⟩ := List.mem_map.mp hPiece
      simp
    have hPairs : decodePair ∘ encodePair = id := funext decodePair_encodePair
    rw [decode, Text.splitAt_eq_iff.mpr hPieces, hKept, List.map_map, hPairs, List.map_id]

end PresentationVerifier.Encoding.Form
