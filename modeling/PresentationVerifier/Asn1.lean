import PresentationVerifier.Hash.Word

/-!
# DER

The distinguished encoding of ASN.1 values: a tag, a length, that many bytes of content. Readers are
strict. A length is written in the fewest bytes, an integer too, and the content of a value is used
up by its parts.
-/

namespace PresentationVerifier.Asn1

/-- A value: the byte of its tag and its content. -/
structure Element where
  tag : UInt8
  content : List UInt8
deriving DecidableEq, Repr

/-- Takes something off the front of the content of a value. -/
abbrev Reader (α : Type) := List UInt8 → Option (α × List UInt8)

/-! ## Tags -/

def boolean : UInt8 := 0x01
def integer : UInt8 := 0x02
def bitString : UInt8 := 0x03
def octetString : UInt8 := 0x04
def objectIdentifier : UInt8 := 0x06
def utcTime : UInt8 := 0x17
def generalizedTime : UInt8 := 0x18
def sequence : UInt8 := 0x30
def set : UInt8 := 0x31

/-- The tag of a part that a structure numbers, written around the part's own value. -/
def explicitTag (number : UInt8) : UInt8 := 0xA0 + number

/-- The tag of a part that a structure numbers, written in place of the part's own tag. -/
def implicitTag (number : UInt8) : UInt8 := 0x80 + number

/-- The tags of the universal class that values may have. -/
def universalTags : List UInt8 :=
  [0x01, 0x02, 0x03, 0x04, 0x05, 0x06, 0x09, 0x0A, 0x0C, 0x12, 0x13, 0x14, 0x15, 0x16, 0x17, 0x18,
    0x1A, 0x1E, 0x30, 0x31]

/-- A tag of one byte: a known one of the universal class, any of the other classes. -/
def isTag (b : UInt8) : Bool :=
  b % 32 != 31 && (decide (0x40 ≤ b) || universalTags.contains b)

/-- A tag of the class that is numbered within a structure. -/
def isContextTag (b : UInt8) : Bool :=
  decide (0x80 ≤ b) && decide (b < 0xC0)

/-! ## Values -/

/-- The length of a value, in the fewest bytes. -/
def readLength : Reader Nat
  | [] => none
  | b :: rest =>
    if b < 0x80 then some (b.toNat, rest)
    else if b = 0x80 ∨ 0x84 < b then none
    else
      let count := b.toNat - 0x80
      let bytes := rest.take count
      let length := Hash.bigEndian bytes
      if bytes.length = count ∧ 0x80 ≤ length ∧ 1 <<< (8 * (count - 1)) ≤ length then
        some (length, rest.drop count)
      else none

/-- A value of any kind. -/
def readElement : Reader Element
  | [] => none
  | tag :: rest =>
    if isTag tag then
      (readLength rest).bind fun (length, rest) =>
        if length ≤ rest.length then some (⟨tag, rest.take length⟩, rest.drop length) else none
    else none

/-- The content of a value with the given tag. -/
def readTagged (tag : UInt8) : Reader (List UInt8) := fun bytes =>
  match readElement bytes with
  | some (e, rest) => if e.tag = tag then some (e.content, rest) else none
  | none => none

/-- The content of a value with the given tag if the next value has it. -/
def readOptional (tag : UInt8) : Reader (Option (List UInt8)) := fun bytes =>
  if bytes.head? = some tag then (readTagged tag bytes).map fun (c, rest) => (some c, rest)
  else some (none, bytes)

/-- A part with the given number, explicit or implicit by `tag`. Parts with a smaller number that
stand in front of it are passed over. `fuel` bounds their count. -/
def readNumbered (number : UInt8) (tag : UInt8) : (fuel : Nat) → Reader (Option (List UInt8))
  | 0, bytes => some (none, bytes)
  | fuel + 1, bytes =>
    match bytes with
    | [] => some (none, [])
    | b :: _ =>
      if !isTag b then none
      else if !isContextTag b || decide (number < b % 32) then some (none, bytes)
      else if b % 32 = number then (readTagged tag bytes).map fun (c, rest) => (some c, rest)
      else (readElement bytes).bind fun (_, rest) => readNumbered number tag fuel rest

/-- The values of a content, each taken by `item`. `fuel` bounds their count. -/
def readAll {α : Type} (item : Reader α) : (fuel : Nat) → List UInt8 → Option (List α)
  | _, [] => some []
  | 0, _ => none
  | fuel + 1, bytes =>
    (item bytes).bind fun (a, rest) => (readAll item fuel rest).map fun as => a :: as

/-- All values of a content. -/
def items {α : Type} (item : Reader α) (content : List UInt8) : Option (List α) :=
  readAll item content.length content

/-- A reader's answer if it uses up the content. -/
def whole {α : Type} (read : Reader α) (content : List UInt8) : Option α :=
  match read content with
  | some (a, []) => some a
  | _ => none

/-! ## Contents -/

/-- The content of an integer: at least one byte, and no byte in front that only repeats the sign. -/
def isInteger : List UInt8 → Bool
  | [] => false
  | [_] => true
  | a :: b :: _ => !((a == 0 && decide (b < 0x80)) || (a == 0xFF && decide (0x80 ≤ b)))

/-- The parts of an object identifier after its first byte. Each is a number in groups of seven bits
that ends with a byte below 128. It has at most five bytes, and the fifth is below 16, so that the
number fits in 32 bits. `count` is how many bytes of the present part were read. -/
def arcsOk : (count : Nat) → List UInt8 → Bool
  | count, [] => count == 0
  | count, b :: rest =>
    if 4 ≤ count ∧ 0x10 ≤ b then false
    else if b < 0x80 then arcsOk 0 rest
    else arcsOk (count + 1) rest

/-- The content of an object identifier: three to 39 bytes, the first of them below 120. -/
def isObjectIdentifier (content : List UInt8) : Bool :=
  decide (3 ≤ content.length) && decide (content.length ≤ 39) &&
    match content with
    | [] => false
    | b :: rest => decide (b < 120) && arcsOk 0 rest

/-- A bit string: how many bits of the last byte are unused, and the bytes. -/
structure Bits where
  unused : UInt8
  bytes : List UInt8
deriving DecidableEq, Repr

/-- The bit string with the given content. -/
def bits? : List UInt8 → Option Bits
  | [] => none
  | unused :: bytes =>
    if 7 < unused ∨ (unused ≠ 0 ∧ bytes = []) then none else some ⟨unused, bytes⟩

/-- The number of two decimal digits. -/
def twoDigits? (high low : UInt8) : Option Nat :=
  if 0x30 ≤ high ∧ high ≤ 0x39 ∧ 0x30 ≤ low ∧ low ≤ 0x39 then
    some ((high.toNat - 0x30) * 10 + (low.toNat - 0x30))
  else none

/-- The count of days of a month. -/
def daysOfMonth (year month : Nat) : Nat :=
  if month = 2 then
    if year % 4 = 0 ∧ (year % 100 ≠ 0 ∨ year % 400 = 0) then 29 else 28
  else if month = 4 ∨ month = 6 ∨ month = 9 ∨ month = 11 then 30
  else 31

/-- The date and time of day exist; no date before 1970 and no leap second does. -/
def isDateTime (year month day hour minute second : Nat) : Bool :=
  decide (1970 ≤ year ∧ 1 ≤ month ∧ month ≤ 12 ∧ 1 ≤ day ∧ day ≤ daysOfMonth year month ∧ hour ≤ 23 ∧
    minute ≤ 59 ∧ second ≤ 59)

/-- Month, day, hour, minute and second in two digits each, then a `Z`, make a time in `year`. -/
def isTimeIn (year : Nat) : List UInt8 → Bool
  | [m1, m2, d1, d2, h1, h2, n1, n2, s1, s2, z] =>
    z == 0x5A && (do
      some (isDateTime year (← twoDigits? m1 m2) (← twoDigits? d1 d2) (← twoDigits? h1 h2)
        (← twoDigits? n1 n2) (← twoDigits? s1 s2))).getD false
  | _ => false

/-- A time with two digits for the year, between 1950 and 2049. -/
def isUtcTime : List UInt8 → Bool
  | y1 :: y2 :: rest =>
    match twoDigits? y1 y2 with
    | some y => isTimeIn (if 50 ≤ y then 1900 + y else 2000 + y) rest
    | none => false
  | _ => false

/-- A time with four digits for the year. -/
def isGeneralizedTime : List UInt8 → Bool
  | y1 :: y2 :: y3 :: y4 :: rest =>
    match twoDigits? y1 y2, twoDigits? y3 y4 with
    | some high, some low => isTimeIn (high * 100 + low) rest
    | _, _ => false
  | _ => false

end PresentationVerifier.Asn1
