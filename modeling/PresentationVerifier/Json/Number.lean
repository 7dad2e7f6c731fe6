/-!
# JSON numbers as they are written

A JSON number is kept by its digits, not by a machine value: `1.50`, `1e400` and `-0` are three
numbers and each is written back as it was read. Only two things are normalised, the letter of the
exponent and its sign, because a number has no place to keep them.

A number has a value all the same, `coefficient * 10 ^ scale`, and an integer reading for numbers
that are written without fraction and exponent.
-/

namespace PresentationVerifier.Json

/-! ## Digits -/

/-- A decimal digit. -/
abbrev Digit := Fin 10

/-- The character of a digit. -/
def Digit.toChar (d : Digit) : Char :=
  Char.ofNat ('0'.toNat + d.val)

/-- The digit of a character between `0` and `9`. -/
def Digit.ofChar (c : Char) : Digit :=
  Fin.ofNat 10 (c.toNat - '0'.toNat)

/-- The number that a row of digits denotes, the most significant digit first. -/
def digitsValue (ds : List Digit) : Nat :=
  ds.foldl (fun n d => n * 10 + d.val) 0

/-! ## Numbers -/

/-- The part of a number after its `e`. -/
structure Exponent where
  /-- The sign in front of the digits is a minus. -/
  negative : Bool
  digits : List Digit
deriving DecidableEq, Repr

/-- A JSON number: sign, digits before the point, digits after it, exponent. -/
structure Number where
  negative : Bool
  whole : List Digit
  /-- Empty when the number is written without a point. -/
  fraction : List Digit
  exponent : Option Exponent
deriving DecidableEq, Repr

namespace Number

/-- The written form of the grammar: at least one digit before the point and no needless zero in
front, and an exponent with at least one digit. -/
def WellFormed (n : Number) : Prop :=
  n.whole ≠ [] ∧ (n.whole.head? = some 0 → n.whole.length = 1) ∧
    ∀ e ∈ n.exponent, e.digits ≠ []

/-! ## Text -/

/-- An exponent as text: `e`, a sign, the digits. -/
def exponentText : Option Exponent → List Char
  | none => []
  | some e => 'e' :: (if e.negative then '-' else '+') :: e.digits.map Digit.toChar

/-- The digits after the point, with the point; nothing for a number without a point. -/
def fractionText : List Digit → List Char
  | [] => []
  | d :: ds => '.' :: (d :: ds).map Digit.toChar

/-- The characters of a number. -/
def text (n : Number) : List Char :=
  (if n.negative then ['-'] else []) ++ n.whole.map Digit.toChar ++ fractionText n.fraction ++
    exponentText n.exponent

/-! ## Value -/

/-- The digits of the number without its point, as one natural number. -/
def coefficient (n : Number) : Nat :=
  digitsValue (n.whole ++ n.fraction)

/-- The power of ten that the coefficient is multiplied by. -/
def scale (n : Number) : Int :=
  (match n.exponent with
    | none => 0
    | some e => if e.negative then -(digitsValue e.digits : Int) else digitsValue e.digits) -
    n.fraction.length

/-- The number as an integer, if it is written as one: without fraction and exponent. -/
def toInt? (n : Number) : Option Int :=
  if n.fraction = [] ∧ n.exponent = none then
    some (if n.negative then -(digitsValue n.whole : Int) else digitsValue n.whole)
  else none

/-- The digits of a natural number, the most significant one first. -/
def digitsOf (n : Nat) : List Digit :=
  (Nat.toDigits 10 n).map Digit.ofChar

/-- An integer, written without fraction and exponent. -/
def ofInt (i : Int) : Number where
  negative := decide (i < 0)
  whole := digitsOf i.natAbs
  fraction := []
  exponent := none

end Number

end PresentationVerifier.Json
