/-!
# The numbers of the curve P-256

Coordinates are numbers modulo a prime and signatures are numbers modulo the order of the curve's
group, which is prime as well.
-/

namespace PresentationVerifier.P256

/-- The prime that coordinates are taken modulo. -/
def fieldOrder : Nat :=
  0xFFFFFFFF00000001000000000000000000000000FFFFFFFFFFFFFFFFFFFFFFFF

/-- The order of the group of points. -/
def groupOrder : Nat :=
  0xFFFFFFFF00000000FFFFFFFFFFFFFFFFBCE6FAADA7179E84F3B9CAC2FC632551

-- which zero is meant is written out, so that it does not depend on the imports
instance : @NeZero Nat Zero.ofOfNat0 fieldOrder := ⟨by decide⟩

instance : @NeZero Nat Zero.ofOfNat0 groupOrder := ⟨by decide⟩

/-- A coordinate. -/
abbrev Field := Fin fieldOrder

/-- A multiplier of points. -/
abbrev Scalar := Fin groupOrder

/-- A power modulo `n`, for exponents below `2 ^ 256`: from the highest bit on, square and multiply. -/
def power {n : Nat} [@NeZero Nat Zero.ofOfNat0 n] (base : Fin n) (exponent : Nat) : Fin n :=
  (List.range 256).foldr
    (fun i acc => if exponent.testBit i then acc * acc * base else acc * acc) 1

/-- The inverse modulo a prime: a power, by Fermat's theorem. The inverse of zero is zero. -/
def inverse {n : Nat} [@NeZero Nat Zero.ofOfNat0 n] (a : Fin n) : Fin n :=
  power a (n - 2)

/-- A square root modulo the field's prime, if there is one. The prime leaves the remainder three
modulo four, so the only candidate is a power. -/
def sqrt? (a : Field) : Option Field :=
  let root := power a ((fieldOrder + 1) / 4)
  if root * root = a then some root else none

/-- The coefficient `a` of the curve equation. -/
def coefficientA : Field := -3

/-- The coefficient `b` of the curve equation. -/
def coefficientB : Field :=
  Fin.ofNat fieldOrder 0x5AC635D8AA3A93E7B3EBBD55769886BC651D06B0CC53B0F63BCE3C3E27D2604B

/-- The right-hand side of the curve equation `y ^ 2 = x ^ 3 + a * x + b`. -/
def cubic (x : Field) : Field :=
  x * x * x + coefficientA * x + coefficientB

/-- The point with the given coordinates lies on the curve. -/
def onCurve (x y : Field) : Bool :=
  y * y == cubic x

end PresentationVerifier.P256
