import PresentationVerifier.P256.Field

/-!
# Points of P-256

Points in projective coordinates, the point at infinity included, with the addition that needs no
case distinction: one formula adds any two points, equal or not.
-/

namespace PresentationVerifier.P256

/-- A point as `(x / z, y / z)`; the point at infinity is the one with `z = 0`. -/
structure Point where
  x : Field
  y : Field
  z : Field

namespace Point

/-- The point at infinity. -/
def infinity : Point := ⟨0, 1, 0⟩

/-- The point with the given coordinates. -/
def ofCoordinates (x y : Field) : Point := ⟨x, y, 1⟩

/-- The base point of the group. -/
def base : Point :=
  ofCoordinates
    (Fin.ofNat fieldOrder 0x6B17D1F2E12C4247F8BCE6E563A440F277037D812DEB33A0F4A13945D898C296)
    (Fin.ofNat fieldOrder 0x4FE342E2FE1A7F9B8EE7EB4A7C0F9E162BCE33576B315ECECBB6406837BF51F5)

/-- The sum of two points. The formula is complete because the group has odd order. -/
def add (p q : Point) : Point :=
  let xx := p.x * q.x
  let yy := p.y * q.y
  let zz := p.z * q.z
  let xy := p.x * q.y + q.x * p.y
  let xz := p.x * q.z + q.x * p.z
  let yz := p.y * q.z + q.y * p.z
  let t := coefficientA * xz + 3 * coefficientB * zz
  let s := coefficientA * xx + 3 * coefficientB * xz - coefficientA * coefficientA * zz
  let m := 3 * xx + coefficientA * zz
  ⟨xy * (yy - t) - yz * s, m * s + (yy + t) * (yy - t), yz * (yy + t) + xy * m⟩

/-- The sum of two multiples of points, for multipliers below `2 ^ 256`. -/
def addMultiples (m : Nat) (p : Point) (n : Nat) (q : Point) : Point :=
  let both := p.add q
  (List.range 256).foldr (fun i acc =>
    let twice := acc.add acc
    match m.testBit i, n.testBit i with
    | true, true => twice.add both
    | true, false => twice.add p
    | false, true => twice.add q
    | false, false => twice) infinity

/-- The first coordinate; `none` for the point at infinity. -/
def coordinate? (p : Point) : Option Field :=
  if p.z = 0 then none else some (p.x * inverse p.z)

end Point

end PresentationVerifier.P256
