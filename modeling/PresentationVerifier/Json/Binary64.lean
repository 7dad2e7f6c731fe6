import PresentationVerifier.Json.Number

/-!
# Numbers read through double precision

A number that is not written as an integer is rounded to the nearest double precision value, ties
to even, and the integer part of that value is taken. All of it is done in exact arithmetic on
natural numbers, so nothing depends on a machine's floating point unit.
-/

namespace PresentationVerifier.Json

/-- The quotient of two natural numbers rounded to the nearest integer, a half to the even one. -/
def roundHalfEven (num den : Nat) : Nat :=
  let q := num / den
  let r := num % den
  if 2 * r < den ∨ (2 * r = den ∧ q % 2 = 0) then q else q + 1

/-- The count of binary digits of a natural number. -/
def bitLength (n : Nat) : Nat :=
  if n = 0 then 0 else n.log2 + 1

/-- The integer part of the double nearest to `num / den`, or `none` when that is infinite.

A double has 53 significant bits. Below one the grid is taken no finer than `2 ^ -53`, which does
not matter: there only the step from below one to one is visible in the integer part. -/
def truncateNearest (num den : Nat) : Option Nat :=
  let size := bitLength (num / den)
  if size ≤ 53 then
    some (roundHalfEven (num <<< (53 - size)) den >>> (53 - size))
  else
    let n := roundHalfEven num (den <<< (size - 53)) <<< (size - 53)
    if n < 1 <<< 1024 then some n else none

namespace Number

/-- The count of digits that the coefficient has without leading zeros. -/
def significant (n : Number) : Nat :=
  ((n.whole ++ n.fraction).dropWhile (·.val = 0)).length

/-- The absolute value of the number, rounded to a double and cut to an integer. `none` if the
double is infinite. A coefficient with `k` digits and scale `e` lies between `10 ^ (k + e - 1)` and
`10 ^ (k + e)`, which settles the very large and the very small numbers without computing a power. -/
def truncateAbs (n : Number) : Option Nat :=
  let size := (n.significant : Int) + n.scale
  if n.coefficient = 0 ∨ size < 0 then some 0
  else if 310 < size then none
  else if 0 ≤ n.scale then truncateNearest (n.coefficient * Nat.pow 10 n.scale.toNat) 1
  else truncateNearest n.coefficient (Nat.pow 10 (-n.scale).toNat)

/-- The number rounded to a double and cut toward zero. `none` if the double is infinite. -/
def truncate? (n : Number) : Option Int :=
  n.truncateAbs.map fun m => if n.negative then -(m : Int) else m

end Number

end PresentationVerifier.Json
