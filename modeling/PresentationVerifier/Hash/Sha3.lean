import PresentationVerifier.Hash.Word

/-!
# The SHA-3 family

The sponge over the permutation Keccak-f[1600]. The state is 25 lanes of 64 bits in five rows of five;
lane `(x, y)` stands at place `x + 5 * y`. A member of the family is given by the length of its digest
in bytes, which also fixes how many bytes of the state take the message in.
-/

namespace PresentationVerifier.Hash.Sha3

/-- A lane of the state. -/
abbrev Lane := BitVec 64

/-- The state, lane `(x, y)` at place `x + 5 * y`. -/
abbrev State := Array Lane

/-- The constants added to the first lane, one for each round. -/
def roundConstants : List Lane := [
    0x0000000000000001, 0x0000000000008082, 0x800000000000808A, 0x8000000080008000,
    0x000000000000808B, 0x0000000080000001, 0x8000000080008081, 0x8000000000008009,
    0x000000000000008A, 0x0000000000000088, 0x0000000080008009, 0x000000008000000A,
    0x000000008000808B, 0x800000000000008B, 0x8000000000008089, 0x8000000000008003,
    0x8000000000008002, 0x8000000000000080, 0x000000000000800A, 0x800000008000000A,
    0x8000000080008081, 0x8000000000008080, 0x0000000080000001, 0x8000000080008008]

/-- How far each lane is rotated. -/
def offsets : Array Nat :=
  #[0, 1, 62, 28, 27, 36, 44, 6, 55, 20, 3, 10, 43,
    25, 39, 41, 45, 15, 21, 8, 18, 2, 61, 56, 14]

/-- The lane at `(x, y)`, both taken modulo five. -/
def lane (s : State) (x y : Nat) : Lane :=
  s.getD (x % 5 + 5 * (y % 5)) 0

/-- The state whose lane at `(x, y)` is `f x y`. -/
def tabulate (f : Nat → Nat → Lane) : State :=
  ((List.range 25).map fun i => f (i % 5) (i / 5)).toArray

/-- Adds to each lane the parities of two columns nearby. -/
def mixColumns (s : State) : State :=
  let parity := ((List.range 5).map fun x =>
    lane s x 0 ^^^ lane s x 1 ^^^ lane s x 2 ^^^ lane s x 3 ^^^ lane s x 4).toArray
  tabulate fun x y =>
    lane s x y ^^^ parity.getD ((x + 4) % 5) 0 ^^^ (parity.getD ((x + 1) % 5) 0).rotateLeft 1

/-- Rotates each lane and moves it: lane `(x, y)` goes to `(y, 2 * x + 3 * y)`. -/
def rotateAndMove (s : State) : State :=
  tabulate fun x y =>
    (lane s (x + 3 * y) x).rotateLeft (offsets.getD ((x + 3 * y) % 5 + 5 * x) 0)

/-- Combines each lane with the next two of its row. -/
def combineRows (s : State) : State :=
  tabulate fun x y => lane s x y ^^^ (~~~lane s (x + 1) y &&& lane s (x + 2) y)

/-- One round of the permutation. -/
def round (s : State) (constant : Lane) : State :=
  let t := combineRows (rotateAndMove (mixColumns s))
  t.setIfInBounds 0 (lane t 0 0 ^^^ constant)

/-- The permutation. -/
def permute (s : State) : State :=
  roundConstants.foldl round s

/-- Takes one block in: adds its lanes to the first lanes of the state and permutes. -/
def absorb (s : State) (block : List UInt8) : State :=
  let lanes := (littleEndianWords 64 block).toArray
  permute (tabulate fun x y => lane s x y ^^^ lanes.getD (x + 5 * y) 0)

/-- The message, the suffix of SHA-3 and a final one bit, to a multiple of the rate. -/
def pad (rate : Nat) (message : List UInt8) : List UInt8 :=
  match rate - message.length % rate with
  | 1 => message ++ [0x86]
  | n => message ++ 0x06 :: (List.replicate (n - 2) 0 ++ [0x80])

/-- The digest of the given length, which has to be smaller than the rate. -/
def digest (length : Nat) (message : List UInt8) : List UInt8 :=
  let rate := 200 - 2 * length
  let result := (blocks rate (pad rate message)).foldl absorb (Array.replicate 25 0)
  (result.toList.flatMap fun l => littleEndianBytes 8 l.toNat).take length

end PresentationVerifier.Hash.Sha3
