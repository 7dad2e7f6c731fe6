import PresentationVerifier.Hash.Sha2

/-!
# The BLAKE2 family

BLAKE2s works on words of 32 bits, BLAKE2b on words of 64 bits; `Blake2.Family` holds what differs.
Only hashing without a key is here. The length of the digest goes into the starting value, so digests
of two lengths have nothing in common.
-/

namespace PresentationVerifier.Hash.Blake2

/-- The constants of the function on words of `w` bits. -/
structure Family (w : Nat) where
  /-- The starting words before the parameters go in. -/
  start : List (BitVec w)
  /-- The four rotations of the mixing step. -/
  rotations : Nat × Nat × Nat × Nat
  rounds : Nat

/-- The order in which a round takes the words of a block; after ten rounds it starts again. -/
def permutations : Array (Array Nat) :=
  #[
    #[0, 1, 2, 3, 4, 5, 6, 7, 8, 9, 10, 11, 12, 13, 14, 15],
    #[14, 10, 4, 8, 9, 15, 13, 6, 1, 12, 0, 2, 11, 7, 5, 3],
    #[11, 8, 12, 0, 5, 2, 15, 13, 10, 14, 3, 6, 7, 1, 9, 4],
    #[7, 9, 3, 1, 13, 12, 11, 14, 2, 6, 5, 10, 4, 0, 15, 8],
    #[9, 0, 5, 7, 2, 4, 10, 15, 14, 1, 11, 12, 6, 8, 3, 13],
    #[2, 12, 6, 10, 0, 11, 8, 3, 4, 13, 7, 5, 15, 14, 1, 9],
    #[12, 5, 1, 15, 14, 13, 4, 10, 0, 7, 6, 3, 9, 2, 8, 11],
    #[13, 11, 7, 14, 12, 1, 3, 9, 5, 0, 15, 4, 8, 6, 2, 10],
    #[6, 15, 14, 9, 11, 3, 0, 8, 12, 2, 13, 7, 1, 4, 10, 5],
    #[10, 2, 8, 4, 7, 6, 1, 5, 15, 11, 9, 14, 3, 12, 13, 0]]

/-- The places of the working vector that the eight mixing steps of a round work on: first the
columns, then the diagonals. -/
def places : List (Nat × Nat × Nat × Nat) :=
  [(0, 4, 8, 12), (1, 5, 9, 13), (2, 6, 10, 14), (3, 7, 11, 15),
    (0, 5, 10, 15), (1, 6, 11, 12), (2, 7, 8, 13), (3, 4, 9, 14)]

namespace Family

variable {w : Nat}

/-- The mixing step at four places, with two words of the block. -/
def mix (φ : Family w) (v : Array (BitVec w)) (p : Nat × Nat × Nat × Nat) (x y : BitVec w) :
    Array (BitVec w) :=
  let (i, j, k, l) := p
  let (r1, r2, r3, r4) := φ.rotations
  let a := v.getD i 0 + v.getD j 0 + x
  let d := (v.getD l 0 ^^^ a).rotateRight r1
  let c := v.getD k 0 + d
  let b := (v.getD j 0 ^^^ c).rotateRight r2
  let a := a + b + y
  let d := (d ^^^ a).rotateRight r3
  let c := c + d
  let b := (b ^^^ c).rotateRight r4
  (((v.setIfInBounds i a).setIfInBounds j b).setIfInBounds k c).setIfInBounds l d

/-- One round: the eight mixing steps, each with the next two words of the round's order. -/
def round (φ : Family w) (block : Array (BitVec w)) (v : Array (BitVec w)) (number : Nat) :
    Array (BitVec w) :=
  let order := permutations.getD (number % 10) #[]
  let word (i : Nat) : BitVec w := block.getD (order.getD i 0) 0
  places.zipIdx.foldl (fun v p => φ.mix v p.1 (word (2 * p.2)) (word (2 * p.2 + 1))) v

/-- Takes one block in. `count` is the number of message bytes up to the block's end; in the last
block the fifteenth word of the working vector is inverted. -/
def compress (φ : Family w) (h : List (BitVec w)) (block : List UInt8) (count : Nat)
    (last : Bool) : List (BitVec w) :=
  let words := (littleEndianWords w block).toArray
  let v := (h ++ φ.start).toArray
  let v := v.modify 12 (· ^^^ BitVec.ofNat w count)
  let v := v.modify 13 (· ^^^ BitVec.ofNat w (count >>> w))
  let v := if last then v.modify 14 (~~~ ·) else v
  let v := (List.range φ.rounds).foldl (φ.round words) v
  h.zipIdx.map fun x => x.1 ^^^ v.getD x.2 0 ^^^ v.getD (x.2 + 8) 0

/-- The digest of the given length. The last block is filled up with zeros; the empty message is one
block. -/
def digest (φ : Family w) (length : Nat) (message : List UInt8) : List UInt8 :=
  let size := 2 * w
  let count := (message.length + size - 1) / size - 1
  let start := φ.start.zipIdx.map fun x =>
    if x.2 = 0 then x.1 ^^^ BitVec.ofNat w (0x01010000 + length) else x.1
  let h := (blocks size (message.take (count * size))).zipIdx.foldl
    (fun h b => φ.compress h b.1 ((b.2 + 1) * size) false) start
  let rest := message.drop (count * size)
  let block := rest ++ List.replicate (size - rest.length) 0
  let result := φ.compress h block message.length true
  (result.flatMap fun word => littleEndianBytes (w / 8) word.toNat).take length

end Family

/-- BLAKE2s. -/
def words32 : Family 32 := ⟨Sha2.start256.toList, (16, 12, 8, 7), 10⟩

/-- BLAKE2b. -/
def words64 : Family 64 := ⟨Sha2.start512.toList, (32, 24, 16, 63), 12⟩

end PresentationVerifier.Hash.Blake2
