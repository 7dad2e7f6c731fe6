/-!
# Words and bytes

Hash functions work on words of 32 or 64 bits. Here words are put together from bytes and taken
apart again, in both byte orders, and a message is cut into blocks.
-/

namespace PresentationVerifier.Hash

/-- The number whose bytes are given, the most significant byte first. -/
def bigEndian (bytes : List UInt8) : Nat :=
  bytes.foldl (fun n b => n * 256 + b.toNat) 0

/-- The number whose bytes are given, the least significant byte first. -/
def littleEndian (bytes : List UInt8) : Nat :=
  bytes.foldr (fun b n => n * 256 + b.toNat) 0

/-- The lowest `count` bytes of a number, the least significant byte first. -/
def littleEndianBytes : (count : Nat) → Nat → List UInt8
  | 0, _ => []
  | count + 1, n => UInt8.ofNat (n % 256) :: littleEndianBytes count (n / 256)

/-- The lowest `count` bytes of a number, the most significant byte first. -/
def bigEndianBytes (count n : Nat) : List UInt8 :=
  (littleEndianBytes count n).reverse

/-- The successive blocks of `size` items; a shorter rest is left out. -/
def blocks {α : Type} (size : Nat) (items : List α) : List (List α) :=
  (List.range (items.length / size)).map fun i => (items.drop (i * size)).take size

/-- The words of a block, each in big-endian order. -/
def bigEndianWords (w : Nat) (block : List UInt8) : List (BitVec w) :=
  (blocks (w / 8) block).map fun bytes => BitVec.ofNat w (bigEndian bytes)

/-- The words of a block, each in little-endian order. -/
def littleEndianWords (w : Nat) (block : List UInt8) : List (BitVec w) :=
  (blocks (w / 8) block).map fun bytes => BitVec.ofNat w (littleEndian bytes)

end PresentationVerifier.Hash
