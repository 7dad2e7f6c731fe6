import PresentationVerifier.Hash.Word

/-!
# The SHA-2 family

SHA-224 and SHA-256 work on words of 32 bits, SHA-384 and SHA-512 on words of 64 bits. Apart from the
word size the two pairs differ in their constants only, which a `Sha2.Family` holds; the members of
a pair differ in the starting value and in how much of the result is kept.
-/

namespace PresentationVerifier.Hash.Sha2

/-! ## Words and registers -/

/-- The constants of the functions on words of `w` bits. -/
structure Family (w : Nat) where
  /-- One constant for each round. -/
  roundConstants : List (BitVec w)
  /-- The rotations of the first working variable. -/
  bigA : Nat × Nat × Nat
  /-- The rotations of the fifth working variable. -/
  bigE : Nat × Nat × Nat
  /-- Two rotations and a shift for the word fifteen places back in the schedule. -/
  smallOld : Nat × Nat × Nat
  /-- Two rotations and a shift for the word two places back in the schedule. -/
  smallNew : Nat × Nat × Nat

/-- The words that a function carries from block to block. -/
structure Registers (w : Nat) where
  a : BitVec w
  b : BitVec w
  c : BitVec w
  d : BitVec w
  e : BitVec w
  f : BitVec w
  g : BitVec w
  h : BitVec w

variable {w : Nat}

namespace Registers

/-- The sums of the words at each place. -/
def add (x y : Registers w) : Registers w :=
  ⟨x.a + y.a, x.b + y.b, x.c + y.c, x.d + y.d, x.e + y.e, x.f + y.f, x.g + y.g, x.h + y.h⟩

/-- The words in their order. -/
def toList (x : Registers w) : List (BitVec w) :=
  [x.a, x.b, x.c, x.d, x.e, x.f, x.g, x.h]

end Registers

/-- The exclusive or of three rotations of a word. -/
def rotations (r : Nat × Nat × Nat) (x : BitVec w) : BitVec w :=
  x.rotateRight r.1 ^^^ x.rotateRight r.2.1 ^^^ x.rotateRight r.2.2

/-- The exclusive or of two rotations and a shift of a word. -/
def rotationsAndShift (r : Nat × Nat × Nat) (x : BitVec w) : BitVec w :=
  x.rotateRight r.1 ^^^ x.rotateRight r.2.1 ^^^ (x >>> r.2.2)

namespace Family

/-! ## Compression -/

/-- The message schedule: the words of the block, then one word for each further round. -/
def schedule (φ : Family w) (block : List UInt8) : List (BitVec w) :=
  let start := (bigEndianWords w block).toArray
  ((List.range (φ.roundConstants.length - 16)).foldl (fun ws i =>
    ws.push (rotationsAndShift φ.smallNew (ws.getD (i + 14) 0) + ws.getD (i + 9) 0 +
      rotationsAndShift φ.smallOld (ws.getD (i + 1) 0) + ws.getD i 0)) start).toList

/-- One round, with its constant and its schedule word. -/
def round (φ : Family w) (s : Registers w) (k word : BitVec w) : Registers w :=
  let choice := (s.e &&& s.f) ^^^ (~~~s.e &&& s.g)
  let majority := (s.a &&& s.b) ^^^ (s.a &&& s.c) ^^^ (s.b &&& s.c)
  let t := s.h + rotations φ.bigE s.e + choice + k + word
  ⟨t + (rotations φ.bigA s.a + majority), s.a, s.b, s.c, s.d + t, s.e, s.f, s.g⟩

/-- Takes one block in. -/
def compress (φ : Family w) (s : Registers w) (block : List UInt8) : Registers w :=
  s.add <| (φ.roundConstants.zip (φ.schedule block)).foldl (fun r kw => φ.round r kw.1 kw.2) s

/-- The message, a one bit, zeros, and the length in bits in two words, to a multiple of sixteen
words. -/
def pad (w : Nat) (message : List UInt8) : List UInt8 :=
  let size := 2 * w
  let tail := w / 4
  let zeros := (size - (message.length + 1 + tail) % size) % size
  message ++ 0x80 :: (List.replicate zeros 0 ++ bigEndianBytes tail (message.length * 8))

/-- The first `length` bytes of the result for a message, from a starting value. -/
def digest (φ : Family w) (start : Registers w) (length : Nat) (message : List UInt8) :
    List UInt8 :=
  let result := (blocks (2 * w) (pad w message)).foldl φ.compress start
  (result.toList.flatMap fun word => bigEndianBytes (w / 8) word.toNat).take length

end Family

/-! ## The two families -/

/-- The functions on words of 32 bits. The round constants are the first bits of the fractional parts
of the cube roots of the first primes. -/
def words32 : Family 32 where
  roundConstants := [
    0x428A2F98, 0x71374491, 0xB5C0FBCF, 0xE9B5DBA5, 0x3956C25B, 0x59F111F1, 0x923F82A4, 0xAB1C5ED5,
    0xD807AA98, 0x12835B01, 0x243185BE, 0x550C7DC3, 0x72BE5D74, 0x80DEB1FE, 0x9BDC06A7, 0xC19BF174,
    0xE49B69C1, 0xEFBE4786, 0x0FC19DC6, 0x240CA1CC, 0x2DE92C6F, 0x4A7484AA, 0x5CB0A9DC, 0x76F988DA,
    0x983E5152, 0xA831C66D, 0xB00327C8, 0xBF597FC7, 0xC6E00BF3, 0xD5A79147, 0x06CA6351, 0x14292967,
    0x27B70A85, 0x2E1B2138, 0x4D2C6DFC, 0x53380D13, 0x650A7354, 0x766A0ABB, 0x81C2C92E, 0x92722C85,
    0xA2BFE8A1, 0xA81A664B, 0xC24B8B70, 0xC76C51A3, 0xD192E819, 0xD6990624, 0xF40E3585, 0x106AA070,
    0x19A4C116, 0x1E376C08, 0x2748774C, 0x34B0BCB5, 0x391C0CB3, 0x4ED8AA4A, 0x5B9CCA4F, 0x682E6FF3,
    0x748F82EE, 0x78A5636F, 0x84C87814, 0x8CC70208, 0x90BEFFFA, 0xA4506CEB, 0xBEF9A3F7, 0xC67178F2]
  bigA := (2, 13, 22)
  bigE := (6, 11, 25)
  smallOld := (7, 18, 3)
  smallNew := (17, 19, 10)

/-- The functions on words of 64 bits, with round constants of the same kind. -/
def words64 : Family 64 where
  roundConstants := [
    0x428A2F98D728AE22, 0x7137449123EF65CD, 0xB5C0FBCFEC4D3B2F, 0xE9B5DBA58189DBBC,
    0x3956C25BF348B538, 0x59F111F1B605D019, 0x923F82A4AF194F9B, 0xAB1C5ED5DA6D8118,
    0xD807AA98A3030242, 0x12835B0145706FBE, 0x243185BE4EE4B28C, 0x550C7DC3D5FFB4E2,
    0x72BE5D74F27B896F, 0x80DEB1FE3B1696B1, 0x9BDC06A725C71235, 0xC19BF174CF692694,
    0xE49B69C19EF14AD2, 0xEFBE4786384F25E3, 0x0FC19DC68B8CD5B5, 0x240CA1CC77AC9C65,
    0x2DE92C6F592B0275, 0x4A7484AA6EA6E483, 0x5CB0A9DCBD41FBD4, 0x76F988DA831153B5,
    0x983E5152EE66DFAB, 0xA831C66D2DB43210, 0xB00327C898FB213F, 0xBF597FC7BEEF0EE4,
    0xC6E00BF33DA88FC2, 0xD5A79147930AA725, 0x06CA6351E003826F, 0x142929670A0E6E70,
    0x27B70A8546D22FFC, 0x2E1B21385C26C926, 0x4D2C6DFC5AC42AED, 0x53380D139D95B3DF,
    0x650A73548BAF63DE, 0x766A0ABB3C77B2A8, 0x81C2C92E47EDAEE6, 0x92722C851482353B,
    0xA2BFE8A14CF10364, 0xA81A664BBC423001, 0xC24B8B70D0F89791, 0xC76C51A30654BE30,
    0xD192E819D6EF5218, 0xD69906245565A910, 0xF40E35855771202A, 0x106AA07032BBD1B8,
    0x19A4C116B8D2D0C8, 0x1E376C085141AB53, 0x2748774CDF8EEB99, 0x34B0BCB5E19B48A8,
    0x391C0CB3C5C95A63, 0x4ED8AA4AE3418ACB, 0x5B9CCA4F7763E373, 0x682E6FF3D6B2B8A3,
    0x748F82EE5DEFB2FC, 0x78A5636F43172F60, 0x84C87814A1F0AB72, 0x8CC702081A6439EC,
    0x90BEFFFA23631E28, 0xA4506CEBDE82BDE9, 0xBEF9A3F7B2C67915, 0xC67178F2E372532B,
    0xCA273ECEEA26619C, 0xD186B8C721C0C207, 0xEADA7DD6CDE0EB1E, 0xF57D4F7FEE6ED178,
    0x06F067AA72176FBA, 0x0A637DC5A2C898A6, 0x113F9804BEF90DAE, 0x1B710B35131C471B,
    0x28DB77F523047D84, 0x32CAAB7B40C72493, 0x3C9EBE0A15C9BEBC, 0x431D67C49C100D4C,
    0x4CC5D4BECB3E42B6, 0x597F299CFC657E2A, 0x5FCB6FAB3AD6FAEC, 0x6C44198C4A475817]
  bigA := (28, 34, 39)
  bigE := (14, 18, 41)
  smallOld := (1, 8, 7)
  smallNew := (19, 61, 6)

/-! ## The four algorithms -/

/-- The starting value of SHA-224. -/
def start224 : Registers 32 :=
  ⟨0xC1059ED8, 0x367CD507, 0x3070DD17, 0xF70E5939,
    0xFFC00B31, 0x68581511, 0x64F98FA7, 0xBEFA4FA4⟩

/-- The starting value of SHA-256: bits of the square roots of the first eight primes. -/
def start256 : Registers 32 :=
  ⟨0x6A09E667, 0xBB67AE85, 0x3C6EF372, 0xA54FF53A,
    0x510E527F, 0x9B05688C, 0x1F83D9AB, 0x5BE0CD19⟩

/-- The starting value of SHA-384. -/
def start384 : Registers 64 :=
  ⟨0xCBBB9D5DC1059ED8, 0x629A292A367CD507, 0x9159015A3070DD17, 0x152FECD8F70E5939,
    0x67332667FFC00B31, 0x8EB44A8768581511, 0xDB0C2E0D64F98FA7, 0x47B5481DBEFA4FA4⟩

/-- The starting value of SHA-512: more bits of the same square roots. -/
def start512 : Registers 64 :=
  ⟨0x6A09E667F3BCC908, 0xBB67AE8584CAA73B, 0x3C6EF372FE94F82B, 0xA54FF53A5F1D36F1,
    0x510E527FADE682D1, 0x9B05688C2B3E6C1F, 0x1F83D9ABFB41BD6B, 0x5BE0CD19137E2179⟩

/-- SHA-224. -/
def sha224 : List UInt8 → List UInt8 := words32.digest start224 28

/-- SHA-256. -/
def sha256 : List UInt8 → List UInt8 := words32.digest start256 32

/-- SHA-384. -/
def sha384 : List UInt8 → List UInt8 := words64.digest start384 48

/-- SHA-512. -/
def sha512 : List UInt8 → List UInt8 := words64.digest start512 64

end PresentationVerifier.Hash.Sha2
