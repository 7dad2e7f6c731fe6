import PresentationVerifier.Encoding.Base64
import PresentationVerifier.Hash.Blake2
import PresentationVerifier.Hash.Sha3

/-!
# Hash algorithms by name

The hash algorithms that an issuer can name for the digests of disclosures.
-/

namespace PresentationVerifier

/-- A hash algorithm for disclosures. -/
inductive HashAlgorithm where
  | sha224
  | sha256
  | sha384
  | sha512
  | sha3_224
  | sha3_256
  | sha3_384
  | sha3_512
  | blake2b256
  | blake2b512
  | blake2s256
deriving DecidableEq, Repr

namespace HashAlgorithm

/-- All algorithms. -/
def all : List HashAlgorithm :=
  [sha224, sha256, sha384, sha512, sha3_224, sha3_256, sha3_384, sha3_512, blake2b256, blake2b512,
    blake2s256]

/-- The name of an algorithm. -/
def name : HashAlgorithm → String
  | sha224 => "sha-224"
  | sha256 => "sha-256"
  | sha384 => "sha-384"
  | sha512 => "sha-512"
  | sha3_224 => "sha3-224"
  | sha3_256 => "sha3-256"
  | sha3_384 => "sha3-384"
  | sha3_512 => "sha3-512"
  | blake2b256 => "blake2b-256"
  | blake2b512 => "blake2b-512"
  | blake2s256 => "blake2s-256"

/-- The algorithm of a name, whatever the case of its letters. -/
def ofName? (s : String) : Option HashAlgorithm :=
  all.find? fun a => a.name.toList == s.toList.map Char.toLower

/-- An algorithm is found by its name. -/
@[simp] theorem ofName?_name (a : HashAlgorithm) : ofName? a.name = some a := by
  cases a <;> decide +kernel

/-- The algorithm that is meant where a token names none. -/
def default : HashAlgorithm := sha256

/-- The digest of a message. -/
def digest : HashAlgorithm → List UInt8 → List UInt8
  | sha224 => Hash.Sha2.sha224
  | sha256 => Hash.Sha2.sha256
  | sha384 => Hash.Sha2.sha384
  | sha512 => Hash.Sha2.sha512
  | sha3_224 => Hash.Sha3.digest 28
  | sha3_256 => Hash.Sha3.digest 32
  | sha3_384 => Hash.Sha3.digest 48
  | sha3_512 => Hash.Sha3.digest 64
  | blake2b256 => Hash.Blake2.words64.digest 32
  | blake2b512 => Hash.Blake2.words64.digest 64
  | blake2s256 => Hash.Blake2.words32.digest 32

/-- The digest of a message as it is written in tokens, in base64url. -/
def hash (a : HashAlgorithm) (message : List UInt8) : String :=
  Encoding.Base64.encode Encoding.urlSafe (a.digest message)

end HashAlgorithm

end PresentationVerifier
