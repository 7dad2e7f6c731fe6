import PresentationVerifier.Certificate
import PresentationVerifier.Hash.Sha2
import PresentationVerifier.Jwk
import PresentationVerifier.P256.Point

/-!
# Public keys

The keys that signatures are verified with are points of P-256. They come from a JSON Web Key, from
the first certificate of an `x5c` header, or from the `cnf` claim of a credential. A signature is
the pair of numbers of ECDSA with SHA-256, in 32 bytes each.
-/

namespace PresentationVerifier

/-! ## Errors -/

/-- Why no key could be had. -/
inductive KeyError where
  | unsupportedJwk
  | missingChain
  | chainNotArray
  | emptyChain
  | chainNotText
  | leafNotBase64
  | leafNotCertificate
  | unsupportedSubjectKey
  | missingConfirmation
  | confirmationNotJwk
  /-- A resolver of keys has a reason of its own. -/
  | unresolved (reason : String)
deriving DecidableEq, Repr

/-- The text of a key error. -/
def KeyError.message : KeyError → String
  | unsupportedJwk => "unsupported JWK: crypto error"
  | missingChain => "'x5c' was missing from jwt headers"
  | chainNotArray => "'x5c' header was not an array"
  | emptyChain => "'x5c' was an empty array"
  | chainNotText => "'x5c' header was not an array of strings"
  | leafNotBase64 => "leaf certificate in 'x5c' was not valid base64"
  | leafNotCertificate => "leaf certificate in 'x5c' was not valid DER"
  | unsupportedSubjectKey => "unsupported subject public key"
  | missingConfirmation => "'cnf.jwk' was missing from the credential"
  | confirmationNotJwk => "'cnf.jwk' was not a JWK"
  | unresolved reason => reason

/-- Why a signature does not verify. -/
inductive SignatureError where
  | unsupportedAlgorithm (algorithm : String)
  | invalid
deriving DecidableEq, Repr

/-- The text of a signature error. -/
def SignatureError.message : SignatureError → String
  | unsupportedAlgorithm algorithm =>
    s!"P-256 key cannot verify signatures made with '{algorithm}'"
  | invalid => "signature error"

/-! ## Keys as points -/

/-- A public key: a point of P-256 that is not the point at infinity. -/
structure PublicKey where
  x : P256.Field
  y : P256.Field
  onCurve : P256.onCurve x y = true
deriving DecidableEq

namespace PublicKey

/-- The name of the algorithm that keys verify. -/
def algorithm : String := "ES256"

/-! ## Points of the curve -/

/-- The key with the given coordinates, if there is such a point. -/
def ofCoordinates? (x y : Nat) : Option PublicKey :=
  if x < P256.fieldOrder ∧ y < P256.fieldOrder then
    let x := Fin.ofNat P256.fieldOrder x
    let y := Fin.ofNat P256.fieldOrder y
    if h : P256.onCurve x y = true then some ⟨x, y, h⟩ else none
  else none

/-- The key with the given first coordinate whose second coordinate has the given property; of the
two candidates, each the negative of the other, `choose` picks one. -/
def ofAbscissa? (x : Nat) (choose : P256.Field → P256.Field → P256.Field) : Option PublicKey :=
  if x < P256.fieldOrder then
    (P256.sqrt? (P256.cubic (Fin.ofNat P256.fieldOrder x))).bind fun root =>
      ofCoordinates? x (choose root (-root)).val
  else none

/-- The encoding of a key as a point: `04` and the two coordinates. -/
def toBytes (k : PublicKey) : List UInt8 :=
  0x04 :: (Hash.bigEndianBytes 32 k.x.val ++ Hash.bigEndianBytes 32 k.y.val)

/-- The key with the given encoding as a point: with both coordinates (`04`), or with the first
coordinate and the parity of the second (`02` even, `03` odd), or with the first coordinate alone,
which stands for the smaller second one (`05`). -/
def ofBytes? : List UInt8 → Option PublicKey
  | [] => none
  | form :: rest =>
    if form = 0x04 ∧ rest.length = 64 then
      ofCoordinates? (Hash.bigEndian (rest.take 32)) (Hash.bigEndian (rest.drop 32))
    else if rest.length = 32 then
      let x := Hash.bigEndian rest
      if form = 0x02 then ofAbscissa? x fun y z => if y.val % 2 = 0 then y else z
      else if form = 0x03 then ofAbscissa? x fun y z => if y.val % 2 = 1 then y else z
      else if form = 0x05 then ofAbscissa? x fun y z => if y.val ≤ z.val then y else z
      else none
    else none

/-! ## Where keys come from -/

/-- The object identifier of elliptic curve keys. -/
def ellipticCurveId : List UInt8 := [0x2A, 0x86, 0x48, 0xCE, 0x3D, 0x02, 0x01]

/-- The object identifier of the curve P-256. -/
def curveId : List UInt8 := [0x2A, 0x86, 0x48, 0xCE, 0x3D, 0x03, 0x01, 0x07]

/-- The key of a certificate's subject, if it is an elliptic curve key on P-256. -/
def ofSubjectKey? (k : SubjectKey) : Option PublicKey :=
  if k.algorithm = ellipticCurveId ∧ k.parameters = some ⟨Asn1.objectIdentifier, curveId⟩ ∧
      k.key.unused = 0 then
    ofBytes? k.key.bytes
  else none

/-- The key that a JSON Web Key describes. Only an elliptic curve key on P-256 without any metadata is
supported, with both coordinates in full length. -/
def ofJwk (k : Jwk) : Except KeyError PublicKey :=
  match k.metadata, k.material with
  | ⟨none, none, none, none, none, none, none, none⟩, .ellipticCurve (some "P-256") (some x) (some y) _ =>
    if x.length = 32 ∧ y.length = 32 then
      match ofCoordinates? (Hash.bigEndian x) (Hash.bigEndian y) with
      | some key => .ok key
      | none => .error .unsupportedJwk
    else .error .unsupportedJwk
  | _, _ => .error .unsupportedJwk

/-- The key of the first certificate of the `x5c` header. -/
def ofCertificateChain (header : Json.Object) : Except KeyError PublicKey :=
  match header.get? "x5c" with
  | none => .error .missingChain
  | some (.array []) => .error .emptyChain
  | some (.array (.string leaf :: _)) =>
    match Encoding.Base64.decodeTrimmed? Encoding.standard leaf with
    | none => .error .leafNotBase64
    | some bytes =>
      match Certificate.subjectKey? bytes with
      | none => .error .leafNotCertificate
      | some key =>
        match ofSubjectKey? key with
        | none => .error .unsupportedSubjectKey
        | some key => .ok key
  | some (.array _) => .error .chainNotText
  | some _ => .error .chainNotArray

/-- The key of the claim `cnf.jwk`, which a credential is bound to. -/
def ofConfirmation (payload : Json.Object) : Except KeyError PublicKey :=
  match (payload.get? "cnf").bind fun cnf => cnf.member? "jwk" with
  | none => .error .missingConfirmation
  | some v =>
    match Jwk.ofJson? v with
    | none => .error .confirmationNotJwk
    | some jwk => ofJwk jwk

/-! ## Signatures -/

/-- The two numbers of a signature in 64 bytes, each between one and the order of the group. -/
def signatureNumbers? (signature : List UInt8) : Option (P256.Scalar × P256.Scalar) :=
  let r := Hash.bigEndian (signature.take 32)
  let s := Hash.bigEndian (signature.drop 32)
  if signature.length = 64 ∧ 0 < r ∧ r < P256.groupOrder ∧ 0 < s ∧ s < P256.groupOrder then
    some (Fin.ofNat P256.groupOrder r, Fin.ofNat P256.groupOrder s)
  else none

/-- The signature verifies over the data. With `z` the digest of the data, the point
`(z / s) * base + (r / s) * key` has to exist and its first coordinate to be `r` modulo the order. -/
def isSignature (k : PublicKey) (data signature : List UInt8) : Bool :=
  match signatureNumbers? signature with
  | none => false
  | some (r, s) =>
    let z := Fin.ofNat P256.groupOrder (Hash.bigEndian (Hash.Sha2.sha256 data))
    let w := P256.inverse s
    let sum := P256.Point.addMultiples (z * w).val P256.Point.base (r * w).val
      (P256.Point.ofCoordinates k.x k.y)
    match sum.coordinate? with
    | none => false
    | some x => x.val % P256.groupOrder == r.val

/-- Verifies a signature over the data that was made with the named algorithm. -/
def verify (k : PublicKey) (algorithm : String) (data signature : List UInt8) :
    Except SignatureError Unit :=
  if algorithm = PublicKey.algorithm then
    if k.isSignature data signature then .ok () else .error .invalid
  else .error (.unsupportedAlgorithm algorithm)

end PublicKey

end PresentationVerifier
