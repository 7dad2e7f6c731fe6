import PresentationVerifier.Encoding.Base64
import PresentationVerifier.Json.Decode

/-!
# JSON Web Keys

A JSON Web Key is read by its type, `kty`, with the members that belong to the type and the optional
members that say what the key is for. Other members are passed over. Of the key itself only elliptic
curve keys are kept; a key of another type is still checked for the form of its members.
-/

namespace PresentationVerifier

/-! ## Keys -/

/-- The optional members that say how a key is used and where it comes from. -/
structure Jwk.Metadata where
  /-- Member `use`. -/
  usage : Option String
  /-- Member `key_ops`. -/
  operations : Option (List String)
  /-- Member `alg`. -/
  algorithm : Option String
  /-- Member `kid`. -/
  keyId : Option String
  /-- Member `x5u`. -/
  certificateUrl : Option String
  /-- Member `x5c`. -/
  certificateChain : Option (List String)
  /-- Member `x5t`. -/
  thumbprintSha1 : Option (List UInt8)
  /-- Member `x5t#S256`. -/
  thumbprintSha256 : Option (List UInt8)
deriving DecidableEq, Repr

/-- The metadata of a key that has none. -/
def Jwk.Metadata.empty : Jwk.Metadata :=
  ⟨none, none, none, none, none, none, none, none⟩

/-- The key itself. -/
inductive Jwk.Material where
  /-- An elliptic curve key: the name of its curve, its coordinates and its private part. -/
  | ellipticCurve (curve : Option String) (x y privatePart : Option (List UInt8))
  | rsa
  | symmetric
  /-- A key pair of octets, such as an Edwards curve key. -/
  | octetPair
deriving DecidableEq, Repr

/-- A JSON Web Key. -/
structure Jwk where
  metadata : Jwk.Metadata
  material : Jwk.Material
deriving DecidableEq, Repr

namespace Jwk

/-! ## Members -/

/-- The algorithms that member `alg` may name; `None` is an old spelling of `none`. -/
def algorithms : List String :=
  ["HS256", "HS384", "HS512", "RS256", "RS384", "RS512", "PS256", "PS384", "PS512", "EdDSA",
    "EdBlake2b", "ES256", "ES384", "ES256K", "ES256K-R", "ESKeccakK", "ESKeccakKR", "ESBlake2b",
    "ESBlake2bK", "AleoTestnet1Signature", "none", "None"]

/-- The names of the optional members. -/
def metadataNames : List String :=
  ["use", "key_ops", "alg", "kid", "x5u", "x5c", "x5t", "x5t#S256"]

/-- The types of keys, in the order of their numbers. -/
def types : List String := ["EC", "RSA", "oct", "OKP"]

/-- Bytes in base64url, padded or not. -/
def asBytes? : Json → Option (List UInt8)
  | .string s => Encoding.Base64.decodePadded? Encoding.urlSafe s
  | _ => none

/-- An algorithm that member `alg` may name. -/
def asAlgorithm? (v : Json) : Option String :=
  v.asChoice?.bind fun name => if algorithms.contains name then some name else none

/-- A member that may be absent or `null`. -/
def optional {α : Type} (o : Json.Object) (name : String) (read : Json → Option α) :
    Option (Option α) :=
  match o.get? name with
  | none => some none
  | some v => Json.nullable read v

/-- A member that has to be there. -/
def required {α : Type} (o : Json.Object) (name : String) (read : Json → Option α) : Option α :=
  (o.get? name).bind read

mutual

/-- There is an integer in the value that needs more than 64 bits and not more than 128. -/
def hasWideInteger : Json → Bool
  | .number n =>
    match n.toInt? with
    | some i =>
      (decide (i < -2 ^ 63) && decide (-2 ^ 127 ≤ i)) ||
        (decide (2 ^ 64 ≤ i) && decide (i < 2 ^ 128))
    | none => false
  | .array items => itemsHaveWideInteger items
  | .object members => membersHaveWideInteger members
  | _ => false

/-- One of the values holds such an integer. -/
def itemsHaveWideInteger : List Json → Bool
  | [] => false
  | v :: rest => hasWideInteger v || itemsHaveWideInteger rest

/-- One of the members' values holds such an integer. -/
def membersHaveWideInteger : List (String × Json) → Bool
  | [] => false
  | (_, v) :: rest => hasWideInteger v || membersHaveWideInteger rest

end

/-! ## Reading a key -/

/-- The optional members. -/
def metadata? (o : Json.Object) : Option Metadata := do
  some {
    usage := ← optional o "use" Json.asString?
    operations := ← optional o "key_ops" (Json.asArrayOf? Json.asString?)
    algorithm := ← optional o "alg" asAlgorithm?
    keyId := ← optional o "kid" Json.asString?
    certificateUrl := ← optional o "x5u" Json.asString?
    certificateChain := ← optional o "x5c" (Json.asArrayOf? Json.asString?)
    thumbprintSha1 := ← optional o "x5t" asBytes?
    thumbprintSha256 := ← optional o "x5t#S256" asBytes? }

/-- The type of a key: its name, or its number in `types`. -/
def type? : Json → Option String
  | .string s => if types.contains s then some s else none
  | v => v.asCount?.bind fun n => types[n]?

/-- A further prime of an RSA key: the members `r`, `d` and `t`. -/
def asPrime? : Json → Option Unit
  | .object o => do
    let _ ← required o "r" asBytes?
    let _ ← required o "d" asBytes?
    let _ ← required o "t" asBytes?
    some ()
  | .array [r, d, t] => do
    let _ ← asBytes? r
    let _ ← asBytes? d
    let _ ← asBytes? t
    some ()
  | _ => none

/-- The members of the key's type. -/
def material? (o : Json.Object) : Option Material := do
  let type ← required o "kty" type?
  if type = "EC" then
    some (.ellipticCurve (← optional o "crv" Json.asString?) (← optional o "x" asBytes?)
      (← optional o "y" asBytes?) (← optional o "d" asBytes?))
  else if type = "RSA" then
    let _ ← ["n", "e", "d", "p", "q", "dp", "dq", "qi"].mapM fun name => optional o name asBytes?
    let _ ← optional o "oth" (Json.asArrayOf? asPrime?)
    some .rsa
  else if type = "oct" then
    let _ ← optional o "k" asBytes?
    some .symmetric
  else
    let _ ← required o "crv" Json.asString?
    let _ ← required o "x" asBytes?
    let _ ← optional o "d" asBytes?
    some .octetPair

/-- The key that a value describes. Outside the optional members there may be no integer between 64
and 128 bits, wherever it stands. -/
def ofJson? : Json → Option Jwk
  | .object o => do
    let metadata ← metadata? o
    if membersHaveWideInteger (o.filter fun m => !metadataNames.contains m.1) then none
    else some ⟨metadata, ← material? o⟩
  | _ => none

end Jwk

end PresentationVerifier
