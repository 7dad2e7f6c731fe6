import PresentationVerifier.Commitments
import PresentationVerifier.Integrity

/-!
# Holder binding

The Key Binding JWT at the end of a presented SD-JWT is signed with the key that the credential is bound
to. It shows that the holder of that key made this very presentation: for this verifier (`aud`), in this
session (`nonce`), of these disclosures (`sd_hash`).
-/

namespace PresentationVerifier

namespace HolderBinding

/-- What a Key Binding JWT is checked against. -/
structure Expectations where
  clientId : Option String
  nonce : Option String
  clock : Clock

/-! ## The single checks -/

/-- The type of a Key Binding JWT. -/
def type : String := "kb+jwt"

/-- The type in the header, where it is a string. -/
def checkType (binding : Token) : Except Reason Unit :=
  match binding.type? with
  | none => .ok ()
  | some typ => if typ = type then .ok () else .error (.malformedClaim "typ")

/-- The audience, where one is expected: here the claim has to be there. -/
def checkAudience (options : Options) (expectations : Expectations) (claims : Json.Object) :
    Except Reason Unit :=
  if options.skipAudienceCheck then .ok ()
  else
    match expectations.clientId with
    | none => .ok ()
    | some clientId =>
      if claims.contains "aud" then Claims.checkAudience claims (some clientId)
      else .error (.audienceMismatch clientId Json.null.compact)

/-- The nonce, where the session has one: the claim has to be the same string. -/
def checkNonce (options : Options) (expectations : Expectations) (claims : Json.Object) :
    Except Reason Unit :=
  if options.skipNonceCheck then .ok ()
  else
    match expectations.nonce with
    | none => .ok ()
    | some nonce =>
      if (claims.get? "nonce").bind Json.asString? = some nonce then .ok ()
      else .error .nonceMismatch

/-- The digest of the SD-JWT that the binding was made for, where the claim is there. -/
def checkSdHash (credential : Token) (claims : Json.Object) : Except Error Unit :=
  match claims.get? "sd_hash" with
  | none => .ok ()
  | some (.string sdHash) => do
    let algorithm := (← sdAlgorithm credential.payload).getD HashAlgorithm.default
    if algorithm.hash (Encoding.utf8Bytes credential.sdJwt) = sdHash then .ok ()
    else .error (.rejected .holderBinding .sdHashMismatch)
  | some _ => .error (.rejected .holderBinding (.malformedClaim "sd_hash"))

/-- The signature of a Key Binding JWT, with the key that the credential is bound to. -/
def checkSignature (options : Options) (resolver : KeyResolver) (credential binding : Token) :
    Except Error Unit :=
  if options.skipVcSignatureChecks then .ok ()
  else verifySignature .holderBinding "holder binding" (resolver.boundKey credential) binding

/-! ## All checks -/

/-- The checks of a Key Binding JWT in their order. -/
def checkBinding (expectations : Expectations) (options : Options) (resolver : KeyResolver)
    (credential : Token) (binding : Token) : Except Error Unit := do
  rejectAt .holderBinding (checkType binding)
  checkSignature options resolver credential binding
  rejectAt .holderBinding (Claims.checkIssuedAt binding.payload expectations.clock)
  rejectAt .holderBinding (checkAudience options expectations binding.payload)
  rejectAt .holderBinding (checkNonce options expectations binding.payload)
  checkSdHash credential binding.payload

/-- Verifies the Key Binding JWT of a credential. A credential without one passes unless holder binding
is required. -/
def verify (expectations : Expectations) (options : Options) (resolver : KeyResolver)
    (credential : Token) : Except Error Unit :=
  match credential.keyBinding with
  | none =>
    if options.requireHolderBinding then .error (.rejected .holderBinding .missingHolderBinding)
    else .ok ()
  | some text =>
    match Token.ofJws text with
    | .error e => .error (e.at .holderBinding)
    | .ok binding => checkBinding expectations options resolver credential binding

end HolderBinding

end PresentationVerifier
