import PresentationVerifier.PublicKey
import PresentationVerifier.Token

/-!
# Signatures of tokens

The signature of a token is made over its signing input, with the algorithm that its header names. The
keys come from a `KeyResolver`.
-/

namespace PresentationVerifier

/-- Why the signature of a token is not accepted. -/
inductive TokenSignatureError where
  | missingAlgorithm
  | unverified (cause : SignatureError)
deriving DecidableEq, Repr

/-- The text of a token signature error. -/
def TokenSignatureError.message : TokenSignatureError → String
  | missingAlgorithm => "'alg' was missing from jwt headers"
  | unverified _ => "signature could not be verified"

/-- The texts of the causes below the error. -/
def TokenSignatureError.causes : TokenSignatureError → List String
  | missingAlgorithm => []
  | unverified cause => [cause.message]

/-- Verifies the signature of a token. -/
def PublicKey.verifyToken (k : PublicKey) (t : Token) : Except TokenSignatureError Unit :=
  match t.algorithm? with
  | none => .error .missingAlgorithm
  | some algorithm =>
    match k.verify algorithm (Encoding.utf8Bytes t.signingInput) t.signature with
    | .ok () => .ok ()
    | .error cause => .error (.unverified cause)

/-- Finds the keys that tokens are verified with. -/
structure KeyResolver where
  /-- The key of the holder, for the signature of a presentation. -/
  holderKey : Token → Except KeyError PublicKey
  /-- The key of the issuer, for the signature of a credential. -/
  issuerKey : Token → Except KeyError PublicKey :=
    fun credential => PublicKey.ofCertificateChain credential.header
  /-- The key that a credential is bound to, for the signature of its Key Binding JWT. -/
  boundKey : Token → Except KeyError PublicKey :=
    fun credential => PublicKey.ofConfirmation credential.payload

/-- The resolver for which every holder has the same key. -/
def KeyResolver.static (key : Jwk) : KeyResolver where
  holderKey _ := PublicKey.ofJwk key

end PresentationVerifier
