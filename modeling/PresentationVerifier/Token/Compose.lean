import PresentationVerifier.Token

/-!
# Putting tokens together

The other direction of `Token.ofJws`: the text of a signed JWT from its three parts, and the text of an
SD-JWT from a signed JWT, its disclosures and a Key Binding JWT.
-/

namespace PresentationVerifier.Token

/-- The segment that encodes some bytes. -/
def segment (bytes : List UInt8) : String :=
  Encoding.Base64.encode Encoding.urlSafe bytes

/-- The signing input of a header and a payload, both given as JSON text. -/
def inputText (header payload : String) : String :=
  segment (Encoding.utf8Bytes header) ++ "." ++ segment (Encoding.utf8Bytes payload)

/-- The signed JWT of a header, a payload and a signature. -/
def jwsText (header payload : String) (signature : List UInt8) : String :=
  inputText header payload ++ "." ++ segment signature

/-- The SD-JWT of a signed JWT and disclosures, each followed by a tilde. -/
def sdJwtText (jws : String) (disclosures : List String) : String :=
  jws ++ String.join ("~" :: disclosures.map (· ++ "~"))

/-- The presented SD-JWT: a Key Binding JWT follows the last tilde, if there is one. -/
def presentedText (sdJwt : String) (keyBinding : Option String) : String :=
  sdJwt ++ keyBinding.getD ""

end PresentationVerifier.Token
