import PresentationVerifier.Encoding.Base64
import PresentationVerifier.Error
import PresentationVerifier.Json.Reader
import PresentationVerifier.Text.Blank
import PresentationVerifier.Text.Split

/-!
# Tokens

A token is a signed JWT, alone or as the first part of an SD-JWT. The JWT has three segments between
dots: header, payload and signature. In an SD-JWT segments between tildes follow, the disclosures and
at most one Key Binding JWT; the latter is the segment that is itself shaped like a token.

`Token.ofJws` takes a signed token apart. A text whose first part has five segments is a token in an
encrypted envelope; `Token.read` tells the two apart.
-/

namespace PresentationVerifier

/-- A token that was taken apart. -/
structure Token where
  /-- The text of the token without blanks around it. -/
  raw : String
  /-- The signed JWT: everything before the first tilde. -/
  structural : String
  header : Json.Object
  payload : Json.Object
  signature : List UInt8
  /-- The encoded disclosures in their order. -/
  disclosures : List String
  /-- The Key Binding JWT. -/
  keyBinding : Option String
  /-- The token came in an encrypted envelope. -/
  decrypted : Bool

namespace Token

/-- The separator between the parts of an SD-JWT. -/
def separator : Char := '~'

/-- How many segments a signed JWT has. -/
def signedSegments : Nat := 3

/-- How many segments an encrypted JWT has. -/
def encryptedSegments : Nat := 5

/-! ## Views of a token -/

/-- The text before the last dot of the signed JWT, which is what the signature is made over. -/
def signingInput (t : Token) : String :=
  match Text.splitLast '.' t.structural.toList with
  | some (input, _) => String.ofList input
  | none => t.structural

/-- The header `alg` if it is a string. -/
def algorithm? (t : Token) : Option String :=
  (t.header.get? "alg").bind Json.asString?

/-- The header `typ` if it is a string. -/
def type? (t : Token) : Option String :=
  (t.header.get? "typ").bind Json.asString?

/-- The presented SD-JWT without a Key Binding JWT: everything up to and including the last tilde. -/
def sdJwt (t : Token) : String :=
  String.ofList (Text.throughLast separator t.raw.toList)

/-! ## Taking a token apart -/

/-- A signed token, or the compact text of an encrypted one. -/
inductive Shape where
  | signed (token : Token)
  | encrypted (jwe : String)

/-- The object whose JSON text is encoded in a segment. -/
def decodeObject (part : TokenPart) (segment : List Char) : Except TokenError Json.Object :=
  match Encoding.Base64.decodeChars Encoding.urlSafe segment with
  | none => .error (.invalidBase64 part)
  | some bytes =>
    match Json.parseBytes bytes with
    | none => .error (.invalidJson part)
    | some (.object o) => .ok o
    | some _ => .error (.notAnObject part)

/-- The bytes of the signature segment. -/
def decodeSignature (segment : List Char) : Except TokenError (List UInt8) :=
  match Encoding.Base64.decodeChars Encoding.urlSafe segment with
  | none => .error (.invalidBase64 .signature)
  | some bytes => .ok bytes

/-- A segment of the tail is a Key Binding JWT when it has as many segments as a signed or an
encrypted JWT. -/
def isKeyBinding (segment : List Char) : Bool :=
  let count := (Text.splitAt '.' segment).length
  count == signedSegments || count == encryptedSegments

/-- The part before the first tilde and the segments after it that are not empty. -/
def parts (cs : List Char) : List Char × List (List Char) :=
  match Text.splitFirst separator cs with
  | some (structural, tail) => (structural, (Text.splitAt separator tail).filter (· ≠ []))
  | none => (cs, [])

/-- The Key Binding JWT among the segments of the tail. -/
def findKeyBinding (tail : List (List Char)) : Except TokenError (Option (List Char)) :=
  match tail.filter isKeyBinding with
  | [] => .ok none
  | [binding] => .ok (some binding)
  | _ => .error .ambiguousKeyBinding

/-- The signed token with the given text, signed JWT, segments of the JWT and segments of the tail. -/
def ofSegments (raw structural header payload signature : List Char) (tail : List (List Char)) :
    Except TokenError Token := do
  let headerObject ← decodeObject .header header
  let payloadObject ← decodeObject .payload payload
  let signatureBytes ← decodeSignature signature
  let binding ← findKeyBinding tail
  return {
    raw := String.ofList raw
    structural := String.ofList structural
    header := headerObject
    payload := payloadObject
    signature := signatureBytes
    disclosures := (tail.filter fun s => !isKeyBinding s).map String.ofList
    keyBinding := binding.map String.ofList
    decrypted := false }

/-- What a text without blanks around it is. -/
def shape (cs : List Char) : Except TokenError Shape :=
  if cs = [] then .error .empty
  else
    let (structural, tail) := parts cs
    match Text.splitAt '.' structural with
    | [_, _] => .error .unsigned
    | [header, payload, signature] =>
      (ofSegments cs structural header payload signature tail).map .signed
    | [_, _, _, _, _] => .ok (.encrypted (String.ofList structural))
    | segments => .error (.invalidStructure segments.length)

/-- What a text is: a signed token or an encrypted one. -/
def read (text : String) : Except TokenError Shape :=
  shape (Text.trimBlanks text.toList)

/-- The signed token with the given text. -/
def ofJws (text : String) : Except TokenError Token :=
  match read text with
  | .ok (.signed token) => .ok token
  | .ok (.encrypted _) => .error .noDecrypter
  | .error e => .error e

end Token

end PresentationVerifier
