import PresentationVerifier.Commitments
import PresentationVerifier.Submission

/-!
# Presentations and credentials

A presentation is a token, and the credentials in it are found by the submission's descriptors. The only
arrangement that is supported is a single descriptor for the token itself with the format `vc+sd-jwt`:
then the presentation is the credential.
-/

namespace PresentationVerifier

/-- A credential that was extracted from a presentation. -/
structure Credential where
  format : CredentialFormat
  token : Token
  /-- The type metadata document of the header `vctm`. -/
  typeMetadata : Option Json.Object
  /-- The disclosures that passed. -/
  disclosures : List Disclosure

/-- A presentation and the credentials found in it. -/
structure Presentation where
  token : Token
  credentials : List Credential

namespace Credential

/-- The Key Binding JWT, empty if there is none. -/
def holderBinding (c : Credential) : String :=
  c.token.keyBinding.getD ""

/-- The type metadata of a header: the only string of the array `vctm`, in base64url. A header that is
absent, no array or an empty array gives none. -/
def typeMetadata? (header : Json.Object) : Except Error (Option Json.Object) :=
  match header.get? "vctm" with
  | some (.array []) => .ok none
  | some (.array [.string encoded]) =>
    match Encoding.Base64.decodeTrimmed? Encoding.urlSafe encoded with
    | none => .error (.malformedToken (.invalidBase64 .typeMetadata))
    | some bytes =>
      match Json.parseBytes bytes with
      | none => .error (.malformedToken (.invalidJson .typeMetadata))
      | some (.object o) => .ok (some o)
      | some _ => .error (.malformedToken (.notAnObject .typeMetadata))
  | some (.array [_]) => .error (.malformedToken (.invalidBase64 .typeMetadata))
  | some (.array _) => .error (.unsupported "more than one vctm entry")
  | _ => .ok none

/-- The credential of a token, without any disclosure that passed. -/
def ofToken (format : CredentialFormat) (token : Token) : Except Error Credential := do
  return ⟨format, token, ← typeMetadata? token.header, []⟩

end Credential

namespace Presentation

/-- The only descriptor of a submission, if it has the supported form. -/
def supportedDescriptor (s : Submission) : Except Error Descriptor :=
  match s.descriptors with
  | [d] =>
    if d.nested.isSome then .error (.unsupported "path_nested")
    else if !d.isRoot then .error (.unsupported ("descriptor path `" ++ d.path ++ "`"))
    else if d.format ≠ .vcSdJwt then
      .error (.unsupported ("credential format `" ++ d.format.name ++ "`"))
    else .ok d
  | ds =>
    let count := ds.length
    .error (.unsupported s!"a descriptor map with {count} entries")

/-- The credentials that a submission finds in a presented token. -/
def extract (s : Submission) (token : Token) : Except Error (List Credential) := do
  let d ← supportedDescriptor s
  match Token.ofJws token.raw with
  | .error e => .error (e.at .vcExtraction)
  | .ok credential => return [← Credential.ofToken d.format credential]

end Presentation

end PresentationVerifier
