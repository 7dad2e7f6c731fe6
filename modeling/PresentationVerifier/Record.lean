import PresentationVerifier.Presentation

/-!
# Records of verifications

A record is what stays of a response that was processed: how it ended, and for each presented token what
was found in it. The record of a run that ended in an error has the error's text and no presentations.

The time at which the record was made, `verified_at` beside the verdict, is left out: it comes from the clock
of the machine, no check depends on it and nothing reads it again.
-/

namespace PresentationVerifier

/-! ## Verdicts -/

/-- How processing a response ended. -/
inductive Verdict where
  /-- Every check passed. -/
  | verified
  /-- The credentials were extracted but not verified. -/
  | extractedOnly
  /-- The presentation did not pass. -/
  | rejected
  /-- The response could not be processed. -/
  | failed
deriving DecidableEq, Repr

/-- The name of a verdict. -/
def Verdict.name : Verdict → String
  | verified => "verified"
  | extractedOnly => "extracted_only"
  | rejected => "rejected"
  | failed => "failed"

/-! ## Records -/

/-- What every record carries: its number, the session and what the caller knows it by. -/
structure RecordHeader where
  sequence : UInt64
  sessionId : String
  callbackId : String
deriving DecidableEq, Repr

/-- What a record holds of a credential. -/
structure CredentialResult where
  raw : String
  format : CredentialFormat
  type : Option String
  typeMetadata : Option Json.Object
  disclosures : List Disclosure
  claims : Json.Object

/-- What a record holds of a presentation. -/
structure PresentationResult where
  raw : String
  credentials : List CredentialResult

/-- The record of a verification. -/
structure Record where
  header : RecordHeader
  verdict : Verdict
  /-- The text of the error that the run ended in. -/
  error : Option String
  submission : Option Submission
  presentations : List PresentationResult

namespace Record

/-! ## Making records -/

/-- What a record holds of a credential. -/
def ofCredential (c : Credential) : CredentialResult where
  raw := c.token.raw
  format := c.format
  type := c.token.type?
  typeMetadata := c.typeMetadata
  disclosures := c.disclosures
  claims := c.token.payload

/-- What a record holds of a presentation. -/
def ofPresentation (p : Presentation) : PresentationResult where
  raw := p.token.raw
  credentials := p.credentials.map ofCredential

/-- The record of a run that ended well. -/
def completed (header : RecordHeader) (verdict : Verdict) (submission : Option Submission)
    (presentations : List Presentation) : Record :=
  ⟨header, verdict, none, submission, presentations.map ofPresentation⟩

/-- The record of a run that ended in an error. -/
def failed (header : RecordHeader) (submission : Option Submission) (e : Error) : Record :=
  ⟨header, if e.isRejection then .rejected else .failed, some e.message, submission, []⟩

/-! ## Records as JSON -/

mutual

/-- A descriptor as a JSON object; what is absent is left out. -/
def descriptorJson : Descriptor → Json
  | .mk id format path nested =>
    .object (Json.Object.ofOptions
      [("id", some (.string id)), ("format", some format.toJson), ("path", some (.string path)),
        ("path_nested", nestedJson? nested)])

/-- The descriptor within another one, if there is one. -/
def nestedJson? : Option Descriptor → Option Json
  | none => none
  | some d => some (descriptorJson d)

end

/-- A submission as a JSON object. -/
def submissionJson (s : Submission) : Json :=
  .object (Json.Object.ofMembers
    [("id", .string s.id), ("definition_id", .string s.definitionId),
      ("descriptor_map", .array (s.descriptors.map descriptorJson))])

/-- A credential as a JSON object; what is absent is left out. -/
def credentialJson (c : CredentialResult) : Json :=
  .object (Json.Object.ofOptions
    [("raw_jwt", some (.string c.raw)), ("format", some c.format.toJson),
      ("jwt_typ", c.type.map .string), ("vctm", c.typeMetadata.map .object),
      ("valid_selective_disclosures", some (.array (c.disclosures.map Disclosure.toJson))),
      ("claims", some (.object c.claims))])

/-- A presentation as a JSON object. -/
def presentationJson (p : PresentationResult) : Json :=
  .object (Json.Object.ofMembers
    [("raw_token", .string p.raw), ("vc_results", .array (p.credentials.map credentialJson))])

/-- A record as a JSON object; what is absent is left out. -/
def toJson (r : Record) : Json :=
  .object (Json.Object.ofOptions
    [("sequence", some (Json.ofNat r.header.sequence.toNat)),
      ("session_id", some (.string r.header.sessionId)),
      ("callback_id", some (.string r.header.callbackId)),
      ("verification_meta", some (.object (Json.Object.ofOptions
        [("result", some (.string r.verdict.name)), ("error", r.error.map .string)]))),
      ("presentation_submission", r.submission.map submissionJson),
      ("vp_results", some (.array (r.presentations.map presentationJson)))])

end Record

end PresentationVerifier
