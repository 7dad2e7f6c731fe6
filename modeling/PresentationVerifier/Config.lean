import PresentationVerifier.Json.Decode

/-!
# Settings

What a verifier expects of all responses, and how a single response is processed.
-/

namespace PresentationVerifier

/-! ## Settings and their defaults -/

/-- The expectations and limits of a verifier. -/
structure Config where
  /-- The audience that presentations and Key Binding JWTs have to be made for. -/
  clientId : Option String := none
  /-- The issuer that presentations have to name. -/
  expectedVpIssuer : Option String := none
  /-- The issuer that credentials have to name. -/
  expectedVcIssuer : Option String := none
  /-- The type that credentials have to be of. -/
  expectedVct : Option String := none
  /-- Leeway for points in time, in seconds. -/
  clockSkew : Int64 := 0
  /-- How deep the payload of a credential is searched for commitments. -/
  maxClaimDepth : Nat := 32
  /-- How many envelopes a token may be wrapped in. -/
  maxJweNesting : Nat := 2
deriving DecidableEq, Repr

/-- The checks that can be left out, and one that can be asked for. -/
structure Options where
  skipStateCheck : Bool := false
  skipVpSignatureChecks : Bool := false
  skipVcSignatureChecks : Bool := false
  /-- Leave out the audience of presentations and Key Binding JWTs. -/
  skipAudienceCheck : Bool := false
  skipNonceCheck : Bool := false
  /-- Refuse credentials without a Key Binding JWT. -/
  requireHolderBinding : Bool := false
deriving DecidableEq, Repr

/-- How far a response is processed. -/
inductive ProcessType where
  /-- Through every check. -/
  | fullValidation
  /-- Up to the extraction of the credentials, which stay unverified. -/
  | extractOnly
deriving DecidableEq, Repr

/-- How a response is processed. -/
structure ProcessConfig where
  type : ProcessType := .fullValidation
  options : Options := {}
deriving DecidableEq, Repr

/-! ## Settings from JSON -/

/-- The settings of a JSON value; fields that are absent have their defaults. -/
def Config.ofJson? (v : Json) : Option Config := do
  let fields ← v.fields? ["client_id", "expected_vp_issuer", "expected_vc_issuer", "expected_vct",
    "clock_skew", "max_claim_depth", "max_jwe_nesting"]
  let text := Json.nullable Json.asString?
  let default : Config := {}
  some {
    clientId := ← fields.getOr "client_id" text default.clientId
    expectedVpIssuer := ← fields.getOr "expected_vp_issuer" text default.expectedVpIssuer
    expectedVcIssuer := ← fields.getOr "expected_vc_issuer" text default.expectedVcIssuer
    expectedVct := ← fields.getOr "expected_vct" text default.expectedVct
    clockSkew := ← fields.getOr "clock_skew" Json.asInt64? default.clockSkew
    maxClaimDepth := ← fields.getOr "max_claim_depth" Json.asCount? default.maxClaimDepth
    maxJweNesting := ← fields.getOr "max_jwe_nesting" Json.asCount? default.maxJweNesting }

/-- The options of a JSON value. -/
def Options.ofJson? (v : Json) : Option Options := do
  let fields ← v.fields? ["skip_state_check", "skip_vp_signature_checks",
    "skip_vc_signature_checks", "skip_audience_check", "skip_nonce_check",
    "require_holder_binding"]
  let flag (name : String) : Option Bool := fields.getOr name Json.asBool? false
  some {
    skipStateCheck := ← flag "skip_state_check"
    skipVpSignatureChecks := ← flag "skip_vp_signature_checks"
    skipVcSignatureChecks := ← flag "skip_vc_signature_checks"
    skipAudienceCheck := ← flag "skip_audience_check"
    skipNonceCheck := ← flag "skip_nonce_check"
    requireHolderBinding := ← flag "require_holder_binding" }

/-- The name of a type of processing. -/
def ProcessType.name : ProcessType → String
  | fullValidation => "full_validation"
  | extractOnly => "extract_only"

/-- The type of processing that a JSON value names. -/
def ProcessType.ofJson? (v : Json) : Option ProcessType :=
  v.asChoice?.bind fun name => [fullValidation, extractOnly].find? fun t => t.name == name

/-- The processing of a JSON value. -/
def ProcessConfig.ofJson? (v : Json) : Option ProcessConfig := do
  let fields ← v.fields? ["process_type", "options"]
  some {
    type := ← fields.getOr "process_type" ProcessType.ofJson? .fullValidation
    options := ← fields.getOr "options" Options.ofJson? {} }

end PresentationVerifier
