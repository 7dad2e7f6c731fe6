import PresentationVerifier.Text.Quoted

/-!
# Errors of a verification

What can go wrong with a response, in three tiers. A *rejection* says that the verifier worked and the
presentation did not pass; it has a step and a reason. A *failure* says that a collaborator (keys,
signatures, decryption) did not work; it has a step and a cause. All other errors are structural: the
response is malformed, or outside what the verifier supports.
-/

namespace PresentationVerifier

/-! ## Steps -/

/-- The stages of a verification that rejections and failures can name. -/
inductive Step where
  | errorCheck
  | stateCheck
  | submissionCheck
  | tokenExtraction
  | vpIntegrity
  | vcExtraction
  | vcIntegrity
  | selectiveDisclosure
  | holderBinding
deriving DecidableEq, Repr

/-- The words for a step in a message. -/
def Step.name : Step → String
  | errorCheck => "error check"
  | stateCheck => "state check"
  | submissionCheck => "submission check"
  | tokenExtraction => "token extraction"
  | vpIntegrity => "vp integrity"
  | vcExtraction => "vc extraction"
  | vcIntegrity => "vc integrity"
  | selectiveDisclosure => "selective disclosure"
  | holderBinding => "holder binding"

/-! ## Reasons of rejections -/

/-- Why a presentation did not pass. -/
inductive Reason where
  | stateMismatch (expected : String) (found : Option String)
  | expired
  | notYetValid
  | issuedInFuture
  | issuerMismatch (expected found : String)
  /-- `found` is the compact text of the claim. -/
  | audienceMismatch (expected found : String)
  | vctMismatch (expected found : String)
  | nonceMismatch
  | missingHolderBinding
  | sdHashMismatch
  | undisclosedCommitment (claim : String)
  | duplicateDisclosure (claim : String)
  | malformedClaim (claim : String)
deriving DecidableEq, Repr

/-- The text of a reason. -/
def Reason.message : Reason → String
  | stateMismatch expected found =>
    "state mismatch: expected `" ++ expected ++ "`, got " ++ Text.quotedOption found
  | expired => "token has expired"
  | notYetValid => "token is not valid yet"
  | issuedInFuture => "token has an `iat` value in the future"
  | issuerMismatch expected found =>
    "issuer mismatch: expected `" ++ expected ++ "`, got `" ++ found ++ "`"
  | audienceMismatch expected found =>
    "audience mismatch: expected `" ++ expected ++ "`, got " ++ found
  | vctMismatch expected found =>
    "vct mismatch: expected `" ++ expected ++ "`, got `" ++ found ++ "`"
  | nonceMismatch => "nonce mismatch"
  | missingHolderBinding => "missing holder binding proof"
  | sdHashMismatch => "`sd_hash` does not match the presented SD-JWT"
  | undisclosedCommitment claim =>
    "disclosure of `" ++ claim ++ "` does not match any issuer commitment"
  | duplicateDisclosure claim => "disclosure of `" ++ claim ++ "` was presented more than once"
  | malformedClaim claim => "claim `" ++ claim ++ "` has an unexpected type"

/-! ## Errors of tokens -/

/-- The parts of a token that are encoded. -/
inductive TokenPart where
  | header
  | payload
  | signature
  /-- The type metadata in the header `vctm`. -/
  | typeMetadata
deriving DecidableEq, Repr

/-- The name of a part in a message. -/
def TokenPart.name : TokenPart → String
  | header => "header"
  | payload => "payload"
  | signature => "signature"
  | typeMetadata => "vctm"

/-- Why a text is no token. -/
inductive TokenError where
  | empty
  | unsigned
  | invalidStructure (segments : Nat)
  | invalidBase64 (part : TokenPart)
  | invalidJson (part : TokenPart)
  | notAnObject (part : TokenPart)
  | ambiguousKeyBinding
  | nestingTooDeep (levels : Nat)
  | noDecrypter
  | decryption (cause : String)
deriving DecidableEq, Repr

/-- The text of a token error. -/
def TokenError.message : TokenError → String
  | empty => "token is empty"
  | unsigned => "token must be signed or encrypted"
  | invalidStructure segments => s!"expected 3 or 5 segments, found {segments}"
  | invalidBase64 part => part.name ++ " is not valid base64url"
  | invalidJson part => part.name ++ " is not valid JSON"
  | notAnObject part => part.name ++ " is not a JSON object"
  | ambiguousKeyBinding => "more than one key binding JWT in the disclosure tail"
  | nestingTooDeep levels => s!"JWE nested deeper than {levels} levels"
  | noDecrypter => "token is encrypted but no JWE decrypter is configured"
  | decryption cause => "JWE decryption failed: " ++ cause

/-! ## Errors of responses -/

/-- What a holder reports instead of a presentation. -/
structure HolderError where
  error : String
  description : Option String
  uri : Option String
deriving DecidableEq, Repr

/-- Why a response was not verified. -/
inductive Error where
  | holder (report : HolderError)
  | alreadyProcessed
  | missingPresentationSubmission
  | missingVpToken
  | malformedToken (cause : TokenError)
  /-- A response that may be right but is outside what the verifier supports. -/
  | unsupported (feature : String)
  | malformedDisclosure (detail : String)
  | missingSdAlg
  | unsupportedSdAlg (name : String)
  | claimNestingTooDeep (levels : Nat)
  | rejected (step : Step) (reason : Reason)
  | failed (step : Step) (cause : String)
deriving DecidableEq, Repr

namespace Error

/-- The text of an error. -/
def message : Error → String
  | holder report => "error received from holder: " ++ report.error
  | alreadyProcessed => "authorization response has already been processed"
  | missingPresentationSubmission => "no presentation_submission found in response"
  | missingVpToken => "no vp_token found in response"
  | malformedToken cause => "malformed token: " ++ cause.message
  | unsupported feature => feature ++ " is not yet supported"
  | malformedDisclosure detail => "malformed disclosure: " ++ detail
  | missingSdAlg => "`_sd_alg` not found in credential"
  | unsupportedSdAlg name => "unsupported hash algorithm: " ++ name
  | claimNestingTooDeep levels => s!"claims are nested deeper than {levels} levels"
  | rejected step reason => "verification rejected at " ++ step.name ++ ": " ++ reason.message
  | failed step cause => "verification failed at " ++ step.name ++ ": " ++ cause

/-- The step that the error names. -/
def step? : Error → Option Step
  | rejected step _ => some step
  | failed step _ => some step
  | _ => none

/-- The reason of a rejection. -/
def reason? : Error → Option Reason
  | rejected _ reason => some reason
  | _ => none

/-- The error is a rejection. -/
def isRejection : Error → Bool
  | rejected _ _ => true
  | _ => false

end Error

/-- The error of a step that could not take a token apart. Only decryption is the work of a
collaborator and so can fail; any other token error is the token's fault. -/
def TokenError.at (e : TokenError) (step : Step) : Error :=
  match e with
  | decryption cause => .failed step cause
  | e => .malformedToken e

end PresentationVerifier
