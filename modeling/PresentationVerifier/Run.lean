import PresentationVerifier.HolderBinding
import PresentationVerifier.Record
import PresentationVerifier.Response
import PresentationVerifier.Run.Stage
import PresentationVerifier.Token.Envelope

/-!
# Processing a response

A run processes one response, once. It goes through stages: the error that the holder may report, the
state, the presence of a submission, taking the tokens apart, the integrity of the presentations,
extracting the credentials; and then, unless only extraction is asked for, the integrity of the
credentials, their disclosures and their holder binding. The first error ends the run.
-/

namespace PresentationVerifier

/-- What a response is processed against. -/
structure Context where
  sessionId : String
  callbackId : String
  /-- The number of the record. -/
  sequence : UInt64
  /-- The `state` of the authorization request. -/
  expectedState : Option String
  /-- The `nonce` of the authorization request. -/
  nonce : Option String
  resolver : KeyResolver
  decrypter : Option Decrypter
  config : Config

/-- What the record carries of the context. -/
def Context.recordHeader (c : Context) : RecordHeader :=
  ⟨c.sequence, c.sessionId, c.callbackId⟩

namespace Run

variable (response : Response) (context : Context) (processing : ProcessConfig) (clock : Clock)

/-! ## The stages -/

/-- The holder does not report an error. -/
def checkError : Except Error Unit :=
  match response.reportedError? with
  | none => .ok ()
  | some error => .error (.holder ⟨error, response.errorDescription, response.errorUri⟩)

/-- The state is the one of the request, present or absent like it. -/
def checkState : Except Error Unit :=
  if processing.options.skipStateCheck ∨ response.state = context.expectedState then .ok ()
  else
    .error (.rejected .stateCheck
      (.stateMismatch (context.expectedState.getD "") response.state))

/-- There is a submission. -/
def checkSubmission : Except Error Unit :=
  match response.submission with
  | some _ => .ok ()
  | none => .error .missingPresentationSubmission

/-- Takes presented tokens apart, and tells which envelopes were opened on the way. -/
def present : List VpToken → List String × Except Error (List Presentation)
  | [] => ([], .ok [])
  | .document _ :: _ => ([], .error (.unsupported "object-based vp_token"))
  | .text raw :: rest =>
    let unwrapped := Token.unwrap context.decrypter context.config.maxJweNesting raw
    match unwrapped.result with
    | .error e => (unwrapped.opened, .error (e.at .tokenExtraction))
    | .ok token =>
      let (opened, result) := present rest
      (unwrapped.opened ++ opened, result.map fun ps => ⟨token, []⟩ :: ps)

/-- Takes all presented tokens apart. Only when all are is any of them kept. -/
def extractTokens (p : Progress) : Progress × Option Error :=
  match response.vpToken with
  | none => (p, some .missingVpToken)
  | some [] => (p, some .missingVpToken)
  | some tokens =>
    match present context tokens with
    | (opened, .ok ps) => ({ p with presentations := ps, opened := opened }, none)
    | (opened, .error e) => ({ p with opened := opened }, some e)

/-- Verifies the integrity of all presentations. -/
def verifyPresentations (p : Progress) : Except Error Unit :=
  if processing.options.skipVpSignatureChecks then .ok ()
  else
    firstError
      (fun vp => verifyPresentation context.config processing.options clock context.resolver vp.token)
      p.presentations

/-- Extracts the credentials of one presentation. -/
def extractFrom (s : Submission) (vp : Presentation) : Presentation × Option Error :=
  match Presentation.extract s vp.token with
  | .ok credentials => ({ vp with credentials := credentials }, none)
  | .error e => (vp, some e)

/-- Extracts the credentials of all presentations. -/
def extractCredentials (p : Progress) : Progress × Option Error :=
  match response.submission with
  | none => (p, some .missingPresentationSubmission)
  | some s =>
    let (presentations, e) := updateEach (extractFrom s) p.presentations
    ({ p with presentations := presentations }, e)

/-- Verifies the integrity of all credentials. -/
def verifyCredentials (p : Progress) : Except Error Unit :=
  if processing.options.skipVcSignatureChecks then .ok ()
  else
    firstError (fun vc => verifyCredential context.config clock context.resolver vc.token)
      p.credentials

/-- Validates the disclosures of one credential and keeps them with it. -/
def discloseIn (limit : Nat) (vc : Credential) : Credential × Option Error :=
  match Disclosure.validate limit vc.token with
  | .ok ds => ({ vc with disclosures := ds }, none)
  | .error e => (vc, some e)

/-- Validates the disclosures of all credentials. -/
def disclose (p : Progress) : Progress × Option Error :=
  let (presentations, e) := updateEach (fun vp =>
    let (credentials, e) := updateEach (discloseIn context.config.maxClaimDepth) vp.credentials
    ({ vp with credentials := credentials }, e)) p.presentations
  ({ p with presentations := presentations }, e)

/-- Verifies the holder binding of all credentials. -/
def verifyBindings (p : Progress) : Except Error Unit :=
  firstError
    (fun vc =>
      HolderBinding.verify ⟨context.config.clientId, context.nonce, clock⟩ processing.options
        context.resolver vc.token)
    p.credentials

/-! ## The row of stages -/

/-- The stages up to the extraction of the credentials. -/
def extractionStages : List StageAction :=
  [.check .errorChecked fun _ => checkError response,
    .check .stateChecked fun _ => checkState response context processing,
    .check .submissionPresent fun _ => checkSubmission response,
    ⟨.tokensExtracted, extractTokens response context⟩,
    .check .vpsIntegrityChecked (verifyPresentations context processing clock),
    ⟨.vcsExtracted, extractCredentials response⟩]

/-- The stages after the extraction of the credentials. -/
def validationStages : List StageAction :=
  [.check .vcsIntegrityChecked (verifyCredentials context processing clock),
    ⟨.selectiveDisclosuresChecked, disclose context⟩,
    .check .holderBindingChecked (verifyBindings context processing clock),
    .mark .done]

/-- All stages of a type of processing. -/
def stages : List StageAction :=
  extractionStages response context processing clock ++
    match processing.type with
    | .extractOnly => [.mark .extractedOnly]
    | .fullValidation => validationStages context processing clock

/-- How a run of a type of processing ends if no stage stops it. -/
def verdictOf : ProcessType → Verdict
  | .extractOnly => .extractedOnly
  | .fullValidation => .verified

end Run

/-! ## Runs -/

/-- The processing of one response. -/
structure Run where
  response : Response
  context : Context
  processing : ProcessConfig
  progress : Progress
  processed : Bool

namespace Run

/-- The run of a response, before it is processed. -/
def new (response : Response) (context : Context) (processing : ProcessConfig) : Run :=
  ⟨response, context, processing, .start, false⟩

/-- Processes the response at the given time. A second call does nothing and fails. -/
def process (now : Int64) (r : Run) : Except Error Record × Run :=
  if r.processed then (.error .alreadyProcessed, r)
  else
    let clock : Clock := ⟨now, r.context.config.clockSkew⟩
    let (progress, e) := advance (stages r.response r.context r.processing clock) r.progress
    let result : Except Error Record :=
      match e with
      | some e => .error e
      | none =>
        .ok (Record.completed r.context.recordHeader (verdictOf r.processing.type)
          r.response.submission progress.presentations)
    (result, { r with progress := progress, processed := true })

end Run

end PresentationVerifier
