import PresentationVerifier.Claims
import PresentationVerifier.Config
import PresentationVerifier.Token.Signature

/-!
# Integrity of presentations and credentials

A presentation is signed by its holder, a credential by its issuer. Of both, first the key is resolved
and the signature verified, and only then are claims looked at: the points in time, the issuer, and the
audience of a presentation or the type of a credential. The first failure counts.
-/

namespace PresentationVerifier

/-- Turns the reason of a check into the error of a step. -/
def rejectAt {α : Type} (step : Step) : Except Reason α → Except Error α
  | .ok a => .ok a
  | .error reason => .error (.rejected step reason)

/-- Verifies the signature of a token with a key that is being resolved. `purpose` names the key in
the text of the failure. -/
def verifySignature (step : Step) (purpose : String) (key : Except KeyError PublicKey)
    (token : Token) : Except Error Unit :=
  match key with
  | .error _ => .error (.failed step ("unable to resolve " ++ purpose ++ " key"))
  | .ok key =>
    match key.verifyToken token with
    | .error e => .error (.failed step e.message)
    | .ok () => .ok ()

/-- Verifies a presentation. -/
def verifyPresentation (config : Config) (options : Options) (clock : Clock)
    (resolver : KeyResolver) (presentation : Token) : Except Error Unit := do
  verifySignature .vpIntegrity "holder" (resolver.holderKey presentation) presentation
  rejectAt .vpIntegrity do
    Claims.checkTemporal presentation.payload clock
    Claims.checkIssuer presentation.payload config.expectedVpIssuer
    if options.skipAudienceCheck then .ok ()
    else Claims.checkAudience presentation.payload config.clientId

/-- Verifies a credential. -/
def verifyCredential (config : Config) (clock : Clock) (resolver : KeyResolver)
    (credential : Token) : Except Error Unit := do
  verifySignature .vcIntegrity "issuer" (resolver.issuerKey credential) credential
  rejectAt .vcIntegrity do
    Claims.checkTemporal credential.payload clock
    Claims.checkIssuer credential.payload config.expectedVcIssuer
    Claims.checkVct credential.payload config.expectedVct

end PresentationVerifier
