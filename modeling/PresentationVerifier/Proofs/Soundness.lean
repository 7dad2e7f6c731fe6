import PresentationVerifier.Proofs.Checks
import PresentationVerifier.Proofs.Disclosures
import PresentationVerifier.Proofs.Journey

/-!
# What a verified response means

A record with the verdict `verified` is a statement about the response: about its parameters, and for each
presented token about the token that it was taken apart into. `Verified` says which one, without
mentioning stages, presentations that change on the way, or the second reading of a token.

Main results:

* `journey_passed` — what a token has passed at the end of its journey, and what is kept of it.
* `verified_sound` — a record that says so is of a response that is `Verified`.
-/

namespace PresentationVerifier

/-! ## Verified tokens and responses -/

/-- What the result of a credential holds is that of a token whose disclosures passed. -/
structure CredentialKept (limit : Nat) (t : Token) (result : CredentialResult) : Prop where
  raw : result.raw = t.raw
  claims : result.claims = t.payload
  type : result.type = t.type?
  format : result.format = .vcSdJwt
  typeMetadata : Credential.typeMetadata? t.header = .ok result.typeMetadata
  disclosures : Disclosure.Passes limit t result.disclosures

/-- A presented token passed every check that was not left out, and the result is made of it. The
credential is the token itself, as it is when its text is read again. -/
structure VerifiedToken (context : Context) (processing : ProcessConfig) (clock : Clock) (t : Token)
    (result : PresentationResult) : Prop where
  raw : result.raw = t.raw
  kept : ∃ vc, result.credentials = [vc] ∧ CredentialKept context.config.maxClaimDepth t vc
  presentation : processing.options.skipVpSignatureChecks = false →
    PresentationIntact context.config processing.options clock context.resolver t
  reread : Token.ofJws t.raw = .ok t.reread
  credential : processing.options.skipVcSignatureChecks = false →
    CredentialIntact context.config clock context.resolver t.reread
  bound : HolderBinding.Bound ⟨context.config.clientId, context.nonce, clock⟩ processing.options
    context.resolver t.reread

/-- A response passed every check that was not left out, and the record is made of it. -/
structure Verified (response : Response) (context : Context) (processing : ProcessConfig)
    (clock : Clock) (record : Record) : Prop where
  noError : response.error = none ∨ response.error = some ""
  state : processing.options.skipStateCheck = false → response.state = context.expectedState
  submission : ∃ s, response.submission = some s ∧ s.Supported
  tokens : ∃ texts, texts ≠ [] ∧ response.vpToken = some (texts.map .text) ∧
    List.Forall₂ (fun text result => ∃ t,
        (Token.unwrap context.decrypter context.config.maxJweNesting text).result = .ok t ∧
          VerifiedToken context processing clock t result)
      texts record.presentations

namespace Run

variable {response : Response} {context : Context} {processing : ProcessConfig} {clock : Clock}

/-! ## The checks of the response -/

/-- An empty error counts as none. -/
theorem checkError_eq_ok_iff :
    checkError response = .ok () ↔ response.error = none ∨ response.error = some "" := by
  unfold checkError Response.reportedError?
  cases response.error with
  | none => simp
  | some e => by_cases hEmpty : e = "" <;> simp [hEmpty, Option.filter]

/-- The state is compared as it is, so that one that is missing only matches none. -/
theorem checkState_eq_ok_iff :
    checkState response context processing = .ok () ↔
      (processing.options.skipStateCheck = false → response.state = context.expectedState) := by
  unfold checkState
  cases processing.options.skipStateCheck with
  -- the state is left out, and nothing is asked of it
  | true => simp
  | false => by_cases hState : response.state = context.expectedState <;> simp [hState]

/-! ## The journey of a token -/

/-- A presentation is a text that comes out of its envelopes as a token. -/
theorem presentOne_eq_ok_iff {v : VpToken} {vp : Presentation} :
    presentOne context v = .ok vp ↔ ∃ text t, v = .text text ∧
      (Token.unwrap context.decrypter context.config.maxJweNesting text).result = .ok t ∧
        vp = ⟨t, []⟩ := by
  cases v with
  -- an object is no text
  | document o => simp [presentOne]
  | text raw =>
    unfold presentOne
    cases hUnwrap : (Token.unwrap context.decrypter context.config.maxJweNesting raw).result with
    | error e => simp [hUnwrap]
    | ok t => simp [hUnwrap, eq_comm]

/-- A check that passes is not seen any more in what comes of the journey. -/
theorem journey_check_of_ok {reached : Stage} {test : Presentation → Except Error Unit}
    {vp : Presentation} (h : test vp = .ok ()) (rest : List SoloStage) (passed : Stage) :
    journey (.check reached test :: rest) passed vp = journey rest reached vp := by
  simp only [journey, SoloStage.check, h]

/-- A journey that gets to its end has passed its first check. -/
theorem ok_of_journey_check {reached : Stage} {test : Presentation → Except Error Unit}
    {rest : List SoloStage} {passed : Stage} {vp : Presentation}
    (h : (journey (.check reached test :: rest) passed vp).error = none) : test vp = .ok () := by
  cases hTest : test vp with
  | ok _ => rfl
  -- the journey would have ended here
  | error e => simp [journey, SoloStage.check, hTest] at h

/-- An update that gets through hands on what it has made. -/
theorem journey_update_of_ok {reached : Stage} {act : Presentation → Presentation × Option Error}
    {vp vp' : Presentation} (h : act vp = (vp', none)) (rest : List SoloStage) (passed : Stage) :
    journey (⟨reached, act⟩ :: rest) passed vp = journey rest reached vp' := by
  simp only [journey, h]

/-- A journey that gets to its end was not stopped by its first update. -/
theorem ok_of_journey_update {reached : Stage} {act : Presentation → Presentation × Option Error}
    {rest : List SoloStage} {passed : Stage} {vp : Presentation}
    (h : (journey (⟨reached, act⟩ :: rest) passed vp).error = none) : (act vp).2 = none := by
  cases hAct : (act vp).2 with
  | none => rfl
  | some e =>
    rw [journey_cons_of_some hAct] at h
    cases h

/-- Extraction that gets through puts in what it has found. -/
theorem ok_of_extractFrom {s : Submission} {vp : Presentation} (h : (extractFrom s vp).2 = none) :
    ∃ credentials, Presentation.extract s vp.token = .ok credentials ∧
      extractFrom s vp = ({ vp with credentials := credentials }, none) := by
  unfold extractFrom at h ⊢
  cases hExtract : Presentation.extract s vp.token with
  | error e => simp [hExtract] at h
  | ok credentials => exact ⟨credentials, rfl, rfl⟩

/-- The only credential of a presentation gets the disclosures that its token passes with. -/
theorem ok_of_discloseAll {vp : Presentation} {vc : Credential} (hOne : vp.credentials = [vc])
    (h : (discloseAll context vp).2 = none) :
    ∃ ds, Disclosure.validate context.config.maxClaimDepth vc.token = .ok ds ∧
      discloseAll context vp = ({ vp with credentials := [{ vc with disclosures := ds }] }, none) := by
  cases hValidate : Disclosure.validate context.config.maxClaimDepth vc.token with
  | error e => simp [discloseAll, hOne, updateEach, discloseIn, hValidate] at h
  | ok ds => exact ⟨ds, rfl, by simp [discloseAll, hOne, updateEach, discloseIn, hValidate]⟩

/-- A check of one item is the check of that item. -/
theorem firstError_singleton {α ε : Type} (check : α → Except ε Unit) (a : α) :
    firstError check [a] = check a := by
  cases h : check a <;> simp [firstError, h]

/-- What a token has passed at the end of its journey, and what is kept of it. -/
theorem journey_passed {s : Submission} {t : Token} (hType : processing.type = .fullValidation)
    (hRaw : Token.ofJws t.raw = .ok t.reread)
    (h : (journey (soloStages context processing clock s) .tokensExtracted ⟨t, []⟩).error = none) :
    s.Supported ∧ VerifiedToken context processing clock t (Record.ofPresentation
      (journey (soloStages context processing clock s) .tokensExtracted ⟨t, []⟩).presentation) := by
  simp only [soloStages, hType, soloExtraction, soloValidation, List.cons_append,
    List.nil_append] at h ⊢
  -- the integrity of the presentation
  have hPresentation := ok_of_journey_check h
  rw [journey_check_of_ok hPresentation] at h ⊢
  -- the extraction: the only credential is the token itself
  obtain ⟨credentials, hExtract, hExtracted⟩ := ok_of_extractFrom (ok_of_journey_update h)
  obtain ⟨hSupported, metadata, hMetadata, rfl⟩ := (Presentation.extract_eq_ok_iff hRaw).mp hExtract
  rw [journey_update_of_ok hExtracted] at h ⊢
  -- the integrity of the credential
  have hCredential := ok_of_journey_check h
  rw [journey_check_of_ok hCredential] at h ⊢
  rw [firstError_singleton] at hCredential
  -- its disclosures
  obtain ⟨ds, hValidate, hDisclosed⟩ := ok_of_discloseAll rfl (ok_of_journey_update h)
  rw [journey_update_of_ok hDisclosed] at h ⊢
  -- its holder binding
  have hBinding := ok_of_journey_check h
  rw [journey_check_of_ok hBinding, journey_check_of_ok rfl]
  rw [firstError_singleton] at hBinding
  -- nothing after the extraction has touched the token, so all parts speak of it
  refine ⟨hSupported, ?_⟩
  have hPasses := Disclosure.validate_eq_ok_iff.mp hValidate
  exact
    { raw := rfl
      kept := ⟨_, rfl, rfl, rfl, rfl, rfl, hMetadata, hPasses.decoded, hPasses.distinct,
        hPasses.committed⟩
      -- a check that is not left out was made, and is what it decides
      presentation := fun hSkip => by
        rw [checkPresentation, if_neg (by simp [hSkip])] at hPresentation
        exact verifyPresentation_eq_ok_iff.mp hPresentation
      reread := hRaw
      credential := fun hSkip => by
        rw [checkCredential, if_neg (by simp [hSkip])] at hCredential
        exact verifyCredential_eq_ok_iff.mp hCredential
      bound := HolderBinding.verify_eq_ok_iff.mp hBinding }

/-! ## Records -/

/-- Tokens that can all be taken apart are texts. -/
theorem texts_of_presentOne {tokens : List VpToken} {vps : List Presentation}
    (h : List.Forall₂ (fun v vp => presentOne context v = .ok vp) tokens vps) :
    ∃ texts, tokens = texts.map .text ∧ List.Forall₂ (fun text vp => ∃ t,
      (Token.unwrap context.decrypter context.config.maxJweNesting text).result = .ok t ∧
        vp = ⟨t, []⟩) texts vps := by
  -- on the tokens with their presentations
  induction h with
  | nil => exact ⟨[], rfl, .nil⟩
  | cons hOne _ ih =>
    obtain ⟨text, t, rfl, hUnwrap, rfl⟩ := presentOne_eq_ok_iff.mp hOne
    obtain ⟨texts, rfl, hEach⟩ := ih
    exact ⟨text :: texts, rfl, .cons ⟨t, hUnwrap, rfl⟩ hEach⟩

/-- Only a full validation says that a response was verified. -/
theorem fullValidation_of_verdict {type : ProcessType} (h : verdictOf type = .verified) :
    type = .fullValidation := by
  cases type with
  | fullValidation => rfl
  | extractOnly => cases h

/-- **Soundness**: a record with the verdict `verified`, whatever call to a run it came from, is of a
response that passed every check that was not left out. -/
theorem verified_sound {calls : List Int64} {now : Int64} {record : Record}
    (h : (((Run.new response context processing).after calls).process now).1 = .ok record)
    (hVerdict : record.verdict = .verified) :
    Verified response context processing (clockAt context now) record := by
  -- no earlier call can have been there
  rw [after_eq_self_of_ok h] at h
  obtain ⟨p, hAdvance, rfl⟩ := process_new_ok_iff.mp h
  have hType : processing.type = .fullValidation := fullValidation_of_verdict hVerdict
  obtain ⟨hError, hState, s, tokens, vps, hs, hv, hNonempty, hEach, hPassed, hLeft⟩ :=
    advance_stages_ok hAdvance
  obtain ⟨texts, rfl, hTexts⟩ := texts_of_presentOne hEach
  -- every token has made its journey
  have hTokens : ∀ i (hText : i < texts.length) (hVp : i < vps.length), s.Supported ∧ ∃ t,
      (Token.unwrap context.decrypter context.config.maxJweNesting (texts.get ⟨i, hText⟩)).result =
          .ok t ∧
        VerifiedToken context processing (clockAt context now) t (Record.ofPresentation
          (journey (soloStages context processing (clockAt context now) s) .tokensExtracted
            (vps.get ⟨i, hVp⟩)).presentation) := by
    intro i hText hVp
    obtain ⟨t, hUnwrap, hNew⟩ := hTexts.get hText hVp
    -- the presentation that it set out as is new, with no credentials
    have hJourney := hPassed _ (List.get_mem vps ⟨i, hVp⟩)
    rw [hNew] at hJourney ⊢
    have hToken := journey_passed hType (Token.ofJws_raw_of_unwrap hUnwrap) hJourney
    exact ⟨hToken.1, t, hUnwrap, hToken.2⟩
  have hSome : texts ≠ [] := fun hNone => hNonempty (by rw [hNone]; rfl)
  have hFirst : 0 < texts.length := List.length_pos_iff.mpr hSome
  -- there is a token, so that what its journey says of the submission is not lost
  refine ⟨checkError_eq_ok_iff.mp hError, checkState_eq_ok_iff.mp hState,
    ⟨s, hs, (hTokens 0 hFirst (hTexts.length_eq ▸ hFirst)).1⟩, texts, hSome, hv, ?_⟩
  show List.Forall₂ _ texts (p.presentations.map Record.ofPresentation)
  rw [hLeft, List.map_map, List.forall₂_map_right_iff, List.forall₂_iff_get]
  exact ⟨hTexts.length_eq, fun i hText hVp => (hTokens i hText hVp).2⟩

/-! ## A signed token -/

/-- The key whose point is the base point of the group. -/
def baseKey : PublicKey where
  x := P256.Point.base.x
  y := P256.Point.base.y
  onCurve := by decide +kernel

/-- A context in which every token has to be signed with that key. -/
def baseContext : Context where
  sessionId := ""
  callbackId := ""
  sequence := 1
  expectedState := some "state"
  nonce := none
  resolver := { holderKey := fun _ => .ok baseKey, issuerKey := fun _ => .ok baseKey }
  decrypter := none
  config := {}

/-- A signed token. -/
def signedText : String :=
  "eyJhbGciOiJFUzI1NiJ9.e30.axfR8uEsQkf4vOblY6RA8ncDfYEt6zOg9KE5RdiYwpaZyYZbPxYKluqxMLPS0PO60bfQ" ++
    "dCoXargByo2truSm2w"

/-- It is signed with the base key, has no type and claims nothing. -/
theorem ofJws_signedText :
    ∃ t, Token.ofJws signedText = .ok t ∧ SignedBy (.ok baseKey) t ∧ t.header.get? "typ" = none ∧
      t.payload = [] := by
  -- the text is read and the signature verified by computation, once for all uses
  have hRead : (Token.ofJws signedText).toOption.map (fun t =>
      ((baseKey.verifyToken t).toOption, (t.header.get? "typ").isNone, t.payload.isEmpty)) =
        some (some (), true, true) := by
    decide +kernel
  obtain ⟨t, hToken, hParts⟩ := toOption_map_eq_some.mp hRead
  simp only [Prod.mk.injEq, Option.isNone_iff_eq_none, List.isEmpty_iff] at hParts
  obtain ⟨hVerify, hUntyped, hEmpty⟩ := hParts
  have hSigned : SignedBy (.ok baseKey) t :=
    ⟨baseKey, rfl, verifyToken_eq_ok_iff.mp (toOption_eq_some.mp hVerify)⟩
  exact ⟨t, hToken, hSigned, hUntyped, hEmpty⟩

/-- The response that presents it. -/
def signedResponse : Response where
  raw := []
  idToken := none
  vpToken := some [.text signedText]
  submission := some ⟨"answer", "request", [.new "input" .vcSdJwt "$"]⟩
  state := some "state"
  error := none
  errorDescription := none
  errorUri := none

set_option maxRecDepth 100000 in
/-- There is a record that says so, with no check left out. -/
theorem verified_sound_signed :
    ∃ record, ((Run.new signedResponse baseContext {}).process 0).1 = .ok record ∧
      record.verdict = .verified ∧
        Verified signedResponse baseContext {} (clockAt baseContext 0) record := by
  -- the whole run, with the signature, is computed
  have hVerdict : ((Run.new signedResponse baseContext {}).process 0).1.toOption.map Record.verdict =
      some .verified := by
    decide +kernel
  cases hRecord : ((Run.new signedResponse baseContext {}).process 0).1 with
  | error e =>
    rw [hRecord] at hVerdict
    cases hVerdict
  | ok record =>
    rw [hRecord] at hVerdict
    have hVerified : record.verdict = .verified := Option.some.inj hVerdict
    have hCalls :
        (((Run.new signedResponse baseContext {}).after []).process 0).1 = .ok record := hRecord
    exact ⟨record, rfl, hVerified, verified_sound hCalls hVerified⟩

end Run

end PresentationVerifier
