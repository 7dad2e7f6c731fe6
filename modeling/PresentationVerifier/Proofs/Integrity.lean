import PresentationVerifier.Proofs.Binding
import PresentationVerifier.Proofs.Errors
import PresentationVerifier.Proofs.Soundness

/-!
# The order of the integrity checks

A presentation and a credential go through the same row of demands: the key, the signature, the points in
time, the issuer, and last the audience of the one and the type of the other. Demands on the key and the
signature fail the step, demands on claims reject the token at it.

As the signature comes first, what a token claims says nothing of a token that is not signed: its error is
the same whatever is expected of the claims (`verifyPresentation_of_unsigned`).

Main results:

* `verifyPresentation_decided`, `verifyCredential_decided`: the row of demands of each.
* `verifyCredential_of_claims`: all that a credential is judged by.
* `integrity_decided`: both checks as a whole.
-/

namespace PresentationVerifier

/-! ## Claims -/

namespace Claims

/-- The expiry is decided by being read and by being compared with now. -/
theorem checkExpiry_decided (payload : Json.Object) (clock : Clock) :
    Decides (dateDemands payload "exp" (fun exp => clock.now ≤ saturatingAdd exp clock.skew) .expired)
      (checkExpiry payload clock) := by
  -- the check asks whether it has expired, and the demand is that it has not
  simp only [← Int64.not_lt]
  exact compare_date_decided _ .expired

/-- The start is decided in the same way. -/
theorem checkStart_decided (payload : Json.Object) (clock : Clock) :
    Decides
      (dateDemands payload "nbf" (fun nbf => nbf ≤ saturatingAdd clock.now clock.skew) .notYetValid)
      (checkStart payload clock) := by
  simp only [← Int64.not_lt]
  exact compare_date_decided _ .notYetValid

/-- What is demanded of the points in time. -/
def temporalDemands (payload : Json.Object) (clock : Clock) : List (Demand Reason) :=
  dateDemands payload "exp" (fun exp => clock.now ≤ saturatingAdd exp clock.skew) .expired ++
    (dateDemands payload "nbf" (fun nbf => nbf ≤ saturatingAdd clock.now clock.skew) .notYetValid ++
    dateDemands payload "iat" (fun iat => iat ≤ saturatingAdd clock.now clock.skew) .issuedInFuture)

/-- The three points in time are decided one after the other. -/
theorem checkTemporal_decided (payload : Json.Object) (clock : Clock) :
    Decides (temporalDemands payload clock) (checkTemporal payload clock) := by
  refine Decides.bind (checkExpiry_decided payload clock) fun _ _ => ?_
  refine Decides.bind (checkStart_decided payload clock) fun _ _ => ?_
  exact checkIssuedAt_decided payload clock

/-- The points in time are judged as they are read. -/
theorem checkTemporal_of_dates {payload payload' : Json.Object} {clock : Clock}
    (hDates : ∀ claim ∈ ["exp", "nbf", "iat"], numericDate payload claim = numericDate payload' claim) :
    checkTemporal payload clock = checkTemporal payload' clock := by
  -- each of the three checks starts from its date
  have hExpiry := hDates "exp" (by simp)
  have hStart := hDates "nbf" (by simp)
  have hIssued := hDates "iat" (by simp)
  simp only [checkTemporal, checkExpiry, checkStart, checkIssuedAt, hExpiry, hStart, hIssued]

/-- The points in time are judged by three claims. -/
theorem checkTemporal_of_claims {payload payload' : Json.Object} {clock : Clock}
    (hClaims : ∀ claim ∈ ["exp", "nbf", "iat"], payload.get? claim = payload'.get? claim) :
    checkTemporal payload clock = checkTemporal payload' clock := by
  refine checkTemporal_of_dates fun claim hClaim => ?_
  rw [numericDate, numericDate, hClaims claim hClaim]

/-- A claim is a string, or it is absent or `null`. -/
def MayText (payload : Json.Object) (claim : String) : Prop :=
  payload.get? claim = none ∨ payload.get? claim = some .null ∨
    ∃ found, payload.get? claim = some (.string found)

/-- The string that a claim is, if it is one. -/
def textOf (payload : Json.Object) (claim : String) : String :=
  ((payload.get? claim).bind Json.asString?).getD ""

/-- What is demanded of a claim that is a string. Only where one is expected it is compared. -/
def textDemands (payload : Json.Object) (claim : String) (expected : Option String)
    (mismatch : String → String → Reason) : List (Demand Reason) :=
  ⟨MayText payload claim, .malformedClaim claim⟩ ::
    whereExpected expected fun e =>
      [⟨∀ found, payload.get? claim = some (.string found) → found = e,
        mismatch e (textOf payload claim)⟩]

/-- The comparison of a string claim is decided by its form, and then by the expectation. -/
theorem compare_text_decided {payload : Json.Object} {claim : String} {expected : Option String}
    (mismatch : String → String → Reason) :
    Decides (textDemands payload claim expected mismatch)
      (text payload claim >>= fun found =>
        match found, expected with
        | some found, some expected =>
          if found = expected then .ok () else .error (mismatch expected found)
        | _, _ => .ok ()) := by
  unfold textDemands text MayText textOf
  cases payload.get? claim with
  -- an absent claim has no text that could differ from an expectation
  | none =>
    refine .cons_of_met (.inl rfl) ?_
    cases expected with
    | none => exact ⟨(), rfl⟩
    | some e => exact .cons_of_met (by simp) ⟨(), rfl⟩
  | some v =>
    cases v with
    -- nor has `null`
    | null =>
      refine .cons_of_met (.inr (.inl rfl)) ?_
      cases expected with
      | none => exact ⟨(), rfl⟩
      | some e => exact .cons_of_met (by simp) ⟨(), rfl⟩
    | string s =>
      refine .cons_of_met (.inr (.inr ⟨s, rfl⟩)) ?_
      cases expected with
      | none => exact ⟨(), rfl⟩
      -- here the two strings are compared
      | some e =>
        simp only [whereExpected, Option.some.injEq, Json.string.injEq, forall_eq']
        exact decides_ite (s = e) (mismatch e s)
    -- anything else is malformed, expected or not
    | bool b | number n | array items | object members => exact .cons_of_unmet (by simp) rfl

/-- The issuer is decided as a string claim. -/
theorem checkIssuer_decided (payload : Json.Object) (expected : Option String) :
    Decides (textDemands payload "iss" expected .issuerMismatch) (checkIssuer payload expected) :=
  compare_text_decided .issuerMismatch

theorem checkVct_decided (payload : Json.Object) (expected : Option String) :
    Decides (textDemands payload "vct" expected .vctMismatch) (checkVct payload expected) :=
  compare_text_decided .vctMismatch

/-- What is demanded of the audience of a presentation. Unlike that of a Key Binding JWT it may be
absent. -/
def audienceDemands (payload : Json.Object) (expected : Option String) : List (Demand Reason) :=
  whereExpected expected fun e =>
    [⟨∀ aud, payload.get? "aud" = some aud → IsAudience aud, .malformedClaim "aud"⟩,
      ⟨∀ aud, payload.get? "aud" = some aud → Names aud e,
        .audienceMismatch e (HolderBinding.audienceText payload)⟩]

/-- The audience is decided by its form and by whom it names, and by nothing where none is expected. -/
theorem checkAudience_decided (payload : Json.Object) (expected : Option String) :
    Decides (audienceDemands payload expected) (checkAudience payload expected) := by
  unfold audienceDemands checkAudience HolderBinding.audienceText
  cases expected with
  -- nothing is expected, so the claim is not looked at
  | none =>
    cases payload.get? "aud" with
    | none => exact ⟨(), rfl⟩
    | some aud => exact ⟨(), rfl⟩
  | some e =>
    cases payload.get? "aud" with
    | none =>
      -- both demands are on a claim that is there
      refine .cons_of_met (fun aud h => by cases h) ?_
      exact .cons_of_met (fun aud h => by cases h) ⟨(), rfl⟩
    | some aud =>
      simp only [whereExpected, Option.some.injEq, forall_eq']
      exact audience_decided aud e

end Claims

/-! ## The rows of demands -/

section Rows

variable (config : Config) (options : Options) (clock : Clock) (resolver : KeyResolver) (t : Token)

/-- What is demanded of a presentation, in this order. -/
def presentationDemands : List (Demand Error) :=
  keyDemands .vpIntegrity "holder" (resolver.holderKey t) t ++
    (Claims.temporalDemands t.payload clock ++
      (Claims.textDemands t.payload "iss" config.expectedVpIssuer .issuerMismatch ++
      unlessSkipped options.skipAudienceCheck
        (Claims.audienceDemands t.payload config.clientId))).map (Demand.rejectedAt .vpIntegrity)

/-- What is demanded of a credential, in this order. -/
def credentialDemands : List (Demand Error) :=
  keyDemands .vcIntegrity "issuer" (resolver.issuerKey t) t ++
    (Claims.temporalDemands t.payload clock ++
      (Claims.textDemands t.payload "iss" config.expectedVcIssuer .issuerMismatch ++
      Claims.textDemands t.payload "vct" config.expectedVct .vctMismatch)).map
        (Demand.rejectedAt .vcIntegrity)

/-- A presentation is decided by its row of demands. -/
theorem verifyPresentation_decided :
    Decides (presentationDemands config options clock resolver t)
      (verifyPresentation config options clock resolver t) := by
  -- in the order of the checks: key and signature, and then the claims, which are rejected
  refine Decides.bind (verifySignature_decided _ _ _ _) fun _ _ => Decides.rejectAt _ ?_
  refine Decides.bind (Claims.checkTemporal_decided _ _) fun _ _ => ?_
  refine Decides.bind (Claims.checkIssuer_decided _ _) fun _ _ => ?_
  exact Decides.unless (Claims.checkAudience_decided _ _)

/-- A credential is decided by its row of demands. -/
theorem verifyCredential_decided :
    Decides (credentialDemands config clock resolver t) (verifyCredential config clock resolver t) := by
  refine Decides.bind (verifySignature_decided _ _ _ _) fun _ _ => Decides.rejectAt _ ?_
  refine Decides.bind (Claims.checkTemporal_decided _ _) fun _ _ => ?_
  refine Decides.bind (Claims.checkIssuer_decided _ _) fun _ _ => ?_
  exact Claims.checkVct_decided _ _

end Rows

/-! ## What the checks look at -/

/-- To be signed is a matter of the header and the signature, under the key that was resolved. -/
theorem signedBy_iff {key : Except KeyError PublicKey} {t : Token} :
    SignedBy key t ↔ ∃ k, key = .ok k ∧ t.header.get? "alg" = some (.string "ES256") ∧
      k.isSignature (Encoding.utf8Bytes t.signingInput) t.signature = true := by
  simp only [SignedBy, Token.algorithm?_eq_some_iff]

section Checks

variable {config : Config} {options : Options} {clock : Clock} {resolver : KeyResolver} {t : Token}

/-- A presentation passes when all its checks do, of which the audience may be left out. -/
theorem verifyPresentation_passes_iff :
    verifyPresentation config options clock resolver t = .ok () ↔
      SignedBy (resolver.holderKey t) t ∧ Claims.checkTemporal t.payload clock = .ok () ∧
        Claims.checkIssuer t.payload config.expectedVpIssuer = .ok () ∧
        (options.skipAudienceCheck = false →
          Claims.checkAudience t.payload config.clientId = .ok ()) := by
  simp only [verifyPresentation, seq_eq_ok, rejectAt_eq_ok_iff, verifySignature_eq_ok_iff]
  cases options.skipAudienceCheck with
  | true => simp
  | false => simp

/-- A credential passes when all its checks do. -/
theorem verifyCredential_passes_iff :
    verifyCredential config clock resolver t = .ok () ↔
      SignedBy (resolver.issuerKey t) t ∧ Claims.checkTemporal t.payload clock = .ok () ∧
        Claims.checkIssuer t.payload config.expectedVcIssuer = .ok () ∧
        Claims.checkVct t.payload config.expectedVct = .ok () := by
  simp only [verifyCredential, seq_eq_ok, rejectAt_eq_ok_iff, verifySignature_eq_ok_iff]

/-- Without a signature there is a failure, whichever step it is for. -/
theorem verifySignature_of_unsigned {key : Except KeyError PublicKey} (step : Step)
    (purpose : String) (hUnsigned : ¬SignedBy key t) :
    ∃ cause, verifySignature step purpose key t = .error (.failed step cause) := by
  cases hVerify : verifySignature step purpose key t with
  -- it would be signed
  | ok _ => exact absurd (verifySignature_eq_ok_iff.mp hVerify) hUnsigned
  | error e =>
    obtain ⟨cause, rfl⟩ := error_of_verifySignature hVerify
    exact ⟨cause, rfl⟩

/-- The error of a presentation that is not signed is the same whatever is expected, at any time. -/
theorem verifyPresentation_of_unsigned (hUnsigned : ¬SignedBy (resolver.holderKey t) t) :
    ∃ cause, ∀ config options clock,
      verifyPresentation config options clock resolver t = .error (.failed .vpIntegrity cause) := by
  obtain ⟨cause, hVerify⟩ := verifySignature_of_unsigned .vpIntegrity "holder" hUnsigned
  refine ⟨cause, fun config options clock => ?_⟩
  -- the claims stand behind the signature, and are not reached
  rw [verifyPresentation, hVerify]
  rfl

/-- The error of a credential that is not signed is the same whatever is expected, at any time. -/
theorem verifyCredential_of_unsigned (hUnsigned : ¬SignedBy (resolver.issuerKey t) t) :
    ∃ cause, ∀ config clock,
      verifyCredential config clock resolver t = .error (.failed .vcIntegrity cause) := by
  obtain ⟨cause, hVerify⟩ := verifySignature_of_unsigned .vcIntegrity "issuer" hUnsigned
  refine ⟨cause, fun config clock => ?_⟩
  rw [verifyCredential, hVerify]
  rfl

/-- A credential is judged by its signature and by five claims. -/
theorem verifyCredential_of_claims {t' : Token}
    (hSignature : verifySignature .vcIntegrity "issuer" (resolver.issuerKey t) t =
      verifySignature .vcIntegrity "issuer" (resolver.issuerKey t') t')
    (hClaims : ∀ claim ∈ ["exp", "nbf", "iat", "iss", "vct"],
      t.payload.get? claim = t'.payload.get? claim) :
    verifyCredential config clock resolver t = verifyCredential config clock resolver t' := by
  -- each check reads its claims only
  have hTemporal : Claims.checkTemporal t.payload clock = Claims.checkTemporal t'.payload clock :=
    Claims.checkTemporal_of_claims fun claim hClaim => hClaims claim
      (List.mem_append_left ["iss", "vct"] hClaim)
  have hIssuer := hClaims "iss" (by simp)
  have hType := hClaims "vct" (by simp)
  have hExpected : ∀ e, Claims.checkIssuer t.payload e = Claims.checkIssuer t'.payload e := by
    intro e
    simp only [Claims.checkIssuer, Claims.text, hIssuer]
  have hTyped : ∀ e, Claims.checkVct t.payload e = Claims.checkVct t'.payload e := by
    intro e
    simp only [Claims.checkVct, Claims.text, hType]
  unfold verifyCredential
  rw [hSignature, hTemporal, hExpected, hTyped]

end Checks

/-- How the integrity of a token is decided, as a presentation and as a credential. -/
structure IntegrityDecided (resolver : KeyResolver) (t : Token) : Prop where
  /-- The first demand on a presentation that is not met gives the error. -/
  presentation : ∀ config options clock,
    Decides (presentationDemands config options clock resolver t)
      (verifyPresentation config options clock resolver t)
  presentationPasses : ∀ config options clock,
    verifyPresentation config options clock resolver t = .ok () ↔
      (∃ key, resolver.holderKey t = .ok key ∧ t.header.get? "alg" = some (.string "ES256") ∧
        key.isSignature (Encoding.utf8Bytes t.signingInput) t.signature = true) ∧
      Claims.checkTemporal t.payload clock = .ok () ∧
      Claims.checkIssuer t.payload config.expectedVpIssuer = .ok () ∧
      (options.skipAudienceCheck = false →
        Claims.checkAudience t.payload config.clientId = .ok ())
  /-- Without a signature there is one failure for all expectations. -/
  presentationUnsigned : ¬SignedBy (resolver.holderKey t) t → ∃ cause, ∀ config options clock,
    verifyPresentation config options clock resolver t = .error (.failed .vpIntegrity cause)
  /-- The first demand on a credential that is not met gives the error. -/
  credential : ∀ config clock,
    Decides (credentialDemands config clock resolver t) (verifyCredential config clock resolver t)
  credentialPasses : ∀ config clock,
    verifyCredential config clock resolver t = .ok () ↔
      (∃ key, resolver.issuerKey t = .ok key ∧ t.header.get? "alg" = some (.string "ES256") ∧
        key.isSignature (Encoding.utf8Bytes t.signingInput) t.signature = true) ∧
      Claims.checkTemporal t.payload clock = .ok () ∧
      Claims.checkIssuer t.payload config.expectedVcIssuer = .ok () ∧
      Claims.checkVct t.payload config.expectedVct = .ok ()
  credentialUnsigned : ¬SignedBy (resolver.issuerKey t) t → ∃ cause, ∀ config clock,
    verifyCredential config clock resolver t = .error (.failed .vcIntegrity cause)
  /-- A credential's audience is not looked at. -/
  credentialAudience : ∀ t' : Token,
    verifySignature .vcIntegrity "issuer" (resolver.issuerKey t) t =
      verifySignature .vcIntegrity "issuer" (resolver.issuerKey t') t' →
    (∀ claim, claim ≠ "aud" → t.payload.get? claim = t'.payload.get? claim) →
    ∀ config clock,
      verifyCredential config clock resolver t = verifyCredential config clock resolver t'
  /-- Nor is the option that leaves out the check of audiences. -/
  audienceOption : ∀ (context : Context) (processing : ProcessConfig) (clock : Clock) (p : Progress)
      (skip : Bool),
    Run.verifyCredentials context
        { processing with options := { processing.options with skipAudienceCheck := skip } } clock p =
      Run.verifyCredentials context processing clock p

/-- **Integrity is decided in one order.** A presentation passes when it is signed by its holder and its
claims are as expected, a credential when it is signed by its issuer and its claims are; else the first
demand that is not met gives the error. Without a signature this is the same failure for all
expectations, and neither the audience nor its option has any part in what a credential is found to
be. -/
theorem integrity_decided (resolver : KeyResolver) (t : Token) : IntegrityDecided resolver t where
  presentation config options clock := verifyPresentation_decided config options clock resolver t
  presentationPasses config options clock := by rw [verifyPresentation_passes_iff, signedBy_iff]
  presentationUnsigned := verifyPresentation_of_unsigned
  credential config clock := verifyCredential_decided config clock resolver t
  credentialPasses config clock := by rw [verifyCredential_passes_iff, signedBy_iff]
  credentialUnsigned := verifyCredential_of_unsigned
  credentialAudience t' hSignature hOthers config clock := by
    refine verifyCredential_of_claims hSignature fun claim hClaim => hOthers claim ?_
    -- the audience is not among the five claims
    rintro rfl
    exact absurd hClaim (by decide)
  audienceOption _ _ _ _ _ := rfl

/-- The signed token passes as a presentation. Without its signature it fails, with one cause for all
expectations; with an audience it is the same credential. -/
theorem integrity_decided_signed :
    ∃ t, Token.ofJws Run.signedText = .ok t ∧
      verifyPresentation {} {} ⟨0, 0⟩ Run.baseContext.resolver t = .ok () ∧
      (∃ cause, ∀ config options clock,
        verifyPresentation config options clock Run.baseContext.resolver { t with signature := [] } =
          .error (.failed .vpIntegrity cause)) ∧
      ∀ config clock,
        verifyCredential config clock Run.baseContext.resolver t =
          verifyCredential config clock Run.baseContext.resolver
            { t with payload := t.payload.insert "aud" (.string "other") } := by
  obtain ⟨t, hToken, hSigned, -, hEmpty⟩ := Run.ofJws_signedText
  have hDecided := integrity_decided Run.baseContext.resolver t
  refine ⟨t, hToken, ?_, ?_, ?_⟩
  · refine (hDecided.presentationPasses {} {} ⟨0, 0⟩).mpr ⟨signedBy_iff.mp hSigned, ?_⟩
    rw [hEmpty]
    exact ⟨rfl, rfl, fun _ => rfl⟩
  · refine (integrity_decided Run.baseContext.resolver { t with signature := [] }).presentationUnsigned ?_
    -- no key signs anything with two missing numbers
    rintro ⟨key, -, -, hSignature⟩
    simp [PublicKey.isSignature, PublicKey.signatureNumbers?] at hSignature
  · refine hDecided.credentialAudience _ rfl fun claim hOther => ?_
    rw [Json.Object.get?_insert, if_neg hOther]

end PresentationVerifier
