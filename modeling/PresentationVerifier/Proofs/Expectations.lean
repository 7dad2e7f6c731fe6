import PresentationVerifier.Proofs.Integrity
import PresentationVerifier.Proofs.Soundness

/-!
# Checks without an expectation

The issuer, the audience and the type of a payload are compared only where one is expected. Without an
expectation the audience is not looked at, whatever it is. The issuer and the type are still read, and the
reading fails on a claim that is neither a string nor `null`: such a claim is malformed even for a verifier
that expects nothing of it (`checkIssuer_of_number`).

So two payloads that differ in these three claims only are told apart without expectations, but by nothing
else than whether their issuers, or types, can be read.

Main results:

* `Claims.checkIssuer_unexpected`, `Claims.checkVct_unexpected`, `Claims.checkAudience_unexpected`: each
  check without an expectation.
* `verify_unexpected`: the integrity of tokens without expectations.
-/

namespace PresentationVerifier

namespace Claims

/-! ## Single checks -/

/-- Where no issuer is expected, all that is checked is that it can be read. -/
theorem checkIssuer_unexpected (payload : Json.Object) :
    (MayText payload "iss" → checkIssuer payload none = .ok ()) ∧
      (¬MayText payload "iss" → checkIssuer payload none = .error (.malformedClaim "iss")) :=
  (checkIssuer_decided payload none).single

theorem checkVct_unexpected (payload : Json.Object) :
    (MayText payload "vct" → checkVct payload none = .ok ()) ∧
      (¬MayText payload "vct" → checkVct payload none = .error (.malformedClaim "vct")) :=
  (checkVct_decided payload none).single

/-- Where no audience is expected, all of them pass. -/
theorem checkAudience_unexpected (payload : Json.Object) : checkAudience payload none = .ok () := by
  unfold checkAudience
  cases payload.get? "aud" with
  | none => rfl
  | some aud => rfl

/-- An issuer that is a number is malformed although none is expected; an audience is not. -/
theorem checkIssuer_of_number :
    checkIssuer [("iss", .ofInt 7)] none = .error (.malformedClaim "iss") ∧
      checkAudience [("aud", .ofInt 7)] none = .ok () :=
  ⟨by rfl, by rfl⟩

/-! ## Payloads that differ in what can be expected -/

/-- Payloads that agree in all claims but those that can be expected. -/
def AgreeElsewhere (payload payload' : Json.Object) : Prop :=
  ∀ claim, claim ≠ "iss" → claim ≠ "aud" → claim ≠ "vct" → payload.get? claim = payload'.get? claim

section Payloads

variable {payload payload' : Json.Object}

/-- The points in time are none of the claims that can be expected. -/
theorem AgreeElsewhere.checkTemporal (h : AgreeElsewhere payload payload') (clock : Clock) :
    checkTemporal payload clock = checkTemporal payload' clock := by
  have hOther : ∀ claim ∈ ["exp", "nbf", "iat"], claim ≠ "iss" ∧ claim ≠ "aud" ∧ claim ≠ "vct" := by
    decide
  -- it reads three claims, all of them in what the payloads agree in
  refine checkTemporal_of_claims fun claim hClaim => ?_
  obtain ⟨hIssuer, hAudience, hType⟩ := hOther claim hClaim
  exact h claim hIssuer hAudience hType

/-- Issuers that can both be read, or both not, are checked alike. -/
theorem checkIssuer_eq_of_form (h : MayText payload "iss" ↔ MayText payload' "iss") :
    checkIssuer payload none = checkIssuer payload' none :=
  (checkIssuer_decided payload none).single_eq (checkIssuer_decided payload' none) h rfl

theorem checkVct_eq_of_form (h : MayText payload "vct" ↔ MayText payload' "vct") :
    checkVct payload none = checkVct payload' none :=
  (checkVct_decided payload none).single_eq (checkVct_decided payload' none) h rfl

end Payloads

end Claims

/-! ## Tokens -/

section Tokens

variable {config : Config} {options : Options} {clock : Clock} {resolver : KeyResolver} {t t' : Token}

/-- Of a presentation of which nothing is expected the signature, the points in time and the form of the
issuer are checked. -/
theorem verifyPresentation_unexpected (hIssuer : config.expectedVpIssuer = none)
    (hAudience : config.clientId = none) :
    verifyPresentation config options clock resolver t =
      (verifySignature .vpIntegrity "holder" (resolver.holderKey t) t >>= fun _ =>
        rejectAt .vpIntegrity (Claims.checkTemporal t.payload clock >>= fun _ =>
          Claims.checkIssuer t.payload none)) := by
  -- the check of the audience passes, whether it is made or left out
  have hPasses : (if options.skipAudienceCheck then .ok ()
      else Claims.checkAudience t.payload none : Except Reason Unit) = .ok () := by
    rw [Claims.checkAudience_unexpected, ite_self]
  have hLast : (Claims.checkIssuer t.payload none >>= fun _ => .ok ()) =
      Claims.checkIssuer t.payload none := by
    cases Claims.checkIssuer t.payload none with
    | error reason => rfl
    | ok _ => rfl
  unfold verifyPresentation
  rw [hIssuer, hAudience, hPasses, hLast]

/-- Two presentations are found to be the same, if their issuers can both be read or both not. -/
theorem verifyPresentation_eq_of_form (hIssuer : config.expectedVpIssuer = none)
    (hAudience : config.clientId = none) (hAgree : Claims.AgreeElsewhere t.payload t'.payload)
    (hSignature : verifySignature .vpIntegrity "holder" (resolver.holderKey t) t =
      verifySignature .vpIntegrity "holder" (resolver.holderKey t') t')
    (hForm : Claims.MayText t.payload "iss" ↔ Claims.MayText t'.payload "iss") :
    verifyPresentation config options clock resolver t =
      verifyPresentation config options clock resolver t' := by
  rw [verifyPresentation_unexpected hIssuer hAudience, verifyPresentation_unexpected hIssuer hAudience,
    hSignature, hAgree.checkTemporal, Claims.checkIssuer_eq_of_form hForm]

/-- Where one presentation passes, the other can only fail by the form of its issuer, and then it does. -/
theorem verifyPresentation_of_malformed (hIssuer : config.expectedVpIssuer = none)
    (hAudience : config.clientId = none) (hAgree : Claims.AgreeElsewhere t.payload t'.payload)
    (hSignature : verifySignature .vpIntegrity "holder" (resolver.holderKey t) t =
      verifySignature .vpIntegrity "holder" (resolver.holderKey t') t')
    (hPasses : verifyPresentation config options clock resolver t = .ok ())
    (hForm : ¬Claims.MayText t'.payload "iss") :
    verifyPresentation config options clock resolver t' =
      .error (.rejected .vpIntegrity (.malformedClaim "iss")) := by
  rw [verifyPresentation_unexpected hIssuer hAudience] at hPasses ⊢
  rw [seq_eq_ok, rejectAt_eq_ok_iff, seq_eq_ok] at hPasses
  -- both are signed and timely, so that the issuer is reached and decides
  obtain ⟨hSigned, hTimely, -⟩ := hPasses
  rw [← hSignature, hSigned, ← hAgree.checkTemporal, hTimely, (Claims.checkIssuer_unexpected _).2 hForm]
  rfl

/-- Two credentials are found to be the same, if so are the forms of their issuers and of their types. -/
theorem verifyCredential_eq_of_form (hIssuer : config.expectedVcIssuer = none)
    (hType : config.expectedVct = none) (hAgree : Claims.AgreeElsewhere t.payload t'.payload)
    (hSignature : verifySignature .vcIntegrity "issuer" (resolver.issuerKey t) t =
      verifySignature .vcIntegrity "issuer" (resolver.issuerKey t') t')
    (hForm : Claims.MayText t.payload "iss" ↔ Claims.MayText t'.payload "iss")
    (hTyped : Claims.MayText t.payload "vct" ↔ Claims.MayText t'.payload "vct") :
    verifyCredential config clock resolver t = verifyCredential config clock resolver t' := by
  unfold verifyCredential
  rw [hIssuer, hType, hSignature, hAgree.checkTemporal, Claims.checkIssuer_eq_of_form hForm,
    Claims.checkVct_eq_of_form hTyped]

/-- Where one credential passes, the other can only fail by the form of its issuer, or else of its type, and
then it does. -/
theorem verifyCredential_of_malformed (hIssuer : config.expectedVcIssuer = none)
    (hType : config.expectedVct = none) (hAgree : Claims.AgreeElsewhere t.payload t'.payload)
    (hSignature : verifySignature .vcIntegrity "issuer" (resolver.issuerKey t) t =
      verifySignature .vcIntegrity "issuer" (resolver.issuerKey t') t')
    (hPasses : verifyCredential config clock resolver t = .ok ()) :
    (¬Claims.MayText t'.payload "iss" → verifyCredential config clock resolver t' =
      .error (.rejected .vcIntegrity (.malformedClaim "iss"))) ∧
    (Claims.MayText t'.payload "iss" → ¬Claims.MayText t'.payload "vct" →
      verifyCredential config clock resolver t' =
        .error (.rejected .vcIntegrity (.malformedClaim "vct"))) := by
  unfold verifyCredential at hPasses ⊢
  rw [hIssuer, hType] at hPasses ⊢
  rw [seq_eq_ok, rejectAt_eq_ok_iff, seq_eq_ok] at hPasses
  obtain ⟨hSigned, hTimely, -⟩ := hPasses
  rw [← hSignature, hSigned, ← hAgree.checkTemporal, hTimely]
  -- the issuer is looked at before the type
  refine ⟨fun hForm => ?_, fun hForm hUntyped => ?_⟩
  · rw [(Claims.checkIssuer_unexpected _).2 hForm]
    rfl
  · rw [(Claims.checkIssuer_unexpected _).1 hForm, (Claims.checkVct_unexpected _).2 hUntyped]
    rfl

end Tokens

/-! ## Results -/

/-- The checks of the three claims that can be expected, of a payload of which nothing is. -/
structure CheckedUnexpected (payload : Json.Object) : Prop where
  audience : Claims.checkAudience payload none = .ok ()
  issuer : Claims.MayText payload "iss" → Claims.checkIssuer payload none = .ok ()
  issuerMalformed : ¬Claims.MayText payload "iss" →
    Claims.checkIssuer payload none = .error (.malformedClaim "iss")
  type : Claims.MayText payload "vct" → Claims.checkVct payload none = .ok ()
  typeMalformed : ¬Claims.MayText payload "vct" →
    Claims.checkVct payload none = .error (.malformedClaim "vct")

/-- What two presentations of which nothing is expected are found to be. -/
structure PresentationsUnexpected (config : Config) (options : Options) (clock : Clock)
    (resolver : KeyResolver) (t t' : Token) : Prop where
  /-- Whether their issuers can be read is the only thing that can tell them apart. -/
  same : (Claims.MayText t.payload "iss" ↔ Claims.MayText t'.payload "iss") →
    verifyPresentation config options clock resolver t =
      verifyPresentation config options clock resolver t'
  /-- And it does, where one of them passes. -/
  malformed : verifyPresentation config options clock resolver t = .ok () →
    ¬Claims.MayText t'.payload "iss" →
    verifyPresentation config options clock resolver t' =
      .error (.rejected .vpIntegrity (.malformedClaim "iss"))

/-- What two credentials of which nothing is expected are found to be. -/
structure CredentialsUnexpected (config : Config) (clock : Clock) (resolver : KeyResolver)
    (t t' : Token) : Prop where
  /-- Whether their issuers and types can be read is the only thing that can tell them apart. -/
  same : (Claims.MayText t.payload "iss" ↔ Claims.MayText t'.payload "iss") →
    (Claims.MayText t.payload "vct" ↔ Claims.MayText t'.payload "vct") →
    verifyCredential config clock resolver t = verifyCredential config clock resolver t'
  /-- And it does, where one of them passes: by the issuer, -/
  issuerMalformed : verifyCredential config clock resolver t = .ok () →
    ¬Claims.MayText t'.payload "iss" → verifyCredential config clock resolver t' =
      .error (.rejected .vcIntegrity (.malformedClaim "iss"))
  /-- and by the type, which is looked at after the issuer. -/
  typeMalformed : verifyCredential config clock resolver t = .ok () →
    Claims.MayText t'.payload "iss" → ¬Claims.MayText t'.payload "vct" →
    verifyCredential config clock resolver t' =
      .error (.rejected .vcIntegrity (.malformedClaim "vct"))

/-- What the integrity of two tokens comes down to where nothing is expected of their claims. -/
structure VerifiedUnexpected (resolver : KeyResolver) (t t' : Token) : Prop where
  checks : ∀ payload, CheckedUnexpected payload
  presentations : verifySignature .vpIntegrity "holder" (resolver.holderKey t) t =
      verifySignature .vpIntegrity "holder" (resolver.holderKey t') t' →
    ∀ config options clock, config.expectedVpIssuer = none → config.clientId = none →
      PresentationsUnexpected config options clock resolver t t'
  credentials : verifySignature .vcIntegrity "issuer" (resolver.issuerKey t) t =
      verifySignature .vcIntegrity "issuer" (resolver.issuerKey t') t' →
    ∀ config clock, config.expectedVcIssuer = none → config.expectedVct = none →
      CredentialsUnexpected config clock resolver t t'

/-- **Without an expectation** the audience is not looked at, and of the issuer and the type it is checked
that they are strings where they are there. So tokens that differ in these claims only, and have the same
result of their signatures, are found to be the same, but for those of which one has a claim of another
form: that one is rejected where the other passes. -/
theorem verify_unexpected {t t' : Token} (hAgree : Claims.AgreeElsewhere t.payload t'.payload)
    (resolver : KeyResolver) : VerifiedUnexpected resolver t t' where
  checks payload :=
    { audience := Claims.checkAudience_unexpected payload
      issuer := (Claims.checkIssuer_unexpected payload).1
      issuerMalformed := (Claims.checkIssuer_unexpected payload).2
      type := (Claims.checkVct_unexpected payload).1
      typeMalformed := (Claims.checkVct_unexpected payload).2 }
  presentations hSignature _ _ _ hIssuer hAudience :=
    { same := verifyPresentation_eq_of_form hIssuer hAudience hAgree hSignature
      malformed := verifyPresentation_of_malformed hIssuer hAudience hAgree hSignature }
  credentials hSignature _ _ hIssuer hType :=
    { same := verifyCredential_eq_of_form hIssuer hType hAgree hSignature
      issuerMalformed := fun hPasses =>
        (verifyCredential_of_malformed hIssuer hType hAgree hSignature hPasses).1
      typeMalformed := fun hPasses =>
        (verifyCredential_of_malformed hIssuer hType hAgree hSignature hPasses).2 }

/-- The signed token passes as a presentation, and so it does with an audience that is a number. With an
issuer that is a number it is rejected, though no issuer is expected. -/
theorem verify_unexpected_signed :
    ∃ t, Token.ofJws Run.signedText = .ok t ∧
      verifyPresentation {} {} ⟨0, 0⟩ Run.baseContext.resolver t = .ok () ∧
      verifyPresentation {} {} ⟨0, 0⟩ Run.baseContext.resolver
        { t with payload := [("aud", .ofInt 7)] } = .ok () ∧
      verifyPresentation {} {} ⟨0, 0⟩ Run.baseContext.resolver { t with payload := [("iss", .ofInt 7)] } =
        .error (.rejected .vpIntegrity (.malformedClaim "iss")) := by
  obtain ⟨t, hToken, hSigned, -, hEmpty⟩ := Run.ofJws_signedText
  have hPasses : verifyPresentation {} {} ⟨0, 0⟩ Run.baseContext.resolver t = .ok () := by
    refine verifyPresentation_passes_iff.mpr ⟨hSigned, ?_⟩
    rw [hEmpty]
    exact ⟨rfl, rfl, fun _ => rfl⟩
  -- the payload of the token is empty, so that one of these claims is all that the other one has
  have hAgree : ∀ claim ∈ ["iss", "aud", "vct"],
      Claims.AgreeElsewhere t.payload [(claim, .ofInt 7)] := by
    intro claim hClaim other hIssuer hAudience hType
    have hOther : other ≠ claim := by
      rintro rfl
      simp [hIssuer, hAudience, hType] at hClaim
    rw [hEmpty, Json.Object.get?_cons, if_neg hOther]
  let other (claim : String) : Token := { t with payload := [(claim, .ofInt 7)] }
  have hAudience : Claims.AgreeElsewhere t.payload (other "aud").payload := hAgree "aud" (by simp)
  have hIssuer : Claims.AgreeElsewhere t.payload (other "iss").payload := hAgree "iss" (by simp)
  refine ⟨t, hToken, hPasses, ?_, ?_⟩
  · have hBoth := (verify_unexpected hAudience Run.baseContext.resolver).presentations rfl {} {} ⟨0, 0⟩
      rfl rfl
    have hForm : Claims.MayText t.payload "iss" ↔ Claims.MayText [("aud", .ofInt 7)] "iss" := by
      rw [hEmpty]
      exact ⟨fun _ => Or.inl rfl, fun _ => Or.inl rfl⟩
    rw [← hBoth.same hForm]
    exact hPasses
  · have hBoth := (verify_unexpected hIssuer Run.baseContext.resolver).presentations rfl {} {} ⟨0, 0⟩
      rfl rfl
    refine hBoth.malformed hPasses ?_
    -- a number is neither absent nor `null` nor a string
    rintro (hNone | hNull | ⟨found, hText⟩)
    · cases hNone
    · cases hNull
    · cases hText

end PresentationVerifier
