import PresentationVerifier.Proofs.Faults

/-!
# What checks report

For each check the errors that it can end with. Most checks name their own step in every error. The ones
that read something on the way, a token or the name of a hash algorithm, also have errors without a step;
these are listed as they are.

Main results:

* `step_of_verifyPresentation`, `step_of_verifyCredential`: the integrity checks name their step.
* `error_of_extract`: extracting credentials names no step at all, although the step for it exists. The
  token was read before, so that only the submission and the type metadata can be at fault.
* `Disclosure.error_of_validate`, `HolderBinding.error_of_verify`: the two checks with several kinds of
  errors.
-/

namespace PresentationVerifier

/-! ## Parts of checks -/

/-- Where a check of claims is made at a step, its errors are rejections at that step. -/
theorem error_of_rejectAt {α : Type} {step : Step} {x : Except Reason α} {e : Error}
    (h : rejectAt step x = .error e) : ∃ reason, e = .rejected step reason := by
  cases x with
  | ok a => cases h
  | error reason =>
    cases h
    exact ⟨reason, rfl⟩

/-- A signature that does not verify fails at its step; the text is that of the key or of the signature. -/
theorem error_of_verifySignature {step : Step} {purpose : String} {key : Except KeyError PublicKey}
    {t : Token} {e : Error} (h : verifySignature step purpose key t = .error e) :
    ∃ cause, e = .failed step cause := by
  unfold verifySignature at h
  cases key with
  -- without a key there is nothing to verify with, which is a failure of the same step
  | error _ =>
    cases h
    exact ⟨_, rfl⟩
  | ok k =>
    cases hToken : k.verifyToken t with
    | ok _ => simp [hToken] at h
    | error cause =>
      simp only [hToken] at h
      cases h
      exact ⟨cause.message, rfl⟩

/-- A token that cannot be taken apart is malformed, unless it could not be decrypted. -/
theorem TokenError.error_at (t : TokenError) (step : Step) :
    (∃ cause, t.at step = .failed step cause) ∨ t.at step = .malformedToken t := by
  cases t with
  | decryption cause => exact Or.inl ⟨cause, rfl⟩
  | _ => exact Or.inr rfl

/-! ## Integrity -/

/-- Every error of the integrity of a presentation names that step. -/
theorem step_of_verifyPresentation {config : Config} {options : Options} {clock : Clock}
    {resolver : KeyResolver} {t : Token} {e : Error}
    (h : verifyPresentation config options clock resolver t = .error e) :
    e.step? = some .vpIntegrity := by
  rw [verifyPresentation, bind_eq_error] at h
  rcases h with hSignature | ⟨_, -, hClaims⟩
  -- either the signature fails or, behind it, one of the claims is rejected
  · obtain ⟨cause, rfl⟩ := error_of_verifySignature hSignature
    rfl
  · obtain ⟨reason, rfl⟩ := error_of_rejectAt hClaims
    rfl

/-- Every error of the integrity of a credential names that step. -/
theorem step_of_verifyCredential {config : Config} {clock : Clock} {resolver : KeyResolver}
    {t : Token} {e : Error} (h : verifyCredential config clock resolver t = .error e) :
    e.step? = some .vcIntegrity := by
  rw [verifyCredential, bind_eq_error] at h
  rcases h with hSignature | ⟨_, -, hClaims⟩
  · obtain ⟨cause, rfl⟩ := error_of_verifySignature hSignature
    rfl
  · obtain ⟨reason, rfl⟩ := error_of_rejectAt hClaims
    rfl

/-! ## Extraction -/

/-- Type metadata in a header are malformed, or they are of a kind that is not supported. -/
theorem Credential.error_of_typeMetadata? {header : Json.Object} {e : Error}
    (h : typeMetadata? header = .error e) :
    (∃ t, e = .malformedToken t) ∨ ∃ feature, e = .unsupported feature := by
  unfold typeMetadata? at h
  -- one case for each form that the header can have, and within a single text one for each that it fails
  split at h
  · cases h
  · split at h
    · cases h
      exact Or.inl ⟨_, rfl⟩
    · split at h
      · cases h
        exact Or.inl ⟨_, rfl⟩
      · cases h
      · cases h
        exact Or.inl ⟨_, rfl⟩
  · cases h
    exact Or.inl ⟨_, rfl⟩
  · cases h
    exact Or.inr ⟨_, rfl⟩
  · cases h

namespace Presentation

/-- A submission is refused only for what it asks for, never as malformed: it was read before. -/
theorem error_of_supportedDescriptor {s : Submission} {e : Error}
    (h : supportedDescriptor s = .error e) : ∃ feature, e = .unsupported feature := by
  unfold supportedDescriptor at h
  split at h
  -- there is one descriptor; what is nested in it, its path and its format are looked at in turn
  · split at h
    · cases h
      exact ⟨_, rfl⟩
    · split at h
      · cases h
        exact ⟨_, rfl⟩
      · split at h
        · cases h
          exact ⟨_, rfl⟩
        · cases h
  · cases h
    -- there are none or several descriptors
    exact ⟨_, rfl⟩

/-- Extraction from a token that is read again in the same way names no step in its errors. -/
theorem error_of_extract {s : Submission} {t : Token} (hRaw : Token.ofJws t.raw = .ok t.reread)
    {e : Error} (h : extract s t = .error e) :
    (∃ t, e = .malformedToken t) ∨ ∃ feature, e = .unsupported feature := by
  unfold extract at h
  -- reading the token again succeeds, which leaves what is before it and what is after it
  simp only [hRaw, bind_eq_error] at h
  rcases h with hDescriptor | ⟨d, -, hCredential | ⟨c, -, hPure⟩⟩
  · exact Or.inr (error_of_supportedDescriptor hDescriptor)
  · rw [Credential.ofToken, bind_eq_error] at hCredential
    -- of the parts of a credential only the type metadata can fail
    rcases hCredential with hMetadata | ⟨_, -, hPure⟩
    · exact Credential.error_of_typeMetadata? hMetadata
    · cases hPure
  · cases hPure

end Presentation

/-! ## Disclosures -/

namespace Disclosure

/-- A single disclosure is rejected, because it is not committed to, or malformed. -/
theorem error_of_check {algorithm : HashAlgorithm} {commitments : List String} {encoded : String}
    {e : Error} (h : check algorithm commitments encoded = .error e) :
    (∃ reason, e = .rejected .selectiveDisclosure reason) ∨
      ∃ detail, e = .malformedDisclosure detail := by
  rw [check, bind_eq_error] at h
  rcases h with hDecode | ⟨d, -, hCommitted⟩
  · obtain ⟨detail, -, rfl⟩ := malformed_of_decode hDecode
    exact Or.inr ⟨detail, rfl⟩
  · split at hCommitted
    · cases hCommitted
    · cases hCommitted
      exact Or.inl ⟨_, rfl⟩

/-- Of several disclosures one can also be rejected because it came before, which is no other kind of
error. -/
theorem error_of_checkAll {algorithm : HashAlgorithm} {commitments seen encoded : List String}
    {e : Error} (h : checkAll algorithm commitments seen encoded = .error e) :
    (∃ reason, e = .rejected .selectiveDisclosure reason) ∨
      ∃ detail, e = .malformedDisclosure detail := by
  -- on the disclosures: the first is checked, compared with those before it, and passed on
  induction encoded generalizing seen with
  | nil => cases h
  | cons text rest ih =>
    rw [checkAll, bind_eq_error] at h
    rcases h with hCheck | ⟨d, -, hSeen⟩
    · exact error_of_check hCheck
    · split at hSeen
      · cases hSeen
        exact Or.inl ⟨_, rfl⟩
      -- it is new, so the error is one of the rest
      · rw [bind_eq_error] at hSeen
        rcases hSeen with hRest | ⟨ds, -, hOk⟩
        · exact ih hRest
        · cases hOk

/-- The errors of disclosures: what a single one can be at fault for, and what keeps them from being looked
at. -/
theorem error_of_validate {limit : Nat} {t : Token} {e : Error} (h : validate limit t = .error e) :
    (∃ reason, e = .rejected .selectiveDisclosure reason) ∨ (∃ detail, e = .malformedDisclosure detail) ∨
      e = .missingSdAlg ∨ (∃ name, e = .unsupportedSdAlg name) ∨
        ∃ levels, e = .claimNestingTooDeep levels := by
  unfold validate at h
  split at h
  -- without disclosures there is nothing that could fail
  · cases h
  · rw [bind_eq_error] at h
    rcases h with hNamed | ⟨named, -, hFound⟩
    · exact Or.inr (Or.inr (Or.inr (Or.inl ⟨_, HolderBinding.unsupported_of_sdAlgorithm hNamed⟩)))
    · cases named with
      -- disclosures need an algorithm, and none is named
      | none =>
        cases hFound
        exact Or.inr (Or.inr (Or.inl rfl))
      | some algorithm =>
        rw [bind_eq_error] at hFound
        rcases hFound with hCollect | ⟨found, -, hAll⟩
        -- the digests are collected first, and only the depth of the walk can stop that
        · unfold Commitments.collect at hCollect
          split at hCollect
          · cases hCollect
          · cases hCollect
            exact Or.inr (Or.inr (Or.inr (Or.inr ⟨_, rfl⟩)))
        · rcases error_of_checkAll hAll with hRejected | hMalformed
          · exact Or.inl hRejected
          · exact Or.inr (Or.inl hMalformed)

end Disclosure

/-! ## Holder binding -/

namespace HolderBinding

/-- The digest is rejected at the step of holder binding, or the algorithm for it has no known name. -/
theorem error_of_checkSdHash {credential : Token} {claims : Json.Object} {e : Error}
    (h : checkSdHash credential claims = .error e) :
    e.step? = some .holderBinding ∨ ∃ name, e = .unsupportedSdAlg name := by
  unfold checkSdHash at h
  split at h
  · cases h
  · rw [bind_eq_error] at h
    rcases h with hNamed | ⟨named, -, hHash⟩
    · exact Or.inr ⟨_, unsupported_of_sdAlgorithm hNamed⟩
    · dsimp only at hHash
      -- with an algorithm the digests are the same or they are not
      split at hHash
      · cases hHash
      · cases hHash
        exact Or.inl rfl
  · cases h
    exact Or.inl rfl

/-- The signature of a Key Binding JWT fails at the step of holder binding. -/
theorem step_of_checkSignature {options : Options} {resolver : KeyResolver}
    {credential binding : Token} {e : Error}
    (h : checkSignature options resolver credential binding = .error e) :
    e.step? = some .holderBinding := by
  unfold checkSignature at h
  split at h
  -- where signatures are left out nothing is checked
  · cases h
  · obtain ⟨cause, rfl⟩ := error_of_verifySignature h
    rfl

/-- Of the six checks of a Key Binding JWT only the last has an error without a step. -/
theorem error_of_checkBinding {x : Expectations} {options : Options} {resolver : KeyResolver}
    {credential binding : Token} {e : Error}
    (h : checkBinding x options resolver credential binding = .error e) :
    e.step? = some .holderBinding ∨ ∃ name, e = .unsupportedSdAlg name := by
  -- five of the checks are made at the step, so their errors name it
  have hRejected : ∀ {y : Except Reason Unit}, rejectAt .holderBinding y = .error e →
      e.step? = some .holderBinding := by
    intro y hy
    obtain ⟨reason, rfl⟩ := error_of_rejectAt hy
    rfl
  -- the six checks in their order
  simp only [checkBinding, bind_eq_error] at h
  rcases h with hType | ⟨_, -, hSignature | ⟨_, -, hIssued | ⟨_, -, hAudience | ⟨_, -, hNonce |
    ⟨_, -, hSdHash⟩⟩⟩⟩⟩
  · exact Or.inl (hRejected hType)
  · exact Or.inl (step_of_checkSignature hSignature)
  · exact Or.inl (hRejected hIssued)
  · exact Or.inl (hRejected hAudience)
  · exact Or.inl (hRejected hNonce)
  · exact error_of_checkSdHash hSdHash

/-- The errors of holder binding: those of its step, a Key Binding JWT that is no token, and a hash
algorithm. -/
theorem error_of_verify {x : Expectations} {options : Options} {resolver : KeyResolver}
    {credential : Token} {e : Error} (h : verify x options resolver credential = .error e) :
    e.step? = some .holderBinding ∨ (∃ t, e = .malformedToken t) ∨
      ∃ name, e = .unsupportedSdAlg name := by
  unfold verify at h
  split at h
  -- without a Key Binding JWT it depends on whether one is required
  · split at h
    · cases h
      exact Or.inl rfl
    · cases h
  · split at h
    · next t hRead =>
      cases h
      -- reading a text decrypts nothing, but no more than the step is needed here
      rcases t.error_at .holderBinding with ⟨cause, hFailed⟩ | hMalformed
      · rw [hFailed]
        exact Or.inl rfl
      · rw [hMalformed]
        exact Or.inr (Or.inl ⟨t, rfl⟩)
    -- it was read, so the error is one of the checks
    · rcases error_of_checkBinding h with hStep | hName
      · exact Or.inl hStep
      · exact Or.inr (Or.inr hName)

end HolderBinding

end PresentationVerifier
