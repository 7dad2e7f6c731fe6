import PresentationVerifier.Proofs.Extraction
import PresentationVerifier.Proofs.Grammar

/-!
# What the collaborators of a run decide

A run asks others for the keys of holders, issuers and bound credentials, and to open envelopes. Which of
them it asks depends on the response and on how that is processed: the keys are for signatures, so nobody
is asked for them where signatures are left out, and envelopes can be opened only where there are some.
Two sets of collaborators that give the same answers where they are asked are `Alike`, and the run cannot
tell them apart.

Main results:

* `outcome_of_alike`: a run comes out the same with collaborators that are alike.
* `outcome_of_stopped`: a run that the checks of the response stop has asked nobody.
* `outcome_collaborators`: what follows for the settings of a run.
-/

namespace PresentationVerifier

/-- Those that a run asks. -/
structure Collaborators where
  resolver : KeyResolver
  decrypter : Option Decrypter

/-- The context with these collaborators in place of its own. -/
def Context.assistedBy (context : Context) (c : Collaborators) : Context :=
  { context with resolver := c.resolver, decrypter := c.decrypter }

/-! ## Envelopes -/

namespace Token

/-- The first part of a text has as many segments as an encrypted JWT. -/
def Sealed (text : String) : Prop :=
  ∃ structural segments tail, Divided text structural segments tail ∧ segments.length = encryptedSegments

/-- Counting the segments of the first part tells whether a text is sealed. -/
theorem length_segments_iff_sealed {text : String} :
    (Text.splitAt '.' (parts (Text.trimBlanks text.toList)).1).length = encryptedSegments ↔
      Sealed text := by
  constructor
  · intro h
    -- every text is divided in one way, and the segments are those of this division
    obtain ⟨structural, segments, tail, hDivided⟩ := exists_divided text
    rw [parts_eq hDivided.parts, Text.splitAt_eq_iff.mpr hDivided.segments] at h
    exact ⟨structural, segments, tail, hDivided, h⟩
  · rintro ⟨structural, segments, tail, hDivided, h⟩
    rw [parts_eq hDivided.parts, Text.splitAt_eq_iff.mpr hDivided.segments]
    exact h

/-- Whether a text is sealed is told by counting its segments. -/
instance : DecidablePred Sealed :=
  fun _ => decidable_of_iff _ length_segments_iff_sealed

/-- What is read as an envelope is sealed. -/
theorem sealed_of_read {text jwe : String} (h : read text = .ok (.encrypted jwe)) : Sealed text := by
  rw [← length_segments_iff_sealed]
  -- of all shapes only the one with five segments is read as encrypted
  unfold read shape at h
  split at h
  · cases h
  · dsimp only at h
    split at h
    · cases h
    · obtain ⟨t, -, hSigned⟩ := map_eq_ok.mp h
      cases hSigned
    -- this is the shape with five segments; in the other ones nothing is read as an envelope
    · next hSegments =>
      rw [hSegments]
      rfl
    · cases h

/-- What is in no envelope, needs no decrypter. -/
theorem unwrap_of_not_sealed {text : String} (h : ¬Sealed text) (d d' : Option Decrypter)
    (limit : Nat) : unwrap d limit text = unwrap d' limit text := by
  unfold unwrap unwrapWithin
  cases hRead : read text with
  | error e => rfl
  | ok found =>
    cases found with
    | signed t => rfl
    -- the decrypter would be asked only here
    | encrypted jwe => exact absurd (sealed_of_read hRead) h

end Token

/-! ## Checks of signatures -/

section Checks

variable {r r' : KeyResolver}

/-- The integrity of a presentation asks for the keys of holders only. -/
theorem verifyPresentation_congr (h : r.holderKey = r'.holderKey) (config : Config)
    (options : Options) (clock : Clock) (t : Token) :
    verifyPresentation config options clock r t = verifyPresentation config options clock r' t := by
  unfold verifyPresentation
  rw [h]

/-- The integrity of a credential asks for the keys of issuers only. -/
theorem verifyCredential_congr (h : r.issuerKey = r'.issuerKey) (config : Config) (clock : Clock)
    (t : Token) : verifyCredential config clock r t = verifyCredential config clock r' t := by
  unfold verifyCredential
  rw [h]

/-- Holder binding asks for the keys of bound credentials, unless signatures are left out. -/
theorem HolderBinding.verify_congr {options : Options}
    (h : options.skipVcSignatureChecks = true ∨ r.boundKey = r'.boundKey)
    (expectations : Expectations) (credential : Token) :
    verify expectations options r credential = verify expectations options r' credential := by
  have hSignature : ∀ binding, checkSignature options r credential binding =
      checkSignature options r' credential binding := by
    intro binding
    unfold checkSignature
    rcases h with hSkip | hKey
    · rw [if_pos hSkip, if_pos hSkip]
    · rw [hKey]
  -- the signature is the only one of the checks that has a key
  unfold verify checkBinding
  simp only [hSignature]

end Checks

namespace Run

/-! ## Collaborators that are alike -/

/-- A text is among the tokens that a response presents. -/
def Presents (response : Response) (text : String) : Prop :=
  ∃ tokens, response.vpToken = some tokens ∧ .text text ∈ tokens

/-- Two sets of collaborators give the same answers wherever a run asks them. -/
structure Alike (response : Response) (processing : ProcessConfig) (c c' : Collaborators) : Prop where
  holderKey : processing.options.skipVpSignatureChecks = true ∨
    c.resolver.holderKey = c'.resolver.holderKey
  issuerKey : processing.type = .extractOnly ∨ processing.options.skipVcSignatureChecks = true ∨
    c.resolver.issuerKey = c'.resolver.issuerKey
  boundKey : processing.type = .extractOnly ∨ processing.options.skipVcSignatureChecks = true ∨
    c.resolver.boundKey = c'.resolver.boundKey
  decrypter : (∀ text, Presents response text → ¬Token.Sealed text) ∨ c.decrypter = c'.decrypter

/-- Tokens are taken apart alike if each presented text is unwrapped alike. -/
theorem present_congr {context context' : Context} {tokens : List VpToken}
    (h : ∀ text, .text text ∈ tokens →
      Token.unwrap context.decrypter context.config.maxJweNesting text =
        Token.unwrap context'.decrypter context'.config.maxJweNesting text) :
    present context tokens = present context' tokens := by
  induction tokens with
  | nil => rfl
  | cons t rest ih =>
    cases t with
    | document o => rfl
    | text raw =>
      -- the first text is presented, and so are the others
      have hFirst := h raw List.mem_cons_self
      have hRest := ih fun text hText => h text (List.mem_cons_of_mem _ hText)
      simp only [present, hFirst, hRest]

/-! ## The stages with collaborators that are alike -/

section Stages

variable {response : Response} {context : Context} {processing : ProcessConfig} {clock : Clock}
  {c c' : Collaborators}

/-- Collaborators that are alike take the tokens apart in the same way. -/
theorem extractTokens_of_alike (h : Alike response processing c c') :
    extractTokens response (context.assistedBy c) = extractTokens response (context.assistedBy c') := by
  funext p
  unfold extractTokens
  cases hv : response.vpToken with
  | none => rfl
  | some tokens =>
    have hPresent : present (context.assistedBy c) tokens = present (context.assistedBy c') tokens := by
      refine present_congr fun text hText => ?_
      -- no text is sealed, or the envelopes are opened by the same decrypter
      rcases h.decrypter with hOpen | hSame
      · exact Token.unwrap_of_not_sealed (hOpen text ⟨tokens, hv, hText⟩) _ _ _
      · show Token.unwrap c.decrypter _ _ = Token.unwrap c'.decrypter _ _
        rw [hSame]
        rfl
    cases tokens with
    | nil => rfl
    | cons t rest =>
      dsimp only
      rw [hPresent]

/-- They find the same of the presentations. -/
theorem verifyPresentations_of_alike (h : Alike response processing c c') :
    verifyPresentations (context.assistedBy c) processing clock =
      verifyPresentations (context.assistedBy c') processing clock := by
  funext p
  unfold verifyPresentations
  -- signatures are left out, or the keys are the same
  rcases h.holderKey with hSkip | hKey
  · rw [if_pos hSkip, if_pos hSkip]
  · have hEach : ∀ vp : Presentation,
        verifyPresentation context.config processing.options clock c.resolver vp.token =
          verifyPresentation context.config processing.options clock c'.resolver vp.token :=
      fun vp => verifyPresentation_congr hKey _ _ _ _
    simp only [Context.assistedBy, hEach]

/-- A full run asks for the keys of credentials too. -/
theorem validationStages_of_alike (h : Alike response processing c c')
    (hFull : processing.type = .fullValidation) :
    validationStages (context.assistedBy c) processing clock =
      validationStages (context.assistedBy c') processing clock := by
  have hNotOnly : processing.type ≠ .extractOnly := by
    rw [hFull]
    decide
  have hCredentials : verifyCredentials (context.assistedBy c) processing clock =
      verifyCredentials (context.assistedBy c') processing clock := by
    funext p
    unfold verifyCredentials
    rcases h.issuerKey.resolve_left hNotOnly with hSkip | hKey
    · rw [if_pos hSkip, if_pos hSkip]
    · have hEach : ∀ vc : Credential, verifyCredential context.config clock c.resolver vc.token =
          verifyCredential context.config clock c'.resolver vc.token :=
        fun vc => verifyCredential_congr hKey _ _ _
      simp only [Context.assistedBy, hEach]
  -- holder binding is not left out with the signatures, but its key is not asked for then
  have hBindings : verifyBindings (context.assistedBy c) processing clock =
      verifyBindings (context.assistedBy c') processing clock := by
    funext p
    have hEach : ∀ vc : Credential,
        HolderBinding.verify ⟨context.config.clientId, context.nonce, clock⟩ processing.options
            c.resolver vc.token =
          HolderBinding.verify ⟨context.config.clientId, context.nonce, clock⟩ processing.options
            c'.resolver vc.token :=
      fun vc => HolderBinding.verify_congr (h.boundKey.resolve_left hNotOnly) _ _
    simp only [verifyBindings, Context.assistedBy, hEach]
  unfold validationStages
  rw [hCredentials, hBindings]
  rfl

/-- They make the same stages of a run, whatever its type of processing. -/
theorem stages_of_alike (h : Alike response processing c c') :
    stages response (context.assistedBy c) processing clock =
      stages response (context.assistedBy c') processing clock := by
  have hExtraction : extractionStages response (context.assistedBy c) processing clock =
      extractionStages response (context.assistedBy c') processing clock := by
    unfold extractionStages
    rw [extractTokens_of_alike h, verifyPresentations_of_alike h]
    rfl
  unfold stages
  rw [hExtraction]
  cases hType : processing.type with
  -- an extraction has no stages after this that ask anybody
  | extractOnly => rfl
  | fullValidation =>
    dsimp only
    rw [validationStages_of_alike h hType]

end Stages

/-! ## Runs with other collaborators -/

/-- How a run comes out: its result, and the progress it is left with. -/
def outcome (response : Response) (context : Context) (processing : ProcessConfig) (now : Int64) :
    Except Error Record × Progress :=
  let (result, run) := (Run.new response context processing).process now
  (result, run.progress)

section Outcome

variable {response : Response} {context : Context} {processing : ProcessConfig} {now : Int64}
  {c c' : Collaborators}

/-- **Run**: collaborators that are alike take a run to the same outcome. -/
theorem outcome_of_alike (h : Alike response processing c c') :
    outcome response (context.assistedBy c) processing now =
      outcome response (context.assistedBy c') processing now := by
  simp only [outcome, process, new, Bool.false_eq_true, if_false, stages_of_alike h]
  rfl

/-! ## Runs that end before the tokens -/

/-- A row leaves a run at the stage where it was, or at one that the row reaches. -/
theorem Row.stage_mem {passed : Stage} {row : List StageAction} (hRow : Row response passed row)
    {p : Progress} (hStage : p.stage = passed) (hStaged : Staged response p) :
    (advance row p).1.stage ∈ p.stage :: row.map StageAction.reached := by
  -- the last stage of the row if nothing stops it, else the last of those before the one that does
  obtain ⟨-, hLast, hStops⟩ := hRow.advance_staged hStage hStaged
  cases hEnd : (advance row p).2 with
  -- nothing stops the row
  | none =>
    rw [hLast hEnd]
    exact List.getLastD_mem_cons
  | some e =>
    obtain ⟨⟨before, s, rest, q, hSplit, -, -, hReached⟩, -⟩ := hStops e hEnd
    have hBefore : (before.map StageAction.reached).getLastD p.stage ∈
        p.stage :: before.map StageAction.reached := List.getLastD_mem_cons
    rw [hReached, hSplit, List.map_append, ← List.cons_append]
    exact List.mem_append_left _ hBefore

/-- From the tokens on the stages of a run follow each other. -/
theorem tokenStages_row {clock : Clock} :
    Row response .submissionPresent (tokenStages response context processing clock) :=
  .cons follows_extractTokens <| .cons follows_verifyPresentations <|
    .cons follows_extractCredentials laterStages_row

/-- A run that goes on after the checks of the response is at the stage of the submission or later. -/
theorem stage_of_submitted {clock : Clock} {s : Submission} (hs : response.submission = some s) :
    (advance (tokenStages response context processing clock) ⟨.submissionPresent, [], []⟩).1.stage ∉
      [.initial, .errorChecked, .stateChecked] := by
  -- no stage from here on goes back to one of the three
  have hStaged : Staged response ⟨.submissionPresent, [], []⟩ :=
    (Staged.start response).mono (by decide) fun _ => ⟨s, hs⟩
  have hRow : Row response .submissionPresent (tokenStages response context processing clock) :=
    tokenStages_row
  have hLater : ∀ stage ∈ Stage.submissionPresent ::
      (tokenStages response context processing clock).map StageAction.reached,
      stage ∉ [Stage.initial, .errorChecked, .stateChecked] := by
    unfold tokenStages
    cases processing.type with
    | extractOnly =>
      show ∀ stage ∈ [Stage.submissionPresent, .tokensExtracted, .vpsIntegrityChecked, .vcsExtracted,
        .extractedOnly], _
      decide
    | fullValidation =>
      show ∀ stage ∈ [Stage.submissionPresent, .tokensExtracted, .vpsIntegrityChecked, .vcsExtracted,
        .vcsIntegrityChecked, .selectiveDisclosuresChecked, .holderBindingChecked, .done], _
      decide
  exact hLater _ (hRow.stage_mem rfl hStaged)

/-- A run that is stopped by the checks of the response comes out the same with all collaborators. -/
theorem outcome_of_stopped
    (h : (outcome response (context.assistedBy c) processing now).2.stage ∈
      [.initial, .errorChecked, .stateChecked]) :
    outcome response (context.assistedBy c) processing now =
      outcome response (context.assistedBy c') processing now := by
  -- the checks of the response ask nobody, so they are the same with the other collaborators
  cases hChecks : advance (responseChecks response context processing) .start with
  | mk p stop =>
    cases stop with
    -- the checks stop the run, with the other collaborators as well
    | some e =>
      have hStopped : ∀ c clock,
          advance (stages response (context.assistedBy c) processing clock) .start = (p, some e) :=
        fun _ _ => advance_stages_stopped hChecks
      simp only [outcome, process, new, Bool.false_eq_true, if_false, hStopped]
    | none =>
      -- nothing has stopped the run there, so it is at a later stage
      obtain ⟨-, -, ⟨s, hs⟩, rfl⟩ := responseChecks_passed hChecks
      have hGoesOn : (outcome response (context.assistedBy c) processing now).2 =
          (advance (tokenStages response (context.assistedBy c) processing (clockAt context now))
            ⟨.submissionPresent, [], []⟩).1 := by
        have hProgress : (outcome response (context.assistedBy c) processing now).2 =
            (advance (stages response (context.assistedBy c) processing (clockAt context now))
              .start).1 := process_new_progress
        have hSame : responseChecks response (context.assistedBy c) processing =
            responseChecks response context processing := rfl
        rw [hProgress, stages_eq_append, advance_append, hSame, hChecks]
      rw [hGoesOn] at h
      exact absurd h (stage_of_submitted hs)

/-- Where it makes no difference to a run which of two sets of collaborators it has. -/
structure SameOutcome (response : Response) (context : Context) (processing : ProcessConfig) (now : Int64)
    (c c' : Collaborators) : Prop where
  /-- Without signatures nobody is asked for keys. -/
  unsigned : processing.options.skipVpSignatureChecks = true →
    processing.options.skipVcSignatureChecks = true → c.decrypter = c'.decrypter →
    outcome response (context.assistedBy c) processing now =
      outcome response (context.assistedBy c') processing now
  /-- An extraction asks for the keys of holders only. -/
  extraction : processing.type = .extractOnly → c.resolver.holderKey = c'.resolver.holderKey →
    c.decrypter = c'.decrypter →
    outcome response (context.assistedBy c) processing now =
      outcome response (context.assistedBy c') processing now
  /-- Where no presented text is an envelope nobody is asked to open one. -/
  unsealed : (∀ text, Presents response text → ¬Token.Sealed text) → c.resolver = c'.resolver →
    outcome response (context.assistedBy c) processing now =
      outcome response (context.assistedBy c') processing now
  /-- The checks of the response, which end a run at one of the first three stages, ask nobody. -/
  stopped : (outcome response (context.assistedBy c) processing now).2.stage ∈
      [.initial, .errorChecked, .stateChecked] →
    outcome response (context.assistedBy c) processing now =
      outcome response (context.assistedBy c') processing now

/-- **Collaborators**: where signatures are left out, it makes no difference who provides the keys; where
credentials are only extracted, of those keys only the ones of holders make a difference; where no presented
text is an envelope, it makes none who opens envelopes; and none of this makes a difference to a run that is
left at one of its first three stages, which the holder's error, the state or the submission has stopped. -/
theorem outcome_collaborators (response : Response) (context : Context) (processing : ProcessConfig)
    (now : Int64) (c c' : Collaborators) : SameOutcome response context processing now c c' where
  unsigned hVp hVc hSame := outcome_of_alike ⟨.inl hVp, .inr (.inl hVc), .inr (.inl hVc), .inr hSame⟩
  extraction hOnly hHolder hSame :=
    outcome_of_alike ⟨.inr hHolder, .inl hOnly, .inl hOnly, .inr hSame⟩
  unsealed hOpen hSame := by
    refine outcome_of_alike ⟨.inr ?_, .inr (.inr ?_), .inr (.inr ?_), .inl hOpen⟩ <;> rw [hSame]
  stopped := outcome_of_stopped

end Outcome

/-! ## A token that only some can verify -/

/-- Those that know the key of the signed token, and open nothing. -/
def trusting : Collaborators := ⟨baseContext.resolver, none⟩

/-- Those that know no key. -/
def keyless : Collaborators := ⟨sealedContext.resolver, none⟩

/-- The signed token is in no envelope. Without signatures nobody has to know its key, for an extraction
nobody the one of its issuer, and a context that expects no state stops it before that. -/
theorem outcome_collaborators_signed :
    outcome signedResponse (baseContext.assistedBy trusting) ⟨.fullValidation, unsignedOptions⟩ 0 =
      outcome signedResponse (baseContext.assistedBy keyless) ⟨.fullValidation, unsignedOptions⟩ 0 ∧
    outcome signedResponse (baseContext.assistedBy trusting) ⟨.extractOnly, {}⟩ 0 =
      outcome signedResponse (baseContext.assistedBy
        ⟨{ trusting.resolver with issuerKey := keyless.resolver.issuerKey }, none⟩) ⟨.extractOnly, {}⟩ 0 ∧
    outcome signedResponse (baseContext.assistedBy trusting) {} 0 =
      outcome signedResponse (baseContext.assistedBy
        ⟨trusting.resolver, some fun _ => .error "no key"⟩) {} 0 ∧
    outcome signedResponse (sealedContext.assistedBy trusting) {} 0 =
      outcome signedResponse (sealedContext.assistedBy keyless) {} 0 := by
  refine ⟨(outcome_collaborators _ _ _ _ _ _).unsigned rfl rfl rfl,
    (outcome_collaborators _ _ _ _ _ _).extraction rfl rfl rfl,
    (outcome_collaborators _ _ _ _ _ _).unsealed ?_ rfl,
    (outcome_collaborators _ _ _ _ _ _).stopped ?_⟩
  · rintro text ⟨tokens, hTokens, hText⟩
    -- the only presented text is the signed token, which has three segments
    obtain rfl := Option.some.inj hTokens
    obtain rfl := VpToken.text.inj (List.mem_singleton.mp hText)
    decide +kernel
  · decide

end Run

end PresentationVerifier
