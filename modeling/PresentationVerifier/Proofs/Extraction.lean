import PresentationVerifier.Proofs.Progression

/-!
# Extraction without validation

A run that only extracts does the first part of what a full run does. So it can fail only as the full run
fails, and if the full run gives a record, the extraction gives the same one without disclosures: the
stages after the extraction keep all that it has made, and add nothing but the disclosures that passed.

Main results:

* `validationStages_keep`: what these stages keep, whether they pass or not.
* `extraction_agrees`: the two types of processing side by side.
-/

namespace PresentationVerifier

/-! ## Leaving disclosures out -/

/-- A credential without the disclosures that passed. -/
def Credential.undisclosed (vc : Credential) : Credential :=
  { vc with disclosures := [] }

/-- A presentation whose credentials have no disclosures. -/
def Presentation.undisclosed (vp : Presentation) : Presentation :=
  { vp with credentials := vp.credentials.map Credential.undisclosed }

/-- The result of a credential without the disclosures that passed. -/
def CredentialResult.undisclosed (vc : CredentialResult) : CredentialResult :=
  { vc with disclosures := [] }

/-- The result of a presentation without the disclosures that passed. -/
def PresentationResult.undisclosed (vp : PresentationResult) : PresentationResult :=
  { vp with credentials := vp.credentials.map CredentialResult.undisclosed }

/-- The result of a presentation without disclosures is its result without them. -/
theorem Record.ofPresentation_undisclosed (vp : Presentation) :
    Record.ofPresentation vp.undisclosed = (Record.ofPresentation vp).undisclosed := by
  simp only [Record.ofPresentation, Presentation.undisclosed, PresentationResult.undisclosed,
    List.map_map]
  rfl

/-- From a presentation without disclosures there are none to leave out. -/
theorem Presentation.undisclosed_eq_self {vp : Presentation}
    (h : ∀ vc ∈ vp.credentials, vc.disclosures = []) : vp.undisclosed = vp := by
  have hSame : vp.credentials.map Credential.undisclosed = vp.credentials := by
    refine (List.map_congr_left fun vc hvc => ?_).trans (List.map_id _)
    rw [Credential.undisclosed, ← h vc hvc]
    rfl
  rw [Presentation.undisclosed, hSame]

namespace Run

variable {response : Response} {context : Context} {processing : ProcessConfig} {clock : Clock}

/-! ## What later stages keep -/

/-- What was extracted, without disclosures. -/
def extracted (p : Progress) : List Presentation :=
  p.presentations.map Presentation.undisclosed

/-- A stage may change disclosures, but nothing else that was extracted. -/
def Keeps (s : StageAction) : Prop :=
  ∀ p, extracted (s.act p).1 = extracted p

/-- A check changes nothing, whether it passes or not. -/
theorem keeps_check (reached : Stage) (test : Progress → Except Error Unit) :
    Keeps (.check reached test) := by
  intro p
  simp only [StageAction.check]
  cases test p <;> rfl

/-- Of a credential only the disclosures can change where they are validated. -/
theorem discloseIn_undisclosed (limit : Nat) (vc : Credential) :
    (discloseIn limit vc).1.undisclosed = vc.undisclosed := by
  unfold discloseIn
  cases Disclosure.validate limit vc.token <;> rfl

/-- Of a presentation only the disclosures of its credentials can change. -/
theorem discloseAll_undisclosed (vp : Presentation) :
    (discloseAll context vp).1.undisclosed = vp.undisclosed := by
  -- one credential after the other is updated, and each is kept
  have hCredentials := map_updateEach (discloseIn_undisclosed context.config.maxClaimDepth) vp.credentials
  simp only [discloseAll, Presentation.undisclosed]
  rw [hCredentials]

theorem keeps_disclose (reached : Stage) : Keeps ⟨reached, disclose context⟩ :=
  fun p => map_updateEach discloseAll_undisclosed p.presentations

/-- Stages that all keep what was extracted keep it in a row, wherever that stops. -/
theorem advance_keeps {row : List StageAction} (h : ∀ s ∈ row, Keeps s) (p : Progress) :
    extracted (advance row p).1 = extracted p := by
  -- by induction on the row, from the progress that the first stage has left
  induction row generalizing p with
  | nil => rfl
  | cons s rest ih =>
    rw [List.forall_mem_cons] at h
    have hKeeps := h.1 p
    rw [advance]
    split
    · next q e hAct =>
      rw [hAct] at hKeeps
      exact hKeeps
    · next q hAct =>
      rw [hAct] at hKeeps
      rw [ih h.2]
      exact hKeeps

/-- All stages after the extraction keep what was extracted. -/
theorem validationStages_keep :
    ∀ s ∈ validationStages context processing clock, Keeps s := by
  simp only [validationStages, List.forall_mem_cons]
  exact ⟨keeps_check _ _, keeps_disclose _, keeps_check _ _, keeps_check _ _,
    fun s hs => absurd hs List.not_mem_nil⟩

/-! ## Extraction only -/

section ExtractOnly

variable {options : Options} {q : Progress}

/-- What the extraction does is the same in both types of processing. -/
theorem extractionStages_type (type type' : ProcessType) :
    extractionStages response context ⟨type, options⟩ clock =
      extractionStages response context ⟨type', options⟩ clock := rfl

/-- A run that only extracts stops where the extraction does. -/
theorem advance_extractOnly_stopped {e : Error}
    (h : advance (extractionStages response context ⟨.extractOnly, options⟩ clock) .start = (q, some e)) :
    advance (stages response context ⟨.extractOnly, options⟩ clock) .start = (q, some e) := by
  rw [stages, advance_append, h]

/-- After the extraction nothing is left to do but to say so. -/
theorem advance_extractOnly_passed
    (h : advance (extractionStages response context ⟨.extractOnly, options⟩ clock) .start = (q, none)) :
    advance (stages response context ⟨.extractOnly, options⟩ clock) .start =
      ({ q with stage := .extractedOnly }, none) := by
  rw [stages, advance_append, h]
  rfl

theorem advance_fullValidation_stopped {e : Error}
    (h : advance (extractionStages response context ⟨.extractOnly, options⟩ clock) .start = (q, some e)) :
    advance (stages response context ⟨.fullValidation, options⟩ clock) .start = (q, some e) := by
  rw [extractionStages_type .extractOnly .fullValidation] at h
  rw [stages, advance_append, h]

/-- After the extraction a full run goes on with its validation. -/
theorem advance_fullValidation_passed
    (h : advance (extractionStages response context ⟨.extractOnly, options⟩ clock) .start = (q, none)) :
    advance (stages response context ⟨.fullValidation, options⟩ clock) .start =
      advance (validationStages context ⟨.fullValidation, options⟩ clock) q := by
  rw [extractionStages_type .extractOnly .fullValidation] at h
  rw [stages, advance_append, h]

/-- The extraction leaves no disclosures. -/
theorem extracted_eq_self
    (h : advance (extractionStages response context processing clock) .start = (q, none)) :
    extracted q = q.presentations := by
  have hRow : Row response .initial (extractionStages response context processing clock) :=
    extractionStages_row
  obtain ⟨hStaged, hLast, -⟩ := hRow.advance_staged rfl (Staged.start response)
  rw [h] at hStaged hLast
  -- at this stage no disclosure was validated yet
  have hStage : q.stage = .vcsExtracted := hLast rfl
  refine (List.map_congr_left fun vp hvp => ?_).trans (List.map_id _)
  refine Presentation.undisclosed_eq_self (hStaged.undisclosed (Or.inl ?_) vp hvp)
  rw [hStage]
  decide

end ExtractOnly

/-- **Agreement**: an error of a run that only extracts is the error of the full run too, and where the
full run gives a record, the extraction gives the same submission and results, without disclosures. -/
theorem extraction_agrees (response : Response) (context : Context) (options : Options) (now : Int64) :
    (∀ e, ((Run.new response context ⟨.extractOnly, options⟩).process now).1 = .error e →
      ((Run.new response context ⟨.fullValidation, options⟩).process now).1 = .error e) ∧
    ∀ record, ((Run.new response context ⟨.fullValidation, options⟩).process now).1 = .ok record →
      ∃ partly, ((Run.new response context ⟨.extractOnly, options⟩).process now).1 = .ok partly ∧
        partly.submission = record.submission ∧
        partly.presentations = record.presentations.map PresentationResult.undisclosed := by
  -- both runs begin with the same extraction
  cases hExtraction : advance (extractionStages response context ⟨.extractOnly, options⟩
      (clockAt context now)) .start with
  | mk q e =>
    cases e with
    | some e =>
      have hFull := process_new_of_some (advance_fullValidation_stopped hExtraction)
      refine ⟨fun e' h => ?_, fun record h => ?_⟩
      · rw [process_new_of_some (advance_extractOnly_stopped hExtraction)] at h
        rw [hFull, h]
      · rw [hFull] at h
        cases h
    | none =>
      have hPartly := process_new_of_none (advance_extractOnly_passed hExtraction)
      refine ⟨fun e h => ?_, fun record h => ⟨_, hPartly, ?_⟩⟩
      · rw [hPartly] at h
        cases h
      · obtain ⟨p, hAdvance, rfl⟩ := process_new_ok_iff.mp h
        rw [advance_fullValidation_passed hExtraction] at hAdvance
        -- what the validation has kept is all that the extraction has made
        have hKept : extracted (advance (validationStages context ⟨.fullValidation, options⟩
            (clockAt context now)) q).1 = extracted q := advance_keeps validationStages_keep q
        rw [hAdvance, extracted_eq_self hExtraction] at hKept
        refine ⟨rfl, ?_⟩
        show q.presentations.map Record.ofPresentation =
          (p.presentations.map Record.ofPresentation).map PresentationResult.undisclosed
        rw [← hKept, extracted, List.map_map, List.map_map]
        exact List.map_congr_left fun vp _ => Record.ofPresentation_undisclosed vp

/-! ## A token with a disclosure -/

/-- A token without a signature that reveals one claim. -/
def disclosingText : String :=
  "e30.eyJfc2QiOlsibUJOSGZ6V0ljN1pybDU1SWsyRE9IRmVpQldvMHJBekd1MWJneElLRFk3dyJdLCJfc2RfYWxnIjoic2hh" ++
    "LTI1NiJ9.~WyJzIiwiayIsMV0~"

/-- The response that presents it. -/
def disclosingResponse : Response where
  raw := []
  idToken := none
  vpToken := some [.text disclosingText]
  submission := some ⟨"answer", "request", [.new "input" .vcSdJwt "$"]⟩
  state := none
  error := none
  errorDescription := none
  errorUri := none

/-- Signatures are left out. -/
def unsignedOptions : Options where
  skipVpSignatureChecks := true
  skipVcSignatureChecks := true

set_option maxRecDepth 100000 in
/-- The full run has the disclosure in its record, and the extraction has the same record without it. -/
theorem extraction_agrees_disclosing :
    ∃ record partly,
      ((Run.new disclosingResponse sealedContext ⟨.fullValidation, unsignedOptions⟩).process 0).1 =
        .ok record ∧
      ((Run.new disclosingResponse sealedContext ⟨.extractOnly, unsignedOptions⟩).process 0).1 =
        .ok partly ∧
      (record.presentations.flatMap fun vp => vp.credentials.flatMap fun vc =>
        vc.disclosures.map Disclosure.key) = ["k"] ∧
      partly.presentations = record.presentations.map PresentationResult.undisclosed := by
  -- the full run passes, since its record has a disclosure to show
  have hKeys :
      (((Run.new disclosingResponse sealedContext ⟨.fullValidation, unsignedOptions⟩).process 0).1.toOption.map
        fun record => record.presentations.flatMap fun vp => vp.credentials.flatMap fun vc =>
          vc.disclosures.map Disclosure.key) = some ["k"] := by
    decide +kernel
  cases hRecord :
      ((Run.new disclosingResponse sealedContext ⟨.fullValidation, unsignedOptions⟩).process 0).1 with
  | error e =>
    rw [hRecord] at hKeys
    cases hKeys
  | ok record =>
    rw [hRecord] at hKeys
    obtain ⟨partly, hPartly, -, hSame⟩ :=
      (extraction_agrees disclosingResponse sealedContext unsignedOptions 0).2 record hRecord
    exact ⟨record, partly, rfl, hPartly, Option.some.inj hKeys, hSame⟩

end Run

end PresentationVerifier
