import PresentationVerifier.Proofs.Stages
import PresentationVerifier.Run

/-!
# The journey of a presented token

Of the stages of a run three look at the response as a whole, the fourth takes the tokens apart, and all
later ones are solo stages. So a run is the checks of the response, then one journey for each presented
token.

Main results:

* `stages_eq_append`, `tokenStages_eq` — the row of stages in these three parts.
* `advance_stages_unpresentable`, `advance_stages_presented` — a run that passes the checks of the response
  stops at a token that cannot be taken apart, or else goes on with the solo stages.
* `advance_stages_ok` — what a run that nothing stopped has passed: the checks of the response, and the
  journey of each presentation.
-/

namespace PresentationVerifier.Run

variable (response : Response) (context : Context) (processing : ProcessConfig) (clock : Clock)

/-! ## Taking tokens apart -/

/-- What a single presented token becomes: a presentation without credentials so far, or an error. -/
def presentOne : VpToken → Except Error Presentation
  | .document _ => .error (.unsupported "object-based vp_token")
  | .text raw =>
    match (Token.unwrap context.decrypter context.config.maxJweNesting raw).result with
    | .error e => .error (e.at .tokenExtraction)
    | .ok token => .ok ⟨token, []⟩

/-- The error of a token that cannot be taken apart. -/
def presentError (t : VpToken) : Option Error :=
  match presentOne context t with
  | .ok _ => none
  | .error e => some e

/-- Tokens are taken apart one after the other, and the first that cannot be ends it. -/
theorem present_cons (t : VpToken) (rest : List VpToken) :
    (present context (t :: rest)).2 =
      match presentOne context t with
      | .error e => .error e
      | .ok vp => (present context rest).2.map fun vps => vp :: vps := by
  cases t with
  | document o => rfl
  | text raw =>
    rw [present, presentOne]
    cases (Token.unwrap context.decrypter context.config.maxJweNesting raw).result <;> rfl

/-- All tokens are taken apart exactly when each one is, and the presentations are theirs in order. -/
theorem present_eq_ok_iff {tokens : List VpToken} {vps : List Presentation} :
    (present context tokens).2 = .ok vps ↔
      List.Forall₂ (fun t vp => presentOne context t = .ok vp) tokens vps := by
  -- on the tokens, with the presentations that the rest become
  induction tokens generalizing vps with
  | nil =>
    rw [List.forall₂_nil_left_iff, present, Except.ok.injEq, eq_comm]
  | cons t rest ih =>
    -- the results are a list exactly when the first is there and the rest are a list
    rw [present_cons, List.forall₂_cons_left_iff]
    cases h : presentOne context t with
    | error e => simp
    | ok vp =>
      constructor
      · intro hMap
        cases hRest : (present context rest).2 with
        | error e => simp [hRest, Except.map] at hMap
        | ok vps' =>
          rw [hRest] at hMap
          exact ⟨vp, vps', rfl, ih.mp hRest, (Except.ok.inj hMap).symm⟩
      · rintro ⟨vp', vps', hvp, hRest, rfl⟩
        obtain rfl := Except.ok.inj hvp
        simp only [ih.mpr hRest, Except.map]

/-- The error is that of the first token that cannot be taken apart. -/
theorem present_eq_error_iff {tokens : List VpToken} {e : Error} :
    (present context tokens).2 = .error e ↔ tokens.findSome? (presentError context) = some e := by
  induction tokens with
  | nil => simp [present]
  | cons t rest ih =>
    rw [present_cons, List.findSome?_cons]
    cases h : presentOne context t with
    | error e' => simp [presentError, h]
    -- the first token is taken apart, so both sides look at the rest
    | ok vp =>
      cases hRest : (present context rest).2 <;> simp [presentError, h, Except.map, ← ih, hRest]

/-! ## The row of stages in three parts -/

/-- The three stages that look at the response as a whole. -/
def responseChecks : List StageAction :=
  [.check .errorChecked fun _ => checkError response,
    .check .stateChecked fun _ => checkState response context processing,
    .check .submissionPresent fun _ => checkSubmission response]

/-- The stages from taking the tokens apart on. -/
def tokenStages : List StageAction :=
  ⟨.tokensExtracted, extractTokens response context⟩ ::
    .check .vpsIntegrityChecked (verifyPresentations context processing clock) ::
    ⟨.vcsExtracted, extractCredentials response⟩ ::
    match processing.type with
    | .extractOnly => [.mark .extractedOnly]
    | .fullValidation => validationStages context processing clock

/-- A run checks the response and then goes through its tokens. -/
theorem stages_eq_append :
    stages response context processing clock =
      responseChecks response context processing ++
        tokenStages response context processing clock := rfl

/-- What the integrity of presentations asks of a single one. -/
def checkPresentation (vp : Presentation) : Except Error Unit :=
  if processing.options.skipVpSignatureChecks then .ok ()
  else verifyPresentation context.config processing.options clock context.resolver vp.token

/-- What the integrity of credentials asks of a single one. -/
def checkCredential (vc : Credential) : Except Error Unit :=
  if processing.options.skipVcSignatureChecks then .ok ()
  else verifyCredential context.config clock context.resolver vc.token

/-- What holder binding asks of a single credential. -/
def checkBinding (vc : Credential) : Except Error Unit :=
  HolderBinding.verify ⟨context.config.clientId, context.nonce, clock⟩ processing.options
    context.resolver vc.token

/-- A presentation with the disclosures of its credentials, as far as they pass. -/
def discloseAll (vp : Presentation) : Presentation × Option Error :=
  let (credentials, e) := updateEach (discloseIn context.config.maxClaimDepth) vp.credentials
  ({ vp with credentials := credentials }, e)

/-- The solo stages up to the extraction of the credentials. -/
def soloExtraction (s : Submission) : List SoloStage :=
  [.check .vpsIntegrityChecked (checkPresentation context processing clock),
    ⟨.vcsExtracted, extractFrom s⟩]

/-- The solo stages after the extraction of the credentials. -/
def soloValidation : List SoloStage :=
  [.check .vcsIntegrityChecked fun vp =>
      firstError (checkCredential context processing clock) vp.credentials,
    ⟨.selectiveDisclosuresChecked, discloseAll context⟩,
    .check .holderBindingChecked fun vp =>
      firstError (checkBinding context processing clock) vp.credentials,
    .check .done fun _ => .ok ()]

/-- All stages that take the presentations one by one. -/
def soloStages (s : Submission) : List SoloStage :=
  soloExtraction context processing clock s ++
    match processing.type with
    | .extractOnly => [.check .extractedOnly fun _ => .ok ()]
    | .fullValidation => soloValidation context processing clock

/-- They reach stages of growing rank. -/
theorem soloStages_inOrder (s : Submission) :
    InOrder .tokensExtracted (soloStages context processing clock s) := by
  rw [InOrder, soloStages]
  -- the two types of processing differ in their last stages only
  cases processing.type <;> simp [soloExtraction, soloValidation, SoloStage.check, Stage.rank]

/-- A check that always passes finds no error. -/
theorem firstError_ok {α ε : Type} (as : List α) :
    firstError (fun _ : α => (.ok () : Except ε Unit)) as = .ok () :=
  firstError_eq_ok_iff.mpr fun _ _ => rfl

/-- The option is the same for all presentations, so it can be asked for each. -/
theorem verifyPresentations_eq (p : Progress) :
    verifyPresentations context processing clock p =
      firstError (checkPresentation context processing clock) p.presentations := by
  unfold verifyPresentations checkPresentation
  split
  · exact (firstError_ok _).symm
  · rfl

/-- The same of the credentials, presentation by presentation. -/
theorem verifyCredentials_eq (p : Progress) :
    verifyCredentials context processing clock p =
      firstError (fun vp => firstError (checkCredential context processing clock) vp.credentials)
        p.presentations := by
  rw [← firstError_flatMap]
  unfold verifyCredentials checkCredential
  split
  · exact (firstError_ok _).symm
  · rfl

/-- The same of holder binding. -/
theorem verifyBindings_eq (p : Progress) :
    verifyBindings context processing clock p =
      firstError (fun vp => firstError (checkBinding context processing clock) vp.credentials)
        p.presentations :=
  firstError_flatMap _ _ _

/-- A mark is a stage that asks nothing of any presentation. -/
theorem mark_eq (reached : Stage) :
    StageAction.mark reached = (SoloStage.check reached fun _ => .ok ()).onEach := by
  rw [SoloStage.onEach_check, StageAction.mark]
  congr
  funext p
  exact (firstError_ok _).symm

/-- The stages after the tokens are taken apart are solo stages. -/
theorem tokenStages_eq {s : Submission} (hs : response.submission = some s) :
    tokenStages response context processing clock =
      ⟨.tokensExtracted, extractTokens response context⟩ ::
        (soloStages context processing clock s).map SoloStage.onEach := by
  -- each stage of the run is a solo stage on all presentations: first the integrity
  have hVp : StageAction.check .vpsIntegrityChecked (verifyPresentations context processing clock) =
      (SoloStage.check .vpsIntegrityChecked (checkPresentation context processing clock)).onEach := by
    rw [SoloStage.onEach_check, funext (verifyPresentations_eq context processing clock)]
  -- and then the extraction, which finds the submission that there is
  have hExtract : (⟨.vcsExtracted, extractCredentials response⟩ : StageAction) =
      (⟨.vcsExtracted, extractFrom s⟩ : SoloStage).onEach := by
    unfold extractCredentials SoloStage.onEach
    rw [hs]
  rw [tokenStages, soloStages, hVp, hExtract]
  -- up to here both types of processing do the same
  cases processing.type with
  | extractOnly => rw [mark_eq]; rfl
  | fullValidation =>
    simp only [validationStages, soloValidation, soloExtraction, mark_eq, List.map_cons, List.map_nil,
      SoloStage.onEach_check, funext (verifyCredentials_eq _ _ _), funext (verifyBindings_eq _ _ _),
      List.cons_append, List.nil_append]
    rfl

/-! ## Runs in terms of single tokens -/

variable {response context processing clock}

/-- What the checks of the response ask for, and where they leave a run. -/
theorem responseChecks_passed {p : Progress}
    (h : advance (responseChecks response context processing) .start = (p, none)) :
    checkError response = .ok () ∧ checkState response context processing = .ok () ∧
      (∃ s, response.submission = some s) ∧ p = ⟨.submissionPresent, [], []⟩ := by
  simp only [responseChecks, advance, StageAction.check] at h
  -- the three checks in turn; each of them stops the row where it fails
  cases hError : checkError response with
  | error e => simp [hError] at h
  | ok _ =>
    cases hState : checkState response context processing with
    | error e => simp [hError, hState] at h
    | ok _ =>
      cases hSubmission : response.submission with
      | none => simp [hError, hState, checkSubmission, hSubmission] at h
      | some s =>
        simp only [hError, hState, checkSubmission, hSubmission, Prod.mk.injEq, and_true] at h
        exact ⟨rfl, rfl, ⟨s, rfl⟩, h.symm⟩

/-- A run that the checks of the response stop is stopped there. -/
theorem advance_stages_stopped {p : Progress} {e : Error}
    (h : advance (responseChecks response context processing) .start = (p, some e)) :
    advance (stages response context processing clock) .start = (p, some e) := by
  rw [stages_eq_append, advance_append, h]

/-- With tokens to take apart, the stage that does it is `present` on all of them. -/
theorem extractTokens_eq {tokens : List VpToken} (hv : response.vpToken = some tokens)
    (hNonempty : tokens ≠ []) (p : Progress) :
    extractTokens response context p =
      match present context tokens with
      | (opened, .ok vps) => ({ p with presentations := vps, opened := opened }, none)
      | (opened, .error e) => ({ p with opened := opened }, some e) := by
  cases tokens with
  | nil => exact absurd rfl hNonempty
  -- there is a token, so the branch for an empty list is not taken
  | cons t rest =>
    unfold extractTokens
    cases hPresent : present context (t :: rest) with
    | mk opened result => cases result <;> simp [hv, hPresent]

/-- That stage is not passed without a token. -/
theorem extractTokens_passed {p q : Progress} (h : extractTokens response context p = (q, none)) :
    ∃ tokens, response.vpToken = some tokens ∧ tokens ≠ [] := by
  cases hv : response.vpToken with
  | none => simp [extractTokens, hv] at h
  | some tokens =>
    cases tokens with
    | nil => simp [extractTokens, hv] at h
    | cons t rest => exact ⟨t :: rest, rfl, by simp⟩

section Passed

variable {p : Progress} {s : Submission} {tokens : List VpToken} {opened : List String}

/-- A run that passes the checks of the response stops where a token cannot be taken apart. -/
theorem advance_stages_unpresentable {e : Error}
    (h : advance (responseChecks response context processing) .start = (p, none))
    (hs : response.submission = some s) (hv : response.vpToken = some tokens) (hNonempty : tokens ≠ [])
    (hPresent : present context tokens = (opened, .error e)) :
    advance (stages response context processing clock) .start =
      (⟨.submissionPresent, [], opened⟩, some e) := by
  obtain ⟨-, -, -, rfl⟩ := responseChecks_passed h
  rw [stages_eq_append, advance_append, h]
  simp only [tokenStages_eq _ _ _ _ hs, advance, extractTokens_eq hv hNonempty, hPresent]

/-- A run that passes the checks of the response and takes all tokens apart goes on with the solo
stages. -/
theorem advance_stages_presented {vps : List Presentation}
    (h : advance (responseChecks response context processing) .start = (p, none))
    (hs : response.submission = some s) (hv : response.vpToken = some tokens) (hNonempty : tokens ≠ [])
    (hPresent : present context tokens = (opened, .ok vps)) :
    advance (stages response context processing clock) .start =
      advance ((soloStages context processing clock s).map SoloStage.onEach)
        ⟨.tokensExtracted, vps, opened⟩ := by
  obtain ⟨-, -, -, rfl⟩ := responseChecks_passed h
  rw [stages_eq_append, advance_append, h]
  simp only [tokenStages_eq _ _ _ _ hs, advance, extractTokens_eq hv hNonempty, hPresent]

end Passed

/-- What a run that nothing stopped has passed, and what it leaves: each presentation has made its
journey. -/
theorem advance_stages_ok {p : Progress}
    (h : advance (stages response context processing clock) .start = (p, none)) :
    checkError response = .ok () ∧ checkState response context processing = .ok () ∧
      ∃ s tokens vps, response.submission = some s ∧ response.vpToken = some tokens ∧ tokens ≠ [] ∧
        List.Forall₂ (fun t vp => presentOne context t = .ok vp) tokens vps ∧
        (∀ vp ∈ vps,
          (journey (soloStages context processing clock s) .tokensExtracted vp).error = none) ∧
        p.presentations = vps.map fun vp =>
          (journey (soloStages context processing clock s) .tokensExtracted vp).presentation := by
  obtain ⟨q, e, hChecks⟩ : ∃ q e,
      advance (responseChecks response context processing) .start = (q, e) := ⟨_, _, rfl⟩
  cases e with
  -- the checks of the response have not stopped it, since nothing has
  | some e => simp [advance_stages_stopped hChecks] at h
  | none =>
    obtain ⟨hError, hState, ⟨s, hs⟩, rfl⟩ := responseChecks_passed hChecks
    -- without a token the run would have stopped at the stage that takes tokens apart
    obtain ⟨tokens, hv, hNonempty⟩ : ∃ tokens, response.vpToken = some tokens ∧ tokens ≠ [] := by
      simp only [stages_eq_append, advance_append, hChecks, tokenStages, advance] at h
      cases hTokens : extractTokens response context ⟨.submissionPresent, [], []⟩ with
      | mk q e =>
        cases e with
        | some e => simp [hTokens] at h
        | none => exact extractTokens_passed hTokens
    cases hPresent : present context tokens with
    | mk opened result =>
      cases result with
      -- nor has a token that cannot be taken apart
      | error e => simp [advance_stages_unpresentable hChecks hs hv hNonempty hPresent] at h
      | ok vps =>
        -- what is left of the run is the row of solo stages
        rw [advance_stages_presented hChecks hs hv hNonempty hPresent] at h
        have hEach := (present_eq_ok_iff context).mp (congrArg Prod.snd hPresent)
        have hNone := congrArg Prod.snd h
        have hFst := advance_onEach_fst hNone
        rw [h] at hFst
        exact ⟨hError, hState, s, tokens, vps, hs, hv, hNonempty, hEach,
          advance_onEach_none_iff.mp hNone, hFst⟩

/-- The other direction: nothing else can stop a run. -/
theorem advance_stages_of_ok {s : Submission} {tokens : List VpToken} {vps : List Presentation}
    (hError : checkError response = .ok ()) (hState : checkState response context processing = .ok ())
    (hs : response.submission = some s) (hv : response.vpToken = some tokens) (hNonempty : tokens ≠ [])
    (hEach : List.Forall₂ (fun t vp => presentOne context t = .ok vp) tokens vps)
    (hPassed : ∀ vp ∈ vps,
      (journey (soloStages context processing clock s) .tokensExtracted vp).error = none) :
    ∃ p, advance (stages response context processing clock) .start = (p, none) ∧
      p.presentations = vps.map fun vp =>
        (journey (soloStages context processing clock s) .tokensExtracted vp).presentation := by
  have hChecks : advance (responseChecks response context processing) .start =
      (⟨.submissionPresent, [], []⟩, none) := by
    simp only [responseChecks, advance, StageAction.check, hError, hState, checkSubmission, hs,
      Progress.start]
  -- the tokens are taken apart, whatever was opened on the way
  have hPresent : present context tokens = ((present context tokens).1, .ok vps) :=
    Prod.ext rfl ((present_eq_ok_iff context).mpr hEach)
  have hNone : (advance ((soloStages context processing clock s).map SoloStage.onEach)
      ⟨.tokensExtracted, vps, (present context tokens).1⟩).2 = none :=
    advance_onEach_none_iff.mpr hPassed
  exact ⟨_, (advance_stages_presented hChecks hs hv hNonempty hPresent).trans (Prod.ext rfl hNone),
    advance_onEach_fst hNone⟩

/-! ## Processing a response -/

/-- The clock of a run: the time of the call, and the leeway of the configuration. -/
def clockAt (context : Context) (now : Int64) : Clock :=
  ⟨now, context.config.clockSkew⟩

section Process

variable {now : Int64}

/-- A run is left with the progress of its row of stages. -/
theorem process_new_progress :
    ((Run.new response context processing).process now).2.progress =
      (advance (stages response context processing (clockAt context now)) .start).1 := rfl

/-- What stops the row is the error of the run. -/
theorem process_new_of_some {p : Progress} {e : Error}
    (h : advance (stages response context processing (clockAt context now)) .start = (p, some e)) :
    ((Run.new response context processing).process now).1 = .error e := by
  unfold clockAt at h
  simp only [process, new, h, Bool.false_eq_true, if_false]

/-- A row that nothing stops gives a record of what it leaves. -/
theorem process_new_of_none {p : Progress}
    (h : advance (stages response context processing (clockAt context now)) .start = (p, none)) :
    ((Run.new response context processing).process now).1 =
      .ok (Record.completed context.recordHeader (verdictOf processing.type) response.submission
        p.presentations) := by
  unfold clockAt at h
  simp only [process, new, h, Bool.false_eq_true, if_false]

/-- A run ends in an error exactly when its row of stages does. -/
theorem process_new_error_iff {e : Error} :
    ((Run.new response context processing).process now).1 = .error e ↔
      (advance (stages response context processing (clockAt context now)) .start).2 = some e := by
  -- the row of stages decides which of the two forms the result has
  cases h : advance (stages response context processing (clockAt context now)) .start with
  | mk p e' =>
    cases e' with
    | some e' => rw [process_new_of_some h, Except.error.injEq, Option.some.injEq]
    | none => simp [process_new_of_none h]

/-- A run gives a record exactly when nothing stops its row of stages. -/
theorem process_new_ok_iff {record : Record} :
    ((Run.new response context processing).process now).1 = .ok record ↔
      ∃ p, advance (stages response context processing (clockAt context now)) .start = (p, none) ∧
        record = Record.completed context.recordHeader (verdictOf processing.type) response.submission
          p.presentations := by
  cases h : advance (stages response context processing (clockAt context now)) .start with
  | mk p e =>
    cases e with
    | some e => simp [process_new_of_some h]
    | none => simp [process_new_of_none h, eq_comm]

end Process

/-! ## Calls to a run -/

/-- A run after calls to it at the given times. -/
def after (calls : List Int64) (r : Run) : Run :=
  calls.foldl (fun r now => (r.process now).2) r

/-- A run that was processed answers every further call in the same way. -/
theorem process_of_processed {r : Run} (h : r.processed = true) (now : Int64) :
    r.process now = (.error .alreadyProcessed, r) := by
  rw [process, if_pos h]

/-- After a call a run was processed, whatever came of it. -/
theorem processed_process (r : Run) (now : Int64) : (r.process now).2.processed = true := by
  by_cases h : r.processed = true
  · rw [process_of_processed h]
    exact h
  · rw [process, if_neg h]

/-- Calls to a run that was processed leave it as it is. -/
theorem after_of_processed {r : Run} (h : r.processed = true) (calls : List Int64) :
    r.after calls = r := by
  -- each call hands the same run on to the next
  induction calls with
  | nil => rfl
  | cons now rest ih =>
    rw [after, List.foldl_cons, process_of_processed h]
    exact ih

/-- Only the first call to a run does anything. -/
theorem after_cons (r : Run) (first : Int64) (later : List Int64) :
    r.after (first :: later) = (r.process first).2 :=
  after_of_processed (processed_process r first) later

/-- Only the first call to a run gives a record. -/
theorem after_eq_self_of_ok {r : Run} {calls : List Int64} {now : Int64} {record : Record}
    (h : ((r.after calls).process now).1 = .ok record) : r.after calls = r := by
  cases calls with
  | nil => rfl
  | cons first rest =>
    -- the first call has used the run up, whatever came of it
    rw [after_cons, process_of_processed (processed_process r first)] at h
    cases h

end PresentationVerifier.Run
