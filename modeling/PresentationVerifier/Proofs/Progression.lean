import PresentationVerifier.Proofs.Errors
import PresentationVerifier.Proofs.Soundness

/-!
# How far a run gets

After a run was processed two things can be looked at: the result, and the progress that the run was left
with. They fit together. An error tells the stage that was passed last (`Error.exits`), and the stage tells
what can be there of presentations, credentials and disclosures (`Staged`), also where a stage was left in
the middle of a batch.

One lemma for each stage says what it keeps and with which errors it ends, given the stage that was
passed before (`Follows`); `Row.advance_staged` takes this through a row of stages.

Main results:

* `stages_row`: the stages of a run follow each other.
* `Row.advance_staged`: performing a row keeps `Staged`, and stops only with an error that belongs to the
  stage where it stops.
* `process_progress`: what all calls to a run leave, and what that says about the first.
-/

namespace PresentationVerifier

/-! ## Where errors stop a run -/

/-- The stage that a run has passed when a step begins. Three steps have none, since no error of a run
names them. -/
def Step.exits : Step → List Stage
  | errorCheck | submissionCheck | vcExtraction => []
  | stateCheck => [.errorChecked]
  | tokenExtraction => [.submissionPresent]
  | vpIntegrity => [.tokensExtracted]
  | vcIntegrity => [.vcsExtracted]
  | selectiveDisclosure => [.vcsIntegrityChecked]
  | holderBinding => [.selectiveDisclosuresChecked]

/-- The stages that a run can have passed when an error stops it. Errors about what is read on the way
come up wherever that is read. -/
def Error.exits : Error → List Stage
  | holder _ => [.initial]
  | missingPresentationSubmission => [.stateChecked]
  | missingVpToken => [.submissionPresent]
  | unsupported _ => [.submissionPresent, .vpsIntegrityChecked]
  | malformedToken _ => [.submissionPresent, .vpsIntegrityChecked, .selectiveDisclosuresChecked]
  | malformedDisclosure _ | missingSdAlg | claimNestingTooDeep _ => [.vcsIntegrityChecked]
  | unsupportedSdAlg _ => [.vcsIntegrityChecked, .selectiveDisclosuresChecked]
  | rejected step _ | failed step _ => step.exits
  | alreadyProcessed => []

/-- An error that names a step stops runs where that step does. -/
theorem Error.exits_of_step {e : Error} {step : Step} (h : e.step? = some step) :
    e.exits = step.exits := by
  cases e with
  -- only these two name a step
  | rejected s _ | failed s _ =>
    obtain rfl : s = step := Option.some.inj h
    rfl
  | _ => cases h

/-- An error that stops a run somewhere names none of the three steps. -/
theorem Error.step_of_exits {e : Error} {stage : Stage} (h : stage ∈ e.exits) :
    e.step? ≠ some .errorCheck ∧ e.step? ≠ some .submissionCheck ∧ e.step? ≠ some .vcExtraction := by
  have hStep : ∀ step, step.exits = [] → e.step? ≠ some step := by
    intro step hNone hNames
    rw [Error.exits_of_step hNames, hNone] at h
    exact List.not_mem_nil h
  exact ⟨hStep _ rfl, hStep _ rfl, hStep _ rfl⟩

namespace Run

/-! ## What is there at a stage -/

/-- What a run of the response has made is what belongs to the stage that was passed last. -/
structure Staged (response : Response) (p : Progress) : Prop where
  submitted : Stage.rank .submissionPresent ≤ p.stage.rank → ∃ s, response.submission = some s
  /-- The tokens are there all together or not at all. -/
  unpresented : p.stage.rank < Stage.rank .tokensExtracted → p.presentations = []
  unextracted : p.stage.rank < Stage.rank .vpsIntegrityChecked →
    ∀ vp ∈ p.presentations, vp.credentials = []
  /-- This is so too at the end of a run that only extracts. -/
  undisclosed : p.stage.rank < Stage.rank .vcsIntegrityChecked ∨ p.stage = .extractedOnly →
    ∀ vp ∈ p.presentations, ∀ vc ∈ vp.credentials, vc.disclosures = []
  reread : ∀ vp ∈ p.presentations, Token.ofJws vp.token.raw = .ok vp.token.reread

/-- At the start nothing is there, and nothing is said to be. -/
theorem Staged.start (response : Response) : Staged response .start where
  submitted h := absurd h (by decide)
  unpresented _ := rfl
  unextracted _ vp hvp := absurd hvp List.not_mem_nil
  undisclosed _ vp hvp := absurd hvp List.not_mem_nil
  reread vp hvp := absurd hvp List.not_mem_nil

/-- The later the stage, the less it says, but for the submission. -/
theorem Staged.mono {response : Response} {p : Progress} (h : Staged response p) {stage : Stage}
    (hLater : p.stage.rank ≤ stage.rank)
    (hSubmitted : Stage.rank .submissionPresent ≤ stage.rank → ∃ s, response.submission = some s) :
    Staged response { p with stage := stage } where
  submitted := hSubmitted
  unpresented hStage := h.unpresented (Nat.lt_of_le_of_lt hLater hStage)
  unextracted hStage := h.unextracted (Nat.lt_of_le_of_lt hLater hStage)
  -- this is the one part that also speaks of a single stage
  undisclosed hStage := by
    refine h.undisclosed (Or.inl ?_)
    -- a run that only extracts has not come to the integrity of credentials
    have hBefore : stage.rank < Stage.rank .vcsIntegrityChecked := by
      rcases hStage with hStage | hStage
      · exact hStage
      · have hOnly : stage = .extractedOnly := hStage
        rw [hOnly]
        decide
    omega
  reread := h.reread

/-- From the integrity of presentations on nothing says that something is not there yet, disclosures apart. -/
theorem Staged.of_late {response : Response} {p : Progress}
    (hLate : Stage.rank .vpsIntegrityChecked ≤ p.stage.rank) (hFound : ∃ s, response.submission = some s)
    (hUndisclosed : p.stage.rank < Stage.rank .vcsIntegrityChecked ∨ p.stage = .extractedOnly →
      ∀ vp ∈ p.presentations, ∀ vc ∈ vp.credentials, vc.disclosures = [])
    (hReread : ∀ vp ∈ p.presentations, Token.ofJws vp.token.raw = .ok vp.token.reread) :
    Staged response p where
  submitted _ := hFound
  unpresented hBefore := absurd (Nat.lt_of_le_of_lt hLate hBefore) (by decide)
  unextracted hBefore := absurd (Nat.lt_of_le_of_lt hLate hBefore) (by decide)
  undisclosed := hUndisclosed
  reread := hReread

/-! ## Stages that follow each other -/

/-- How a stage can end after `passed`: it stops the run there with an error that belongs there, or it
hands on what belongs to the stage that is reached by it. -/
inductive Lands (response : Response) (passed reached : Stage) : Progress × Option Error → Prop where
  | stops {q : Progress} {e : Error} (hStage : q.stage = passed) (hStaged : Staged response q)
      (hExits : passed ∈ e.exits) : Lands response passed reached (q, some e)
  | passes {q : Progress} (hStaged : Staged response { q with stage := reached }) :
      Lands response passed reached (q, none)

/-- A stage that is performed where it belongs ends in one of the two ways, whatever the progress is. -/
def Follows (response : Response) (passed : Stage) (s : StageAction) : Prop :=
  ∀ p, p.stage = passed → Staged response p → Lands response passed s.reached (s.act p)

/-- A row of stages of which each follows the one before. -/
inductive Row (response : Response) : Stage → List StageAction → Prop where
  | nil (passed : Stage) : Row response passed []
  | cons {passed : Stage} {s : StageAction} {rest : List StageAction}
      (hFollows : Follows response passed s) (hRest : Row response s.reached rest) :
      Row response passed (s :: rest)

/-- A row goes on with another one that begins where it ends. -/
theorem Row.append {response : Response} {passed : Stage} {first second : List StageAction}
    (hFirst : Row response passed first)
    (hSecond : Row response ((first.map StageAction.reached).getLastD passed) second) :
    Row response passed (first ++ second) := by
  -- on the first row; the stage it ends at is found from its rest
  induction hFirst with
  | nil passed => exact hSecond
  | cons hFollows _ ih =>
    rw [List.map_cons, List.getLastD_cons] at hSecond
    exact .cons hFollows (ih hSecond)

/-- An error came from a stage of the row, the stages before it were passed, and the last of them is the
one that was reached. -/
def StoppedIn (row : List StageAction) (start q : Progress) (e : Error) : Prop :=
  ∃ before s rest p, row = before ++ s :: rest ∧ advance before start = (p, none) ∧
    s.act p = (q, some e) ∧ q.stage = (before.map StageAction.reached).getLastD start.stage

/-- **Run**: a row that is performed from where it belongs leaves what belongs to the stage it gets to. -/
theorem Row.advance_staged {response : Response} {passed : Stage} {row : List StageAction}
    (hRow : Row response passed row) {p : Progress} (hStage : p.stage = passed)
    (hStaged : Staged response p) :
    Staged response (advance row p).1 ∧
      ((advance row p).2 = none →
        (advance row p).1.stage = (row.map StageAction.reached).getLastD p.stage) ∧
      ∀ e, (advance row p).2 = some e →
        StoppedIn row p (advance row p).1 e ∧ (advance row p).1.stage ∈ e.exits := by
  -- a stage either stops the run where it is, or hands on what the next one builds on
  induction hRow generalizing p with
  | nil => exact ⟨hStaged, fun _ => rfl, fun e he => by cases he⟩
  | @cons passed s rest hFollows _ ih =>
    have hLands := hFollows p hStage hStaged
    cases hAct : s.act p with
    | mk q e =>
      rw [hAct] at hLands
      cases hLands with
      -- stopped by the first stage, the run is left where it was
      | @stops q e hSame hStays hExits =>
        simp only [advance, hAct]
        refine ⟨hStays, (fun h => by cases h), fun e' he' => ?_⟩
        obtain rfl : e = e' := Option.some.inj he'
        refine ⟨⟨[], s, rest, p, rfl, rfl, hAct, ?_⟩, ?_⟩
        · rw [hSame, ← hStage]
          rfl
        · rw [hSame]
          exact hExits
      -- passed, it is where the rest of the row begins
      | @passes q hPassed =>
        obtain ⟨hStays, hLast, hStops⟩ := ih rfl hPassed
        simp only [advance, hAct]
        refine ⟨hStays, fun h => ?_, fun e he => ⟨?_, (hStops e he).2⟩⟩
        · rw [List.map_cons, List.getLastD_cons]
          exact hLast h
        · obtain ⟨before, s', rest', p', hSplit, hBefore, hStop, hReached⟩ := (hStops e he).1
          -- the stages before the one that stopped it are one more
          refine ⟨s :: before, s', rest', p', by rw [hSplit, List.cons_append], ?_, hStop, ?_⟩
          · simp only [advance, hAct]
            exact hBefore
          · rw [List.map_cons, List.getLastD_cons]
            exact hReached

/-! ## The stages one by one -/

section Stages

variable {response : Response} {context : Context} {processing : ProcessConfig} {clock : Clock}

/-- A stage that only checks follows an earlier stage if its errors belong there. -/
theorem follows_check {passed reached : Stage} {test : Progress → Except Error Unit}
    (hLater : passed.rank ≤ reached.rank)
    (hStops : ∀ p e, test p = .error e → passed ∈ e.exits)
    (hSubmitted : ∀ p, p.stage = passed → Staged response p → test p = .ok () →
      Stage.rank .submissionPresent ≤ reached.rank → ∃ s, response.submission = some s) :
    Follows response passed (.check reached test) := by
  intro p hStage hStaged
  simp only [StageAction.check]
  cases hTest : test p with
  -- a check changes nothing, so the stage before it still says what is there
  | error e => exact .stops hStage hStaged (hStops p e hTest)
  | ok _ =>
    refine .passes (hStaged.mono ?_ (hSubmitted p hStage hStaged hTest))
    rw [hStage]
    exact hLater

/-- After the submission was found, no check has to look for it again. -/
theorem follows_check_submitted {passed reached : Stage} {test : Progress → Except Error Unit}
    (hFound : Stage.rank .submissionPresent ≤ passed.rank) (hLater : passed.rank ≤ reached.rank)
    (hStops : ∀ p e, test p = .error e → passed ∈ e.exits) :
    Follows response passed (.check reached test) := by
  refine follows_check hLater hStops fun p hStage hStaged _ _ => hStaged.submitted ?_
  rw [hStage]
  exact hFound

/-- A mark stops nothing. -/
theorem follows_mark (passed reached : Stage) (hFound : Stage.rank .submissionPresent ≤ passed.rank)
    (hLater : passed.rank ≤ reached.rank) : Follows response passed (.mark reached) :=
  follows_check_submitted hFound hLater fun p e h => by cases h

/-- The holder's error stops a run that has passed nothing. -/
theorem follows_checkError :
    Follows response .initial (.check .errorChecked fun _ => checkError response) := by
  refine follows_check (by decide) (fun p e h => ?_) (fun _ _ _ _ hRank => absurd hRank (by decide))
  unfold checkError at h
  split at h
  · cases h
  -- the only error is that of the holder
  · cases h
    exact List.mem_singleton_self _

/-- The state stops a run that has no error from the holder. -/
theorem follows_checkState :
    Follows response .errorChecked
      (.check .stateChecked fun _ => checkState response context processing) := by
  refine follows_check (by decide) (fun p e h => ?_) (fun _ _ _ _ hRank => absurd hRank (by decide))
  unfold checkState at h
  split at h
  · cases h
  · cases h
    exact List.mem_singleton_self _

/-- The submission stops a run where it is missing, and is there from then on. -/
theorem follows_checkSubmission :
    Follows response .stateChecked (.check .submissionPresent fun _ => checkSubmission response) := by
  refine follows_check (by decide) (fun p e h => ?_) (fun p _ _ h _ => ?_)
  · unfold checkSubmission at h
    split at h
    · cases h
    · cases h
      exact List.mem_singleton_self _
  -- passing it, there is the submission that it has found
  · unfold checkSubmission at h
    split at h
    · next s hs => exact ⟨s, hs⟩
    · cases h

/-- A token that cannot be taken apart stops a run before all tokens are. -/
theorem exits_of_presentOne {t : VpToken} {e : Error} (h : presentOne context t = .error e) :
    .submissionPresent ∈ e.exits := by
  unfold presentOne at h
  split at h
  -- an object is not supported, at this stage among others
  · cases h
    exact List.mem_cons_self
  · split at h
    · next cause _ =>
      obtain rfl := Except.error.inj h
      -- an envelope that does not open has failed at the step, all else is malformed
      rcases cause.error_at .tokenExtraction with ⟨text, hFailed⟩ | hMalformed
      · rw [hFailed]
        exact List.mem_singleton_self _
      · rw [hMalformed]
        exact List.mem_cons_self
    · cases h

/-- Tokens that were just taken apart hold no credentials yet, and read as themselves again. -/
theorem presented_of_present {tokens : List VpToken} {vps : List Presentation}
    (h : (present context tokens).2 = .ok vps) :
    ∀ vp ∈ vps, vp.credentials = [] ∧ Token.ofJws vp.token.raw = .ok vp.token.reread := by
  intro vp hvp
  have hEach := (present_eq_ok_iff context).mp h
  obtain ⟨i, hi, rfl⟩ := List.getElem_of_mem hvp
  obtain ⟨text, t, -, hUnwrap, hNew⟩ :=
    presentOne_eq_ok_iff.mp (hEach.get (hEach.length_eq ▸ hi) hi)
  have hVp : vps[i] = ⟨t, []⟩ := hNew
  rw [hVp]
  exact ⟨rfl, Token.ofJws_raw_of_unwrap hUnwrap⟩

/-- Without a token to take apart the parameter is missing. -/
theorem extractTokens_of_none {p : Progress}
    (h : response.vpToken = none ∨ response.vpToken = some []) :
    extractTokens response context p = (p, some .missingVpToken) := by
  unfold extractTokens
  rcases h with h | h
  · rw [h]
  · rw [h]

/-- Taking tokens apart leaves all presentations or none. -/
theorem follows_extractTokens :
    Follows response .submissionPresent ⟨.tokensExtracted, extractTokens response context⟩ := by
  intro p hStage hStaged
  show Lands response _ _ (extractTokens response context p)
  by_cases hNone : response.vpToken = none ∨ response.vpToken = some []
  · rw [extractTokens_of_none hNone]
    exact .stops hStage hStaged (List.mem_singleton_self _)
  · obtain ⟨tokens, hv, hNonempty⟩ : ∃ tokens, response.vpToken = some tokens ∧ tokens ≠ [] := by
      cases hv : response.vpToken with
      | none => exact absurd (Or.inl hv) hNone
      | some tokens => exact ⟨tokens, rfl, fun h => hNone (Or.inr (by rw [hv, h]))⟩
    rw [extractTokens_eq hv hNonempty]
    cases hPresent : present context tokens with
    | mk opened result =>
      cases result with
      | error e =>
        -- what was taken apart before the error is dropped, only the opened envelopes are told
        refine .stops hStage ⟨hStaged.submitted, hStaged.unpresented, hStaged.unextracted,
          hStaged.undisclosed, hStaged.reread⟩ ?_
        have hFirst := (present_eq_error_iff context).mp (congrArg Prod.snd hPresent)
        obtain ⟨t, -, hError⟩ := List.exists_of_findSome?_eq_some hFirst
        cases hOne : presentOne context t with
        | ok vp => simp [presentError, hOne] at hError
        | error e' =>
          -- it is the error of one of the tokens
          obtain rfl : e' = e := by simpa [presentError, hOne] using hError
          exact exits_of_presentOne hOne
      | ok vps =>
        -- all were taken apart: the presentations are new, and their tokens read again
        have hNew := presented_of_present (congrArg Prod.snd hPresent)
        refine .passes
          { submitted := fun _ => hStaged.submitted (by rw [hStage])
            unpresented := fun hRank => absurd hRank (Nat.lt_irrefl _)
            unextracted := fun _ vp hvp => (hNew vp hvp).1
            undisclosed := fun _ vp hvp vc hvc => ?_
            reread := fun vp hvp => (hNew vp hvp).2 }
        rw [(hNew vp hvp).1] at hvc
        exact absurd hvc List.not_mem_nil

/-- The integrity of presentations stops a run where they were taken apart. -/
theorem follows_verifyPresentations :
    Follows response .tokensExtracted
      (.check .vpsIntegrityChecked (verifyPresentations context processing clock)) := by
  refine follows_check_submitted (by decide) (by decide) fun p e h => ?_
  unfold verifyPresentations at h
  split at h
  · cases h
  · obtain ⟨vp, -, hError⟩ := mem_of_firstError h
    rw [Error.exits_of_step (step_of_verifyPresentation hError)]
    exact List.mem_singleton_self _

/-- No credential has disclosures, and the token reads as itself again. -/
def Fresh (vp : Presentation) : Prop :=
  (∀ vc ∈ vp.credentials, vc.disclosures = []) ∧ Token.ofJws vp.token.raw = .ok vp.token.reread

/-- Extraction gives credentials without disclosures, and none where it fails. -/
theorem Fresh.extractFrom {vp : Presentation} (h : Fresh vp) (s : Submission) :
    Fresh (extractFrom s vp).1 := by
  unfold Run.extractFrom
  cases hExtract : Presentation.extract s vp.token with
  -- the presentation stays as it is
  | error e => exact h
  | ok credentials =>
    obtain ⟨-, metadata, -, rfl⟩ := (Presentation.extract_eq_ok_iff h.2).mp hExtract
    refine ⟨fun vc hvc => ?_, h.2⟩
    rw [List.mem_singleton.mp hvc]

/-- With a submission the credentials are extracted presentation by presentation. -/
theorem extractCredentials_eq {s : Submission} (hs : response.submission = some s) (p : Progress) :
    extractCredentials response p =
      ({ p with presentations := (updateEach (extractFrom s) p.presentations).1 },
        (updateEach (extractFrom s) p.presentations).2) := by
  unfold extractCredentials
  rw [hs]

/-- Extraction may stop in the middle, and nothing that it has made by then has disclosures. -/
theorem follows_extractCredentials :
    Follows response .vpsIntegrityChecked ⟨.vcsExtracted, extractCredentials response⟩ := by
  intro p hStage hStaged
  obtain ⟨s, hs⟩ := hStaged.submitted (by rw [hStage]; decide)
  -- a batch may be left in the middle: some presentations have their credentials then, all are fresh
  have hFresh : ∀ vp ∈ (updateEach (extractFrom s) p.presentations).1, Fresh vp := by
    refine forall_updateEach (fun vp h => h.extractFrom s) fun vp hvp => ?_
    exact ⟨hStaged.undisclosed (Or.inl (by rw [hStage]; decide)) vp hvp, hStaged.reread vp hvp⟩
  -- so whether it is passed or not, the same can be said of what is there
  have hAfter : ∀ stage, Stage.rank .vpsIntegrityChecked ≤ Stage.rank stage → Staged response
      ⟨stage, (updateEach (extractFrom s) p.presentations).1, p.opened⟩ :=
    fun _ hRank => .of_late hRank ⟨s, hs⟩ (fun _ vp hvp => (hFresh vp hvp).1) fun vp hvp =>
      (hFresh vp hvp).2
  show Lands response _ _ (extractCredentials response p)
  rw [extractCredentials_eq hs]
  cases hEnd : (updateEach (extractFrom s) p.presentations).2 with
  | none => exact .passes (hAfter .vcsExtracted (by decide))
  | some e =>
    refine .stops hStage (hAfter p.stage (by rw [hStage])) ?_
    obtain ⟨vp, hvp, hStop⟩ := mem_of_updateEach hEnd
    unfold extractFrom at hStop
    cases hExtract : Presentation.extract s vp.token with
    | ok credentials => simp [hExtract] at hStop
    -- the token reads as itself, which leaves errors of the submission and the metadata
    | error e' =>
      obtain rfl : e' = e := by simpa [hExtract] using hStop
      rcases Presentation.error_of_extract (hStaged.reread vp hvp) hExtract with
        ⟨t, rfl⟩ | ⟨feature, rfl⟩
      · exact List.mem_cons_of_mem _ List.mem_cons_self
      · exact List.mem_cons_of_mem _ List.mem_cons_self

/-- The integrity of credentials stops a run where they were extracted. -/
theorem follows_verifyCredentials :
    Follows response .vcsExtracted
      (.check .vcsIntegrityChecked (verifyCredentials context processing clock)) := by
  refine follows_check_submitted (by decide) (by decide) fun p e h => ?_
  unfold verifyCredentials at h
  split at h
  · cases h
  · obtain ⟨vc, -, hError⟩ := mem_of_firstError h
    rw [Error.exits_of_step (step_of_verifyCredential hError)]
    exact List.mem_singleton_self _

/-- All errors of disclosures belong to the stage before them. -/
theorem exits_of_discloseIn {limit : Nat} {vc : Credential} {e : Error}
    (h : (discloseIn limit vc).2 = some e) : .vcsIntegrityChecked ∈ e.exits := by
  unfold discloseIn at h
  cases hValidate : Disclosure.validate limit vc.token with
  | ok ds => simp [hValidate] at h
  | error e' =>
    obtain rfl : e' = e := by simpa [hValidate] using h
    rcases Disclosure.error_of_validate hValidate with
      ⟨reason, rfl⟩ | ⟨detail, rfl⟩ | rfl | ⟨name, rfl⟩ | ⟨levels, rfl⟩
    · exact List.mem_singleton_self _
    · exact List.mem_singleton_self _
    · exact List.mem_singleton_self _
    · exact List.mem_cons_self
    · exact List.mem_singleton_self _

/-- Disclosures may stop in the middle too, and from here on nothing is said of them. -/
theorem follows_disclose :
    Follows response .vcsIntegrityChecked ⟨.selectiveDisclosuresChecked, disclose context⟩ := by
  intro p hStage hStaged
  -- from here on disclosures may be there, and the tokens stay as they are
  have hAfter : ∀ stage, Stage.rank .vcsIntegrityChecked ≤ Stage.rank stage → Staged response
      ⟨stage, (updateEach (discloseAll context) p.presentations).1, p.opened⟩ := by
    intro stage hRank
    have hFound : ∃ s, response.submission = some s := hStaged.submitted (by rw [hStage]; decide)
    have hLate : Stage.rank .vpsIntegrityChecked ≤ stage.rank := Nat.le_trans (by decide) hRank
    refine .of_late hLate hFound (fun hBefore => ?_) (forall_updateEach (fun vp h => h) hStaged.reread)
    -- neither of the two stages that speak of disclosures is one that comes after
    rcases hBefore with hBefore | hOnly
    · exact absurd (Nat.lt_of_le_of_lt hRank hBefore) (by decide)
    · obtain rfl : stage = .extractedOnly := hOnly
      exact absurd hRank (by decide)
  show Lands response _ _ ((⟨p.stage, (updateEach (discloseAll context) p.presentations).1, p.opened⟩,
    (updateEach (discloseAll context) p.presentations).2) : Progress × Option Error)
  cases hEnd : (updateEach (discloseAll context) p.presentations).2 with
  | none => exact .passes (hAfter .selectiveDisclosuresChecked (by decide))
  | some e =>
    refine .stops hStage (hAfter p.stage (by rw [hStage])) ?_
    -- the error is one of a credential in one of the presentations
    obtain ⟨vp, -, hStop⟩ := mem_of_updateEach hEnd
    obtain ⟨vc, -, hCredential⟩ := mem_of_updateEach (show (updateEach _ vp.credentials).2 = _ from hStop)
    exact exits_of_discloseIn hCredential

/-- Holder binding stops a run after the disclosures. -/
theorem follows_verifyBindings :
    Follows response .selectiveDisclosuresChecked
      (.check .holderBindingChecked (verifyBindings context processing clock)) := by
  refine follows_check_submitted (by decide) (by decide) fun p e h => ?_
  obtain ⟨vc, -, hError⟩ := mem_of_firstError h
  -- it names the step, or it is about what is read on the way
  rcases HolderBinding.error_of_verify hError with hStep | ⟨t, rfl⟩ | ⟨name, rfl⟩
  · rw [Error.exits_of_step hStep]
    exact List.mem_singleton_self _
  · exact List.mem_cons_of_mem _ (List.mem_cons_of_mem _ List.mem_cons_self)
  · exact List.mem_cons_of_mem _ List.mem_cons_self

/-! ## All stages -/

/-- The stages up to the extraction follow each other. -/
theorem extractionStages_row :
    Row response .initial (extractionStages response context processing clock) :=
  .cons follows_checkError <| .cons follows_checkState <| .cons follows_checkSubmission <|
    .cons follows_extractTokens <| .cons follows_verifyPresentations <|
      .cons follows_extractCredentials <| .nil _

/-- And so do those of a full validation, behind the extraction. -/
theorem validationStages_row :
    Row response .vcsExtracted (validationStages context processing clock) :=
  .cons follows_verifyCredentials <| .cons follows_disclose <| .cons follows_verifyBindings <|
    .cons (follows_mark .holderBindingChecked .done (by decide) (by decide)) <| .nil _

/-- After the extraction both types of processing go on in order. -/
theorem laterStages_row :
    Row response .vcsExtracted
      (match processing.type with
      | .extractOnly => [.mark .extractedOnly]
      | .fullValidation => validationStages context processing clock) := by
  cases processing.type with
  | extractOnly => exact .cons (follows_mark .vcsExtracted .extractedOnly (by decide) (by decide)) (.nil _)
  | fullValidation => exact validationStages_row

/-- All stages of a run follow each other from the start. -/
theorem stages_row : Row response .initial (stages response context processing clock) :=
  extractionStages_row.append laterStages_row

end Stages

/-! ## What calls leave -/

/-- The stage at the end of a run that nothing stopped. -/
def lastStage : ProcessType → Stage
  | .extractOnly => .extractedOnly
  | .fullValidation => .done

/-- The last stage of the row is the last stage of the type of processing. -/
theorem stages_lastStage (response : Response) (context : Context) (processing : ProcessConfig)
    (clock : Clock) :
    ((stages response context processing clock).map StageAction.reached).getLastD .initial =
      lastStage processing.type := by
  unfold stages
  cases processing.type <;> rfl

/-- **The stage machine**: whatever calls are made to a run, its progress is the one of the first. If that
gave a record, the run is at its last stage; if it gave an error, the run is at the last stage that was
passed, which is one at which this error stops runs. In both cases what is there is what belongs to the
stage. Further calls are refused and change nothing. -/
theorem process_progress (response : Response) (context : Context) (processing : ProcessConfig)
    (first : Int64) (later : List Int64) :
    let result := ((Run.new response context processing).process first).1
    let run := (Run.new response context processing).after (first :: later)
    (∀ record, result = .ok record → run.progress.stage = lastStage processing.type) ∧
    (∀ e, result = .error e →
      StoppedIn (stages response context processing (clockAt context first)) .start run.progress e ∧
        run.progress.stage ∈ e.exits ∧ e.step? ≠ some .errorCheck ∧
        e.step? ≠ some .submissionCheck ∧ e.step? ≠ some .vcExtraction) ∧
    Staged response run.progress ∧ ∀ now, run.process now = (.error .alreadyProcessed, run) := by
  intro result run
  have hProgress : run.progress =
      (advance (stages response context processing (clockAt context first)) .start).1 :=
    congrArg Run.progress (after_cons _ first later)
  obtain ⟨hStaged, hLast, hStops⟩ := stages_row.advance_staged rfl (Staged.start response)
  rw [← hProgress] at hStaged hLast hStops
  refine ⟨fun record h => ?_, fun e h => ?_, hStaged, fun now => ?_⟩
  -- nothing has stopped the row, so the run is at its end
  · obtain ⟨p, hAdvance, -⟩ := process_new_ok_iff.mp h
    rw [hLast (congrArg Prod.snd hAdvance)]
    exact stages_lastStage response context processing _
  -- the row tells where it was stopped, and the stage which steps this cannot be
  · obtain ⟨hStopped, hExits⟩ := hStops e (process_new_error_iff.mp h)
    exact ⟨hStopped, hExits, Error.step_of_exits hExits⟩
  · -- the first call has used the run up
    refine process_of_processed ?_ now
    show ((Run.new response context processing).after (first :: later)).processed = true
    rw [after_cons]
    exact processed_process _ first

/-! ## A batch that stops in the middle -/

/-- A context in which no envelope can be opened. -/
def sealedContext : Context where
  sessionId := ""
  callbackId := ""
  sequence := 1
  expectedState := none
  nonce := none
  resolver := { holderKey := fun _ => .error (.unresolved "unknown holder") }
  decrypter := some fun _ => .error "no key"
  config := {}

/-- A response with a signed token before one in an envelope. -/
def sealedResponse : Response where
  raw := []
  idToken := none
  vpToken := some [.text "e30.e30.~", .text "a.b.c.d.e"]
  submission := some ⟨"answer", "request", []⟩
  state := none
  error := none
  errorDescription := none
  errorUri := none

/-- The signed token was taken apart, and still there are no presentations. -/
theorem process_progress_sealed :
    ((Run.new sealedResponse sealedContext {}).process 0).1 =
        .error (.failed .tokenExtraction "no key") ∧
      ((Run.new sealedResponse sealedContext {}).after [0, 1]).progress.stage = .submissionPresent ∧
      ((Run.new sealedResponse sealedContext {}).after [0, 1]).progress.presentations = [] := by
  have hResult : ((Run.new sealedResponse sealedContext {}).process 0).1 =
      .error (.failed .tokenExtraction "no key") := by rfl
  obtain ⟨-, hStops, hStaged, -⟩ := process_progress sealedResponse sealedContext {} 0 [1]
  -- the error alone tells the stage, and the stage that nothing was kept
  have hStage := List.mem_singleton.mp (hStops _ hResult).2.1
  exact ⟨hResult, hStage, hStaged.unpresented (by rw [hStage]; decide)⟩

end Run

end PresentationVerifier
