import PresentationVerifier.Proofs.Calls
import PresentationVerifier.Proofs.Journey

/-!
# Verdicts and outcomes

How a response ended is told twice: by the verdict of the record that its sender gets, and by the outcome
on the session, which others poll. A run ends in one of four ways (`Ends`), and in each of them both say
the same.

Main results:

* `conclude_ends` — processing a response ends in one of the four ways.
* `Ends.agree` — in each of them verdict and outcome agree.
* `respond_tiers_agree` — so they do for a response that was verified, in any store.
-/

namespace PresentationVerifier

/-! ## Stores that keep what is stored -/

/-- A store gives the status that was set last. -/
def SessionStore.Remembers {σ : Type} (store : SessionStore σ) : Prop :=
  ∀ id status sessions sessions', store.updateStatus id status sessions = (.ok (), sessions') →
    ∃ session, (store.get id sessions').1 = .ok session ∧ session.status = status

open MemoryStore in
/-- The store in memory gives the status that was set last. -/
theorem MemoryStore.operations_remembers : operations.Remembers := by
  intro id status m m' h
  cases hGet : m.get? id with
  -- an unknown session has no status to be set
  | none =>
    simp only [operations, withSession, hGet] at h
    cases h
  | some session =>
    rw [updateStatus_of_known hGet] at h
    obtain rfl := (Prod.mk.inj h).2
    have hStored := get?_setStatus_self hGet status
    exact ⟨_, congrArg Prod.fst (get_of_known hStored), rfl⟩

/-! ## The ways in which a run ends -/

/-- A run with this result ends with the record and the outcome. -/
inductive Ends (run : Except Error Record) (header : RecordHeader) (submission : Option Submission) :
    Record → Outcome → Prop where
  /-- Every check passed. -/
  | verified {record : Record} (hRun : run = .ok record) (hVerdict : record.verdict = .verified) :
      Ends run header submission record .success
  /-- There was nothing to check. -/
  | extracted {record : Record} (hRun : run = .ok record) (hVerdict : record.verdict = .extractedOnly) :
      Ends run header submission record (.failure Verifier.unverifiedReason)
  /-- A check did not pass. -/
  | rejected {step : Step} {reason : Reason} (hRun : run = .error (.rejected step reason)) :
      Ends run header submission (Record.failed header submission (.rejected step reason))
        (.failure reason.message)
  /-- The response could not be processed. -/
  | failed {e : Error} (hRun : run = .error e) (hRejection : e.isRejection = false) :
      Ends run header submission (Record.failed header submission e) (.error e)

/-- The record of a run is that of its context and response, has no error, and has a presentation. -/
theorem Run.process_new_record {response : Response} {context : Context} {processing : ProcessConfig}
    {now : Int64} {record : Record}
    (h : ((Run.new response context processing).process now).1 = .ok record) :
    record.header = context.recordHeader ∧ record.verdict = verdictOf processing.type ∧
      record.error = none ∧ record.submission = response.submission ∧ record.presentations ≠ [] := by
  obtain ⟨p, hAdvance, rfl⟩ := process_new_ok_iff.mp h
  obtain ⟨-, -, s, tokens, vps, -, -, hNonempty, hEach, -, hLeft⟩ := advance_stages_ok hAdvance
  refine ⟨rfl, rfl, rfl, rfl, ?_⟩
  -- there was at least one token, and each has left a presentation
  show p.presentations.map Record.ofPresentation ≠ []
  rw [hLeft, List.map_map, Ne, List.map_eq_nil_iff]
  rintro rfl
  exact hNonempty (List.forall₂_nil_right_iff.mp hEach)

/-- Processing a response ends in one of the four ways. -/
theorem Verifier.conclude_ends (now : Int64) (context : Context) (response : Response)
    (processing : ProcessConfig) :
    Ends ((Run.new response context processing).process now).1 context.recordHeader response.submission
      (conclude now context response processing).1 (conclude now context response processing).2 := by
  unfold conclude
  cases hRun : ((Run.new response context processing).process now).1 with
  -- without an error the type of processing decides between the first two ways
  | ok record =>
    have hVerdict := (Run.process_new_record hRun).2.1
    cases hType : processing.type with
    | fullValidation =>
      rw [hType] at hVerdict
      simp only [hVerdict]
      exact .verified rfl hVerdict
    | extractOnly =>
      rw [hType] at hVerdict
      simp only [hVerdict]
      exact .extracted rfl hVerdict
  | error e =>
    -- what the record calls a rejection is what has a reason
    cases e with
    | rejected step reason => exact .rejected rfl
    | _ => exact .failed rfl rfl

/-! ## Agreement -/

/-- A record and an outcome say the same about a run with the given result. -/
structure TiersAgree (run : Except Error Record) (record : Record) (outcome : Outcome) : Prop where
  success : record.verdict = .verified ↔ outcome = .success
  failure : record.verdict = .extractedOnly ∨ record.verdict = .rejected ↔
    ∃ reason, outcome = .failure reason
  error : record.verdict = .failed ↔ ∃ cause, outcome = .error cause
  reason : record.verdict = .rejected →
    ∃ step reason, run = .error (.rejected step reason) ∧ outcome = .failure reason.message
  cause : record.verdict = .failed → ∃ e, run = .error e ∧ outcome = .error e
  errorText : record.error.isSome = true ↔ record.verdict = .rejected ∨ record.verdict = .failed
  presentations : record.presentations = [] ↔ record.verdict = .rejected ∨ record.verdict = .failed

/-- However a run ends, verdict and outcome agree. -/
theorem Ends.agree {run : Except Error Record} {header : RecordHeader} {submission : Option Submission}
    {record : Record} {outcome : Outcome} (h : Ends run header submission record outcome)
    (hOk : ∀ r, run = .ok r → r.error = none ∧ r.presentations ≠ []) :
    TiersAgree run record outcome := by
  cases h with
  | verified hRun hVerdict | extracted hRun hVerdict =>
    -- a record of a run without an error; the two verdicts differ in the outcome only
    obtain ⟨hError, hSome⟩ := hOk _ hRun
    exact
      { success := by simp [hVerdict]
        failure := by simp [hVerdict]
        error := by simp [hVerdict]
        reason := by simp [hVerdict]
        cause := by simp [hVerdict]
        errorText := by simp [hVerdict, hError]
        presentations := by simp [hVerdict, hSome] }
  | @rejected step reason hRun =>
    have hVerdict : (Record.failed header submission (.rejected step reason)).verdict = .rejected := rfl
    exact
      { success := by simp [hVerdict]
        failure := by simp [hVerdict]
        error := by simp [hVerdict]
        reason := fun _ => ⟨step, reason, hRun, rfl⟩
        cause := by simp [hVerdict]
        errorText := by simp [Record.failed]
        presentations := by simp [Record.failed] }
  | @failed e hRun hRejection =>
    -- an error without a reason gives the verdict of a failure
    have hVerdict : (Record.failed header submission e).verdict = .failed := by
      simp [Record.failed, hRejection]
    exact
      { success := by simp [hVerdict]
        failure := by simp [hVerdict]
        error := by simp [hVerdict]
        reason := by simp [hVerdict]
        cause := fun _ => ⟨e, hRun, rfl⟩
        errorText := by simp [Record.failed, hRejection]
        presentations := by simp [Record.failed, hRejection] }

/-- A record of an error keeps the header and the submission too. -/
theorem Ends.kept {run : Except Error Record} {header : RecordHeader} {submission : Option Submission}
    {record : Record} {outcome : Outcome} (h : Ends run header submission record outcome)
    (hOk : ∀ r, run = .ok r → r.header = header ∧ r.submission = submission) :
    record.header = header ∧ record.submission = submission := by
  cases h with
  | verified hRun _ | extracted hRun _ => exact hOk _ hRun
  | rejected _ => exact ⟨rfl, rfl⟩
  | failed _ _ => exact ⟨rfl, rfl⟩

/-- Only a run with a verified record ends in success. -/
theorem Ends.ok_of_success {run : Except Error Record} {header : RecordHeader}
    {submission : Option Submission} {record : Record}
    (h : Ends run header submission record .success) :
    run = .ok record ∧ record.verdict = .verified := by
  cases h with
  | verified hRun hVerdict => exact ⟨hRun, hVerdict⟩

namespace Verifier

variable {σ : Type} (v : Verifier σ)

/-- **Agreement**: a record that is given for a response says the same as the outcome that was set on the
session, and it is the record of this response in this session. -/
theorem respond_tiers_agree {now : Int64} {id : SessionId} {response : Response}
    {processing : ProcessConfig} {s s' : State σ} {record : Record}
    (h : v.respond now id response processing s = (.ok record, s')) :
    ∃ session sessions outcome,
      v.store.beginResponse id s.sessions = (.ok session, sessions) ∧
      v.store.updateStatus id (.complete outcome) sessions = (.ok (), s'.sessions) ∧
      (v.store.Remembers → (v.poll id s').1 = .ok (.complete outcome)) ∧
      TiersAgree ((Run.new response (v.context id session (s.sequence + 1)) processing).process now).1
        record outcome ∧
      record.submission = response.submission ∧ record.header.sessionId = id.text ∧
      record.header.callbackId = session.callbackId ∧
      (processing.type = .extractOnly → outcome ≠ .success) := by
  obtain ⟨session, sessions, outcome, hBegin, hConclude, hUpdate⟩ := v.respond_eq_ok h
  refine ⟨session, sessions, outcome, hBegin, hUpdate, ?_, ?_⟩
  · intro hRemembers
    -- the status is asked for in the store that the response has left
    obtain ⟨stored, hGet, hStatus⟩ := hRemembers _ _ _ _ hUpdate
    simp [poll, hGet, Except.map, hStatus]
  · -- the outcome that was stored is the one that the run ended with
    have hEnds := conclude_ends now (v.context id session (s.sequence + 1)) response processing
    rw [hConclude] at hEnds
    have hAgree := hEnds.agree fun r hr =>
      ⟨(Run.process_new_record hr).2.2.1, (Run.process_new_record hr).2.2.2.2⟩
    obtain ⟨hHeader, hSubmission⟩ := hEnds.kept fun r hr =>
      ⟨(Run.process_new_record hr).1, (Run.process_new_record hr).2.2.2.1⟩
    refine ⟨hAgree, hSubmission, by rw [hHeader]; rfl, by rw [hHeader]; rfl, ?_⟩
    -- success is a verified record, and the verdict follows from the type of processing
    rintro hType rfl
    obtain ⟨hRun, hVerdict⟩ := hEnds.ok_of_success
    rw [(Run.process_new_record hRun).2.1, hType] at hVerdict
    cases hVerdict

/-! ## A stray response -/

/-- One session that waits for its response, before any response was numbered. -/
def oneWaiting : State MemoryStore :=
  ⟨⟨[.new ⟨7⟩ (some "state") none "callback"]⟩, 0⟩

/-- It is rejected, and the session has failed. -/
theorem respond_tiers_agree_stray :
    ∃ record s', keylessVerifier.respond 0 ⟨7⟩ emptyResponse {} oneWaiting = (.ok record, s') ∧
      record.verdict = .rejected ∧
      ∃ reason, (keylessVerifier.poll ⟨7⟩ s').1 = .ok (.complete (.failure reason)) := by
  obtain ⟨record, s', h, hVerdict⟩ : ∃ record s',
      keylessVerifier.respond 0 ⟨7⟩ emptyResponse {} oneWaiting = (.ok record, s') ∧
        record.verdict = .rejected := ⟨_, _, rfl, rfl⟩
  obtain ⟨session, sessions, outcome, -, -, hPoll, hAgree, -⟩ := keylessVerifier.respond_tiers_agree h
  obtain ⟨reason, rfl⟩ := hAgree.failure.mp (Or.inr hVerdict)
  exact ⟨record, s', h, hVerdict, reason, hPoll MemoryStore.operations_remembers⟩

end Verifier

end PresentationVerifier
