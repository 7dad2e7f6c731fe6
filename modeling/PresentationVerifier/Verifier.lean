import PresentationVerifier.Run
import PresentationVerifier.Session.Store

/-!
# The verifier

A verifier starts sessions, tells how far they are, and verifies the response to a session. The last is
done in four steps, between which other calls may run: the store accepts the response (`accept`), the
record gets its number (`nextNumber`), the response is processed (`conclude`), and the outcome is stored
(`settle`). What the response brings, rejections included, ends up in a record and on the session;
errors are left to the store.
-/

namespace PresentationVerifier

/-! ## Errors -/

/-- What a store was asked for when it failed. -/
inductive VerifierError where
  | notInitiated (cause : StoreError)
  | notAccepted (cause : StoreError)
  | notSettled (cause : StoreError)
deriving DecidableEq, Repr

namespace VerifierError

/-- The text of a verifier error. -/
def message : VerifierError → String
  | notInitiated _ => "failed to store session"
  | notAccepted _ => "session cannot accept a response"
  | notSettled _ => "failed to update session status"

/-- What the store said. -/
def cause : VerifierError → StoreError
  | notInitiated cause => cause
  | notAccepted cause => cause
  | notSettled cause => cause

end VerifierError

/-! ## Verifiers -/

/-- A verifier whose sessions are kept in a store with contents `σ`. -/
structure Verifier (σ : Type) where
  resolver : KeyResolver
  decrypter : Option Decrypter
  store : SessionStore σ
  config : Config

namespace Verifier

/-- What changes while a verifier works: the sessions, and how many responses were numbered. -/
structure State (σ : Type) where
  sessions : σ
  sequence : UInt64

/-- The reason of the failure that an extraction ends in. -/
def unverifiedReason : String := "credentials were extracted without verification"

/-- The outcome that a record of a run without an error stands for. -/
def outcomeOf : Verdict → Outcome
  | .verified => .success
  | _ => .failure unverifiedReason

variable {σ : Type} (v : Verifier σ)

/-- Starts a session under a fresh identifier. -/
def initiate (id : SessionId) (state nonce : Option String) (callbackId : String) (s : State σ) :
    Except VerifierError Unit × State σ :=
  let (result, sessions) := v.store.initiate (Session.new id state nonce callbackId) s.sessions
  (result.mapError .notInitiated, { s with sessions := sessions })

/-- The status of a session. -/
def poll (id : SessionId) (s : State σ) : Except StoreError Status × State σ :=
  let (result, sessions) := v.store.get id s.sessions
  (result.map Session.status, { s with sessions := sessions })

/-! ## The four steps of a response -/

/-- The store lets a response through to its session. -/
def accept (id : SessionId) (s : State σ) : Except VerifierError Session × State σ :=
  let (result, sessions) := v.store.beginResponse id s.sessions
  (result.mapError .notAccepted, { s with sessions := sessions })

section Accept

variable {v} {id : SessionId} {s : State σ} {sessions : σ}

/-- A response that the store lets through is accepted with the session that the store gives. -/
theorem accept_of_ok {session : Session}
    (h : v.store.beginResponse id s.sessions = (.ok session, sessions)) :
    v.accept id s = (.ok session, { s with sessions := sessions }) := by
  rw [accept, h]
  rfl

/-- A response that the store refuses is not accepted, whatever the store has changed. -/
theorem accept_of_error {e : StoreError}
    (h : v.store.beginResponse id s.sessions = (.error e, sessions)) :
    v.accept id s = (.error (.notAccepted e), { s with sessions := sessions }) := by
  rw [accept, h]
  rfl

end Accept

/-- The number of the next record, which counts from one. -/
def nextNumber (s : State σ) : UInt64 × State σ :=
  (s.sequence + 1, { s with sequence := s.sequence + 1 })

/-- What the response to a session is processed against. -/
def context (id : SessionId) (session : Session) (number : UInt64) : Context where
  sessionId := id.text
  callbackId := session.callbackId
  sequence := number
  expectedState := session.state
  nonce := session.nonce
  resolver := v.resolver
  decrypter := v.decrypter
  config := v.config

section Context

variable (id : SessionId) (session : Session) (number : UInt64)

/-- The expected state, the nonce and the callback identifier are those of the session. -/
@[simp] theorem context_session :
    (v.context id session number).expectedState = session.state ∧
      (v.context id session number).nonce = session.nonce ∧
      (v.context id session number).callbackId = session.callbackId :=
  ⟨rfl, rfl, rfl⟩

/-- How far the session is has no part in what its response is processed against. -/
@[simp] theorem context_status (status : Status) :
    v.context id { session with status := status } number = v.context id session number := rfl

end Context

/-- Processes a response. Every error becomes a record too. -/
def conclude (now : Int64) (context : Context) (response : Response) (processing : ProcessConfig) :
    Record × Outcome :=
  match ((Run.new response context processing).process now).1 with
  | .ok record => (record, outcomeOf record.verdict)
  | .error e => (Record.failed context.recordHeader response.submission e, Outcome.ofError e)

/-- Stores the outcome of a session. -/
def settle (id : SessionId) (outcome : Outcome) (s : State σ) :
    Except VerifierError Unit × State σ :=
  let (result, sessions) := v.store.updateStatus id (.complete outcome) s.sessions
  (result.mapError .notSettled, { s with sessions := sessions })

section Settle

variable {v} {id : SessionId} {outcome : Outcome} {s : State σ} {sessions : σ}

/-- A session whose status the store sets is settled. -/
theorem settle_of_ok
    (h : v.store.updateStatus id (.complete outcome) s.sessions = (.ok (), sessions)) :
    v.settle id outcome s = (.ok (), { s with sessions := sessions }) := by
  rw [settle, h]
  rfl

/-- A session whose status the store does not set is not settled. -/
theorem settle_of_error {e : StoreError}
    (h : v.store.updateStatus id (.complete outcome) s.sessions = (.error e, sessions)) :
    v.settle id outcome s = (.error (.notSettled e), { s with sessions := sessions }) := by
  rw [settle, h]
  rfl

end Settle

/-! ## Responding -/

/-- Verifies the response to a session. -/
def respond (now : Int64) (id : SessionId) (response : Response) (processing : ProcessConfig)
    (s : State σ) : Except VerifierError Record × State σ :=
  match v.accept id s with
  | (.error e, s) => (.error e, s)
  | (.ok session, s) =>
    let (number, s) := nextNumber s
    let (record, outcome) := conclude now (v.context id session number) response processing
    let (result, s) := v.settle id outcome s
    (result.map fun _ => record, s)

end Verifier

/-! ## Setting up a verifier -/

/-- What a verifier can be made of. -/
structure VerifierSetup (σ : Type) where
  resolver : Option KeyResolver := none
  decrypter : Option Decrypter := none
  store : Option (SessionStore σ) := none
  config : Config := {}

/-- What a setup lacks. -/
inductive SetupError where
  | missingResolver
  | missingStore
deriving DecidableEq, Repr

/-- The text of a setup error. -/
def SetupError.message : SetupError → String
  | missingResolver => "key resolver is required, see `with_key_resolver`"
  | missingStore => "session store is required, see `with_session_store`"

/-- The verifier of a setup, which needs a resolver and a store. -/
def VerifierSetup.build {σ : Type} (setup : VerifierSetup σ) : Except SetupError (Verifier σ) :=
  match setup.resolver, setup.store with
  | none, _ => .error .missingResolver
  | some _, none => .error .missingStore
  | some resolver, some store => .ok ⟨resolver, setup.decrypter, store, setup.config⟩

end PresentationVerifier
