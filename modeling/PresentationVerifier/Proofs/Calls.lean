import Mathlib.Logic.Relation
import PresentationVerifier.Session.Memory
import PresentationVerifier.Verifier

/-!
# Calls that run side by side

A call that verifies a response takes four steps, and other calls may take theirs in between. A `Call` is
such a call with how far it has come; a `System` is the state that all calls share, and the calls. In a step
of the system a session is initiated, a status is polled, a call arrives, or one call takes its next step.

Main results:

* `respond_eq_four_steps` — a call that takes its four steps without interruption does what `respond` does.
* `accept_of_initiated`, `accept_of_not_initiated`, `accept_of_unknown`, `settle_of_get?` — the steps that
  use the store, if this is the one in memory.
-/

namespace PresentationVerifier.Verifier

/-! ## Calls -/

/-- How far a call has come. -/
inductive Phase where
  | waiting
  | refused (e : VerifierError)
  | accepted (session : Session)
  | numbered (session : Session) (number : UInt64)
  | concluded (session : Session) (number : UInt64) (record : Record) (outcome : Outcome)
  | settled (session : Session) (number : UInt64) (record : Record) (outcome : Outcome)
      (result : Except VerifierError Unit)

namespace Phase

/-- The store has let the call through. -/
def passed : Phase → Bool
  | waiting | refused _ => false
  | accepted _ | numbered _ _ | concluded _ _ _ _ | settled _ _ _ _ _ => true

/-- The number that the call has taken. -/
def number? : Phase → Option UInt64
  | waiting | refused _ | accepted _ => none
  | numbered _ number | concluded _ number _ _ | settled _ number _ _ _ => some number

/-- What the call has returned. -/
def returned? : Phase → Option (Except VerifierError Record)
  | refused e => some (.error e)
  | settled _ _ record _ result => some (result.map fun _ => record)
  | waiting | accepted _ | numbered _ _ | concluded _ _ _ _ => none

end Phase

/-- A call that verifies the response to a session. -/
structure Call where
  id : SessionId
  response : Response
  processing : ProcessConfig
  phase : Phase

/-- The next step of a call, at the given time. A call that has returned stays as it is. -/
def Call.next {σ : Type} (v : Verifier σ) (now : Int64) (c : Call) (s : State σ) : Call × State σ :=
  match c.phase with
  | .waiting =>
    match v.accept c.id s with
    | (.error e, s) => ({ c with phase := .refused e }, s)
    | (.ok session, s) => ({ c with phase := .accepted session }, s)
  | .accepted session =>
    let (number, s) := nextNumber s
    ({ c with phase := .numbered session number }, s)
  | .numbered session number =>
    let (record, outcome) :=
      conclude now (v.context c.id session number) c.response c.processing
    ({ c with phase := .concluded session number record outcome }, s)
  | .concluded session number record outcome =>
    let (result, s) := v.settle c.id outcome s
    ({ c with phase := .settled session number record outcome result }, s)
  | .refused _ | .settled _ _ _ _ _ => (c, s)

section Uninterrupted

variable {σ : Type} (v : Verifier σ)

/-- A call that is not interrupted does and returns what `respond` does and returns. -/
theorem respond_eq_four_steps (now : Int64) (id : SessionId) (response : Response)
    (processing : ProcessConfig) (s : State σ) :
    let step := fun p : Call × State σ => p.1.next v now p.2
    let last := step (step (step (step (⟨id, response, processing, .waiting⟩, s))))
    last.1.phase.returned? = some (v.respond now id response processing s).1 ∧
      last.2 = (v.respond now id response processing s).2 := by
  intro step last
  cases hAccept : v.accept id s with
  | mk result s₁ =>
    cases result with
    -- the call is refused, and stays so in the three steps that are left
    | error e =>
      have hLast : last = (⟨id, response, processing, .refused e⟩, s₁) := by
        simp only [last, step, Call.next, hAccept]
      rw [hLast, respond, hAccept]
      exact ⟨rfl, rfl⟩
    | ok session =>
      -- from here on both take the same steps, whatever these come to
      have hLast : last = step (step (step (⟨id, response, processing, .accepted session⟩, s₁))) := by
        simp only [last, step, Call.next, hAccept]
      rw [hLast, respond, hAccept]
      exact ⟨rfl, rfl⟩

/-- A response that was verified went through all four steps. -/
theorem respond_eq_ok {now : Int64} {id : SessionId} {response : Response} {processing : ProcessConfig}
    {s s' : State σ} {record : Record}
    (h : v.respond now id response processing s = (.ok record, s')) :
    ∃ session sessions outcome,
      v.store.beginResponse id s.sessions = (.ok session, sessions) ∧
      conclude now (v.context id session (s.sequence + 1)) response processing = (record, outcome) ∧
      v.store.updateStatus id (.complete outcome) sessions = (.ok (), s'.sessions) := by
  unfold respond at h
  -- an error of the store, at the first step or the last, is all that is returned
  cases hBegin : v.store.beginResponse id s.sessions with
  | mk result sessions =>
    cases result with
    | error e =>
      rw [accept_of_error hBegin] at h
      cases h
    -- the session was accepted, and the run comes to some record and outcome
    | ok session =>
      rw [accept_of_ok hBegin] at h
      cases hConclude : conclude now (v.context id session (s.sequence + 1)) response processing with
      | mk record' outcome =>
        cases hUpdate : v.store.updateStatus id (.complete outcome) sessions with
        | mk result sessions' =>
          simp only [nextNumber, hConclude] at h
          cases result with
          -- storing the outcome has not failed, since there is a record
          | error e =>
            rw [settle_of_error hUpdate] at h
            cases h
          | ok _ =>
            rw [settle_of_ok hUpdate] at h
            cases h
            exact ⟨session, sessions, outcome, rfl, hConclude, hUpdate⟩

end Uninterrupted

/-! ## The steps on a store in memory -/

section InMemory

variable {v : Verifier MemoryStore} (hStore : v.store = MemoryStore.operations)
  {s : State MemoryStore} {id : SessionId}

include hStore

/-- A call to an unknown session is refused. -/
theorem accept_of_unknown (hGet : s.sessions.get? id = none) :
    v.accept id s = (.error (.notAccepted .notFound), s) := by
  have hBegin := MemoryStore.beginResponse_of_unknown hGet
  rw [← hStore] at hBegin
  exact accept_of_error hBegin

/-- A call to a session that has had its response is refused. -/
theorem accept_of_not_initiated {session : Session} (hGet : s.sessions.get? id = some session)
    (hStatus : session.status ≠ .initiated) :
    v.accept id s = (.error (.notAccepted (.alreadyReceived id)), s) := by
  have hBegin := MemoryStore.beginResponse_of_not_initiated hGet hStatus
  rw [← hStore] at hBegin
  exact accept_of_error hBegin

/-- A call to a session that waits is let through, and the session waits no more. -/
theorem accept_of_initiated {session : Session} (hGet : s.sessions.get? id = some session)
    (hStatus : session.status = .initiated) :
    v.accept id s = (.ok { session with status := .receivedResponse },
      { s with sessions := s.sessions.setStatus id .receivedResponse }) := by
  have hBegin := MemoryStore.beginResponse_of_initiated hGet hStatus
  rw [← hStore] at hBegin
  exact accept_of_ok hBegin

/-- The outcome of a session that is there is stored. -/
theorem settle_of_get? {session : Session} (hGet : s.sessions.get? id = some session)
    (outcome : Outcome) :
    v.settle id outcome s =
      (.ok (), { s with sessions := s.sessions.setStatus id (.complete outcome) }) := by
  have hUpdate := MemoryStore.updateStatus_of_known hGet (.complete outcome)
  rw [← hStore] at hUpdate
  exact settle_of_ok hUpdate

/-- A session that is started is in the store from then on. -/
theorem initiate_inMemory (state nonce : Option String) (callbackId : String) :
    (v.initiate id state nonce callbackId s).2 =
      { s with sessions := s.sessions.insert (.new id state nonce callbackId) } := by
  simp only [initiate, hStore, MemoryStore.operations]

/-- Asking for a status changes nothing. -/
theorem poll_inMemory : (v.poll id s).2 = s := by
  -- the store answers or does not, and is the same afterwards
  cases hGet : s.sessions.get? id with
  | none => simp only [poll, hStore, MemoryStore.get_of_unknown hGet]
  | some session => simp only [poll, hStore, MemoryStore.get_of_known hGet]

end InMemory

/-! ## The system -/

/-- What all calls share, and the calls. -/
structure System where
  state : State MemoryStore
  calls : List Call

/-- The system before anything happens. -/
def System.start : System := ⟨⟨MemoryStore.empty, 0⟩, []⟩

/-- One thing happens in the system. Identifiers of new sessions are fresh. -/
inductive Step (v : Verifier MemoryStore) : System → System → Prop where
  | initiate {x : System} (id : SessionId) (state nonce : Option String) (callbackId : String)
      (hFresh : x.state.sessions.get? id = none) :
      Step v x { x with state := (v.initiate id state nonce callbackId x.state).2 }
  | poll {x : System} (id : SessionId) : Step v x { x with state := (v.poll id x.state).2 }
  | arrive {x : System} (id : SessionId) (response : Response) (processing : ProcessConfig) :
      Step v x { x with calls := x.calls ++ [⟨id, response, processing, .waiting⟩] }
  | advance {x : System} {before after : List Call} {c : Call} (now : Int64)
      (hCalls : x.calls = before ++ c :: after) :
      Step v x ⟨(c.next v now x.state).2, before ++ (c.next v now x.state).1 :: after⟩

/-- Any number of steps. -/
abbrev Steps (v : Verifier MemoryStore) : System → System → Prop :=
  Relation.ReflTransGen (Step v)

/-! ## A small system -/

/-- A verifier that finds no keys, with its sessions in memory. -/
def keylessVerifier : Verifier MemoryStore where
  resolver := { holderKey := fun _ => .error (.unresolved "unknown holder") }
  decrypter := none
  store := MemoryStore.operations
  config := {}

/-- A response without any parameter. -/
def emptyResponse : Response where
  raw := []
  idToken := none
  vpToken := none
  submission := none
  state := none
  error := none
  errorDescription := none
  errorUri := none

end PresentationVerifier.Verifier
