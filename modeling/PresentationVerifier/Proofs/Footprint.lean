import Mathlib.Data.List.Forall2
import PresentationVerifier.Proofs.Calls

/-!
# What a response changes

A response that is not let through to a session changes nothing at all, neither in the store nor of the
numbers. One that is let through takes a number and leaves its session complete, whatever came of it; other
sessions stay as they are, none comes or goes, and of its own session only the status is another.

Main results:

* `MemoryStore.onlyStatus_setStatus`: setting a status changes a store nowhere else.
* `respond_of_refused`, `respond_of_initiated`: the two ways in which a call can go.
* `respond_footprint`: both, in terms of what is in the store.
-/

namespace PresentationVerifier

/-! ## Stores that differ in one status -/

/-- A session that does not wait has received its response or is complete. -/
theorem Status.ne_initiated_iff {status : Status} :
    status ≠ .initiated ↔ status = .receivedResponse ∨ ∃ outcome, status = .complete outcome := by
  cases status <;> simp

namespace MemoryStore

/-- The stores have the same sessions in the same places, but for the status of the session with an
identifier. -/
def OnlyStatus (id : SessionId) (m m' : MemoryStore) : Prop :=
  List.Forall₂ (fun s s' => s' = s ∨ (s.id = id ∧ ∃ status, s' = { s with status := status }))
    m.sessions m'.sessions

/-- Setting a status changes a store in that status only. -/
theorem onlyStatus_setStatus (m : MemoryStore) (id : SessionId) (status : Status) :
    OnlyStatus id m (m.setStatus id status) := by
  unfold OnlyStatus setStatus
  rw [List.forall₂_map_right_iff, List.forall₂_same]
  intro s _
  -- session by session: the one with the identifier gets the status, any other one stays
  by_cases hId : s.id = id
  · rw [if_pos hId]
    exact Or.inr ⟨hId, status, rfl⟩
  · rw [if_neg hId]
    exact Or.inl rfl

/-- Of two changes of a status the second one counts. -/
@[simp] theorem setStatus_setStatus (m : MemoryStore) (id : SessionId) (first second : Status) :
    (m.setStatus id first).setStatus id second = m.setStatus id second := by
  unfold setStatus
  rw [List.map_map]
  congr 1
  refine List.map_congr_left fun s _ => ?_
  -- the first change leaves the identifier, so that both find the same session
  by_cases hId : s.id = id
  · simp [hId]
  · simp [hId]

end MemoryStore

namespace Verifier

/-! ## The two ways of a call -/

section Ways

variable {σ : Type} {v : Verifier σ} {id : SessionId} {s : State σ} {sessions : σ}

/-- A response that the store refuses is answered with what the store said, and goes no further. -/
theorem respond_of_refused {e : StoreError}
    (h : v.store.beginResponse id s.sessions = (.error e, sessions)) (now : Int64)
    (response : Response) (processing : ProcessConfig) :
    v.respond now id response processing s =
      (.error (.notAccepted e), { s with sessions := sessions }) := by
  rw [respond, accept_of_error h]

end Ways

section InMemory

variable {v : Verifier MemoryStore} (hStore : v.store = MemoryStore.operations)
  {s : State MemoryStore} {id : SessionId}

include hStore

/-- Whatever the response is and whatever comes of it, the session gets its outcome. -/
theorem respond_of_initiated {session : Session} (hGet : s.sessions.get? id = some session)
    (hStatus : session.status = .initiated) (now : Int64) (response : Response)
    (processing : ProcessConfig) :
    ∃ record outcome, v.respond now id response processing s =
      (.ok record, ⟨s.sessions.setStatus id (.complete outcome), s.sequence + 1⟩) := by
  have hAccept := accept_of_initiated hStore hGet hStatus
  obtain ⟨record, outcome, hConclude⟩ : ∃ record outcome,
      conclude now (v.context id { session with status := .receivedResponse } (s.sequence + 1))
        response processing = (record, outcome) := ⟨_, _, rfl⟩
  -- the session is still there when its outcome is stored
  have hStored := MemoryStore.get?_setStatus_self hGet .receivedResponse
  have hSettle : v.settle id outcome ⟨s.sessions.setStatus id .receivedResponse, s.sequence + 1⟩ =
      (.ok (), ⟨s.sessions.setStatus id (.complete outcome), s.sequence + 1⟩) := by
    rw [settle_of_get? hStore hStored outcome, MemoryStore.setStatus_setStatus]
  -- so none of the four steps fails
  refine ⟨record, outcome, ?_⟩
  simp only [respond, hAccept, nextNumber, hConclude, hSettle]
  rfl

/-- Only a session that is known and whose response is awaited takes one, and a refusal leaves the store
as it is. -/
theorem beginResponse_inMemory (id : SessionId) (m : MemoryStore) :
    (∃ e, v.store.beginResponse id m = (.error e, m) ∧
      (m.get? id = none ∨ ∃ session, m.get? id = some session ∧ session.status ≠ .initiated)) ∨
    (∃ session, m.get? id = some session ∧ session.status = .initiated ∧
      v.store.beginResponse id m = (.ok { session with status := .receivedResponse },
        m.setStatus id .receivedResponse)) := by
  rw [hStore]
  cases hGet : m.get? id with
  | none => exact Or.inl ⟨_, MemoryStore.beginResponse_of_unknown hGet, Or.inl rfl⟩
  | some session =>
    by_cases hStatus : session.status = .initiated
    · exact Or.inr ⟨session, rfl, hStatus, MemoryStore.beginResponse_of_initiated hGet hStatus⟩
    · exact Or.inl ⟨_, MemoryStore.beginResponse_of_not_initiated hGet hStatus,
        Or.inr ⟨session, rfl, hStatus⟩⟩

end InMemory

/-- As long as the numbers have not come to their end, the next one is larger by one. -/
theorem toNat_sequence_succ {sequence : UInt64} (h : sequence.toNat < UInt64.size - 1) :
    (sequence + 1).toNat = sequence.toNat + 1 := by
  have hSmall : sequence.toNat + 1 < UInt64.size := by omega
  rw [UInt64.toNat_add]
  exact Nat.mod_eq_of_lt hSmall

/-- **Footprint**: a response that the store refuses leaves the store and the counter as they are, and the
store refuses it when it does not know the session or has let a response through before. Any other
response is answered; it takes one number, and in the store changes the status of its session only. -/
theorem respond_footprint {v : Verifier MemoryStore} (hStore : v.store = MemoryStore.operations)
    (now : Int64) (id : SessionId) (response : Response) (processing : ProcessConfig)
    (s : State MemoryStore) :
    (∀ e, (v.store.beginResponse id s.sessions).1 = .error e →
      v.respond now id response processing s = (.error (.notAccepted e), s)) ∧
    ((∃ e, (v.store.beginResponse id s.sessions).1 = .error e) ↔
      s.sessions.get? id = none ∨ ∃ session, s.sessions.get? id = some session ∧
        (session.status = .receivedResponse ∨ ∃ outcome, session.status = .complete outcome)) ∧
    ∀ session, (v.store.beginResponse id s.sessions).1 = .ok session →
      ∃ record s', v.respond now id response processing s = (.ok record, s') ∧
        (s.sequence.toNat < UInt64.size - 1 → s'.sequence.toNat = s.sequence.toNat + 1) ∧
        (∃ outcome, s'.sessions = s.sessions.setStatus id (.complete outcome)) ∧
        s.sessions.OnlyStatus id s'.sessions := by
  simp only [← Status.ne_initiated_iff]
  rcases beginResponse_inMemory hStore id s.sessions with
    ⟨e, hBegin, hClosed⟩ | ⟨session, hGet, hStatus, hBegin⟩
  -- the store refuses it: there is an error and no session
  · refine ⟨fun e' h => ?_, ⟨fun _ => hClosed, fun _ => ⟨e, by rw [hBegin]⟩⟩, fun session h => ?_⟩
    · rw [hBegin] at h
      obtain rfl := Except.error.inj h
      exact respond_of_refused hBegin now response processing
    · rw [hBegin] at h
      cases h
  -- the store lets it through: the session waits, so none of the reasons to refuse it is there
  · refine ⟨fun e h => ?_, ⟨?_, ?_⟩, fun _ _ => ?_⟩
    · rw [hBegin] at h
      cases h
    · rintro ⟨e, h⟩
      rw [hBegin] at h
      cases h
    · rintro (hNone | ⟨other, hOther, hNot⟩)
      · rw [hGet] at hNone
        cases hNone
      · rw [hGet] at hOther
        obtain rfl := Option.some.inj hOther
        exact absurd hStatus hNot
    · obtain ⟨record, outcome, hRespond⟩ := respond_of_initiated hStore hGet hStatus now response processing
      exact ⟨record, _, hRespond, toNat_sequence_succ, ⟨outcome, rfl⟩,
        MemoryStore.onlyStatus_setStatus _ _ _⟩

/-! ## Two sessions -/

/-- A session that waits for its response, and one that has had it. -/
def oneOfTwoWaiting : State MemoryStore :=
  ⟨⟨[.new ⟨7⟩ (some "state") none "first",
    { Session.new ⟨8⟩ none none "second" with status := .complete .success }]⟩, 4⟩

/-- The response to the second session changes nothing, and the one to the first takes the fifth number. -/
theorem respond_footprint_two :
    keylessVerifier.respond 0 ⟨8⟩ emptyResponse {} oneOfTwoWaiting =
        (.error (.notAccepted (.alreadyReceived ⟨8⟩)), oneOfTwoWaiting) ∧
      ∃ record s', keylessVerifier.respond 0 ⟨7⟩ emptyResponse {} oneOfTwoWaiting = (.ok record, s') ∧
        s'.sequence.toNat = 5 ∧ oneOfTwoWaiting.sessions.OnlyStatus ⟨7⟩ s'.sessions := by
  -- the theorem for either of the two sessions
  obtain ⟨hRefused, -, -⟩ :=
    respond_footprint (v := keylessVerifier) rfl 0 ⟨8⟩ emptyResponse {} oneOfTwoWaiting
  obtain ⟨-, -, hAccepted⟩ :=
    respond_footprint (v := keylessVerifier) rfl 0 ⟨7⟩ emptyResponse {} oneOfTwoWaiting
  obtain ⟨record, s', hRespond, hNumber, -, hOnly⟩ := hAccepted _ rfl
  exact ⟨hRefused _ rfl, record, s', hRespond, hNumber (by decide), hOnly⟩

end Verifier

end PresentationVerifier
