import PresentationVerifier.Session.Store

/-!
# A session store in memory

The store that is the list of its sessions. `get?` is its view: each operation is described by what it
does to the session that an identifier finds, and no operation touches more than one identifier.
-/

namespace PresentationVerifier

/-! ## Contents -/

/-- The contents of a store in memory. -/
structure MemoryStore where
  sessions : List Session

namespace MemoryStore

/-- A store without sessions. -/
def empty : MemoryStore := ⟨[]⟩

/-- The session with an identifier. -/
def get? (m : MemoryStore) (id : SessionId) : Option Session :=
  m.sessions.find? fun s => s.id = id

/-- The store without the session of an identifier. -/
def erase (m : MemoryStore) (id : SessionId) : MemoryStore :=
  ⟨m.sessions.filter fun s => s.id ≠ id⟩

/-- Adds a session, in place of one with the same identifier. -/
def insert (m : MemoryStore) (s : Session) : MemoryStore :=
  ⟨s :: (m.erase s.id).sessions⟩

/-- Sets the status of the session with an identifier. -/
def setStatus (m : MemoryStore) (id : SessionId) (status : Status) : MemoryStore :=
  ⟨m.sessions.map fun s => if s.id = id then { s with status := status } else s⟩

/-! ## What is found after a change -/

@[simp] theorem get?_empty (id : SessionId) : empty.get? id = none := rfl

/-- Of the identifiers only the erased one finds no session any more. -/
@[simp] theorem get?_erase (m : MemoryStore) (id k : SessionId) :
    (m.erase id).get? k = if k = id then none else m.get? k := by
  obtain ⟨sessions⟩ := m
  simp only [erase, get?]
  induction sessions with
  | nil => simp
  | cons s rest ih =>
    -- by whether the first session is the erased one, and whether it is the one looked for
    by_cases hs : s.id = id <;> by_cases hk : k = id <;> by_cases hsk : s.id = k <;>
      simp_all

/-- An inserted session is found, and for other identifiers nothing changes. -/
@[simp] theorem get?_insert (m : MemoryStore) (s : Session) (k : SessionId) :
    (m.insert s).get? k = if k = s.id then some s else m.get? k := by
  have h := get?_erase m s.id k
  -- the session in front has the identifier, or is passed over
  by_cases hk : k = s.id
  · simp [insert, get?, hk]
  · rw [if_neg hk] at h ⊢
    rw [← h]
    simp [insert, get?, Ne.symm hk]

/-- Setting a status changes it in the session of the identifier, if there is one. -/
@[simp] theorem get?_setStatus (m : MemoryStore) (id : SessionId) (status : Status) (k : SessionId) :
    (m.setStatus id status).get? k =
      (m.get? k).map fun s => if k = id then { s with status := status } else s := by
  obtain ⟨sessions⟩ := m
  simp only [setStatus, get?]
  induction sessions with
  | nil => rfl
  | cons s rest ih =>
    by_cases hs : s.id = id <;> by_cases hk : k = id <;> by_cases hsk : s.id = k <;>
      simp_all

theorem get?_setStatus_self {m : MemoryStore} {id : SessionId} {s : Session} (h : m.get? id = some s)
    (status : Status) : (m.setStatus id status).get? id = some { s with status := status } := by
  simp [h]

/-- Sessions with other identifiers keep their status. -/
theorem get?_setStatus_of_ne (m : MemoryStore) {id k : SessionId} (h : k ≠ id) (status : Status) :
    (m.setStatus id status).get? k = m.get? k := by
  simp [h]

/-! ## Operations -/

/-- Something that is done with a session, which has to be there. -/
def withSession {α : Type} (m : MemoryStore) (id : SessionId)
    (act : Session → Except StoreError α × MemoryStore) : Except StoreError α × MemoryStore :=
  match m.get? id with
  | none => (.error .notFound, m)
  | some s => act s

/-- Marks a session as having received its response, unless it did before. -/
def beginResponse (id : SessionId) (m : MemoryStore) : Except StoreError Session × MemoryStore :=
  m.withSession id fun s =>
    if s.status.isOpen then
      (.ok { s with status := .receivedResponse }, m.setStatus id .receivedResponse)
    else (.error (.alreadyReceived id), m)

/-- The operations of the store in memory. -/
def operations : SessionStore MemoryStore where
  initiate s m := (.ok (), m.insert s)
  beginResponse := beginResponse
  updateStatus id status m := m.withSession id fun _ => (.ok (), m.setStatus id status)
  get id m := m.withSession id fun s => (.ok s, m)
  remove id m := m.withSession id fun _ => (.ok (), m.erase id)

/-! ## What operations do -/

section Operations

variable {m : MemoryStore} {id : SessionId} {s : Session}

/-- No response is let through to a session that is not there. -/
theorem beginResponse_of_unknown (h : m.get? id = none) :
    operations.beginResponse id m = (.error .notFound, m) := by
  simp [operations, beginResponse, withSession, h]

/-- A session that waits for its response takes it, and waits no more. -/
theorem beginResponse_of_initiated (h : m.get? id = some s) (hs : s.status = .initiated) :
    operations.beginResponse id m =
      (.ok { s with status := .receivedResponse }, m.setStatus id .receivedResponse) := by
  simp [operations, beginResponse, withSession, h, Status.isOpen_iff.mpr hs]

/-- A session that waits no more takes no response. -/
theorem beginResponse_of_not_initiated (h : m.get? id = some s) (hs : s.status ≠ .initiated) :
    operations.beginResponse id m = (.error (.alreadyReceived id), m) := by
  have hClosed : s.status.isOpen ≠ true := fun hOpen => hs (Status.isOpen_iff.mp hOpen)
  simp [operations, beginResponse, withSession, h, hClosed]

/-- The status of a session that is there is set. -/
theorem updateStatus_of_known (h : m.get? id = some s) (status : Status) :
    operations.updateStatus id status m = (.ok (), m.setStatus id status) := by
  simp [operations, withSession, h]

theorem get_of_known (h : m.get? id = some s) : operations.get id m = (.ok s, m) := by
  simp [operations, withSession, h]

theorem get_of_unknown (h : m.get? id = none) : operations.get id m = (.error .notFound, m) := by
  simp [operations, withSession, h]

end Operations

end MemoryStore

end PresentationVerifier
