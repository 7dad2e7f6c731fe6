import PresentationVerifier.Session

/-!
# Session stores

Sessions are kept in a store of the caller's choice: `SessionStore` is what a verifier needs of it. Any
operation can fail, and says then what the store is like afterwards. Accepting a response is one
operation, so that of several responses to a session a store can let only one through.
-/

namespace PresentationVerifier

/-- Why a store did not do what was asked. -/
inductive StoreError where
  | notFound
  | alreadyReceived (id : SessionId)
  /-- The store has a reason of its own. -/
  | unavailable (reason : String)
deriving DecidableEq, Repr

/-- The text of a store error. -/
def StoreError.message : StoreError → String
  | notFound => "session not found"
  | alreadyReceived id => "a response was already received for session " ++ id.text
  | unavailable reason => reason

/-- The operations of a store whose contents are a `σ`. -/
structure SessionStore (σ : Type) where
  /-- Stores a new session. -/
  initiate : Session → σ → Except StoreError Unit × σ
  /-- Marks a session as having received its response and gives it back. It fails if the session is
  unknown or a response was received before. -/
  beginResponse : SessionId → σ → Except StoreError Session × σ
  /-- Sets the status of a session. -/
  updateStatus : SessionId → Status → σ → Except StoreError Unit × σ
  /-- Gives a session. -/
  get : SessionId → σ → Except StoreError Session × σ
  /-- Forgets a session. -/
  remove : SessionId → σ → Except StoreError Unit × σ

end PresentationVerifier
