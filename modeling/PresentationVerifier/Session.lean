import PresentationVerifier.Error
import PresentationVerifier.Text.Split

/-!
# Sessions

A session waits for the response to one authorization request. A verifier moves its status forward only:
from initiated over having received the response to complete, with an outcome. The order on statuses
looks at kinds alone, so that two failures with different reasons are equal in it.
-/

namespace PresentationVerifier

/-! ## Identifiers -/

/-- The identifier of a session: 128 bits. -/
structure SessionId where
  value : BitVec 128
deriving DecidableEq, Repr

namespace SessionId

/-- `count` of the thirty-two hexadecimal digits of an identifier, after the first `start` ones. -/
def digits (id : SessionId) (start count : Nat) : List Char :=
  (List.range count).map fun i =>
    Nat.digitChar (id.value.toNat >>> (4 * (31 - (start + i))) % 16)

/-- An identifier as text: groups of 8, 4, 4, 4 and 12 lowercase digits with hyphens between them. -/
def text (id : SessionId) : String :=
  String.ofList (Text.join '-'
    [id.digits 0 8, id.digits 8 4, id.digits 12 4, id.digits 16 4, id.digits 20 12])

end SessionId

/-! ## Outcomes -/

/-- What became of a session. -/
inductive Outcome where
  /-- The response could not be processed. -/
  | error (cause : Error)
  /-- The response did not pass. -/
  | failure (reason : String)
  /-- The response was verified. -/
  | success
deriving DecidableEq, Repr

namespace Outcome

/-- The outcome of an error: a failure for a rejection, with its reason. -/
def ofError (e : Error) : Outcome :=
  match e.reason? with
  | some reason => failure reason.message
  | none => error e

/-- The place of an outcome's kind in the order of outcomes. -/
def rank : Outcome → Nat
  | error _ => 0
  | failure _ => 1
  | success => 2

end Outcome

/-! ## Statuses -/

/-- How far a session is. -/
inductive Status where
  /-- The request was made and the response is awaited. -/
  | initiated
  /-- The response is being processed. -/
  | receivedResponse
  /-- The response was processed. -/
  | complete (outcome : Outcome)
deriving Repr

namespace Status

/-- The place of a status's kind in the order of statuses. -/
def rank : Status → Nat
  | initiated => 0
  | receivedResponse => 1
  | complete outcome => 2 + outcome.rank

/-- Statuses of the same rank are taken as equal, whatever their outcomes say. -/
instance : BEq Status := ⟨fun a b => a.rank == b.rank⟩

/-- Statuses are compared by their ranks. -/
instance : Ord Status := ⟨fun a b => compare a.rank b.rank⟩

instance : LE Status := ⟨fun a b => a.rank ≤ b.rank⟩

/-- The order is decided by the ranks. -/
instance (a b : Status) : Decidable (a ≤ b) := inferInstanceAs (Decidable (a.rank ≤ b.rank))

/-- The order of statuses is the one of their ranks. -/
theorem le_iff {a b : Status} : a ≤ b ↔ a.rank ≤ b.rank := Iff.rfl

/-- A session of this status still takes a response. -/
def isOpen (s : Status) : Bool :=
  !decide (receivedResponse ≤ s)

/-- Only a session whose response is awaited takes one. -/
@[simp] theorem isOpen_iff {s : Status} : s.isOpen = true ↔ s = initiated := by
  cases s with
  | initiated => simp [isOpen, le_iff, rank]
  | receivedResponse => simp [isOpen, le_iff, rank]
  | complete outcome =>
    have : 1 ≤ 2 + outcome.rank := by omega
    simp [isOpen, le_iff, rank, this]

end Status

/-! ## Sessions -/

/-- What the response to an authorization request is checked against, and what became of it. -/
structure Session where
  id : SessionId
  status : Status
  /-- The `state` of the authorization request. -/
  state : Option String
  /-- The `nonce` of the authorization request. -/
  nonce : Option String
  /-- What the caller knows the session by. -/
  callbackId : String

/-- A session that waits for its response. -/
def Session.new (id : SessionId) (state nonce : Option String) (callbackId : String) : Session :=
  ⟨id, .initiated, state, nonce, callbackId⟩

end PresentationVerifier
