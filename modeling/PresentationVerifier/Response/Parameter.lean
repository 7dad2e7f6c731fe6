import PresentationVerifier.Submission.Reader
import PresentationVerifier.VpToken

/-!
# Parameters of a response

An authorization response is a JSON object some of whose members are parameters with a type of their
own. Each parameter has a member name and is converted from and to JSON. A member that is `null` counts
as absent when the parameter is read.
-/

namespace PresentationVerifier

/-! ## Parameters -/

/-- The parameters of an authorization response. -/
inductive Parameter where
  | idToken
  | vpToken
  | presentationSubmission
  | state
  | error
  | errorDescription
  | errorUri
deriving DecidableEq, Repr

namespace Parameter

/-- All parameters, in the order in which they are read. -/
def all : List Parameter :=
  [idToken, vpToken, presentationSubmission, state, error, errorDescription, errorUri]

/-- The name of a parameter's member. -/
def key : Parameter → String
  | idToken => "id_token"
  | vpToken => "vp_token"
  | presentationSubmission => "presentation_submission"
  | state => "state"
  | error => "error"
  | errorDescription => "error_description"
  | errorUri => "error_uri"

/-- No two parameters share a member. -/
theorem key_injective {p q : Parameter} (h : p.key = q.key) : p = q := by
  cases p <;> cases q <;> simp_all [key]

/-! ## Values -/

/-- The values of a parameter. -/
abbrev Value : Parameter → Type
  | vpToken => List VpToken
  | presentationSubmission => Submission
  | _ => String

/-- Why a JSON value is no value of a parameter. -/
inductive Malformed where
  /-- The value is not of the parameter's form. -/
  | form
  /-- The value holds something else than presentations. -/
  | presentation (found : Json)

/-- The texts that are given as the cause of a malformed value. -/
def Malformed.causes : Malformed → List String
  | form => []
  | presentation found => [VpToken.notPresentation found]

/-- A string as a parameter's value. -/
def textOf (v : Json) : Except Malformed String :=
  match v with
  | .string s => .ok s
  | _ => .error .form

/-- The value of a parameter that a JSON value stands for. -/
def decode : (p : Parameter) → Json → Except Malformed p.Value
  | idToken, v => textOf v
  | vpToken, v => (VpToken.listOfJson v).mapError .presentation
  | presentationSubmission, v =>
    match Submission.ofParameter? v with
    | some s => .ok s
    | none => .error .form
  | state, v => textOf v
  | error, v => textOf v
  | errorDescription, v => textOf v
  | errorUri, v => textOf v

/-- The JSON value of a parameter's value. -/
def encode : (p : Parameter) → p.Value → Json
  | idToken, s => .string s
  | vpToken, ts => VpToken.listToJson ts
  | presentationSubmission, s => s.toJson
  | state, s => .string s
  | error, s => .string s
  | errorDescription, s => .string s
  | errorUri, s => .string s

/-! ## Parameters of an object -/

/-- The parameter's value in an object: nothing if the member is absent or `null`. -/
def get? (p : Parameter) (o : Json.Object) : Option (Except Malformed p.Value) :=
  match o.get? p.key with
  | none => none
  | some .null => none
  | some v => some (p.decode v)

/-- Sets the parameter's member. -/
def insert (p : Parameter) (value : p.Value) (o : Json.Object) : Json.Object :=
  Json.Object.insert o p.key (p.encode value)

/-- The object has the parameter's member, whatever its value. -/
def isPresent (p : Parameter) (o : Json.Object) : Bool :=
  Json.Object.contains o p.key

end Parameter

/-! ## Malformed parameters -/

/-- Why an object or body is no authorization response. -/
inductive ResponseError where
  | notAnObject
  | malformed (parameter : Parameter) (cause : Parameter.Malformed)

namespace ResponseError

/-- The text of a response error. -/
def message : ResponseError → String
  | notAnObject => "authorization response must be a JSON object"
  | malformed p _ => "'" ++ p.key ++ "' could not be parsed"

/-- The texts of the causes below the error. -/
def causes : ResponseError → List String
  | notAnObject => []
  | malformed _ cause => cause.causes

end ResponseError

/-- The value of a parameter that need not be there but has to be well-formed if it is. -/
def Parameter.optional (p : Parameter) (o : Json.Object) : Except ResponseError (Option p.Value) :=
  match p.get? o with
  | none => .ok none
  | some (.ok v) => .ok (some v)
  | some (.error cause) => .error (.malformed p cause)

end PresentationVerifier
