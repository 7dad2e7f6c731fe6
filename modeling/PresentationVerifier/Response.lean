import PresentationVerifier.Encoding.Form
import PresentationVerifier.Response.Parameter

/-!
# Authorization responses

A response is read from a JSON object or from a form body. No parameter is required at this level, but
one that is there has to be well-formed.
-/

namespace PresentationVerifier

/-- An authorization response. -/
structure Response where
  /-- The object that the response was read from. -/
  raw : Json.Object
  idToken : Option String
  vpToken : Option (List VpToken)
  submission : Option Submission
  state : Option String
  error : Option String
  errorDescription : Option String
  errorUri : Option String

namespace Response

/-- The response of an object. The parameters are read in their order and the first malformed one is
reported. -/
def ofObject (o : Json.Object) : Except ResponseError Response := do
  return {
    raw := o
    idToken := ← Parameter.idToken.optional o
    vpToken := ← Parameter.vpToken.optional o
    submission := ← Parameter.presentationSubmission.optional o
    state := ← Parameter.state.optional o
    error := ← Parameter.error.optional o
    errorDescription := ← Parameter.errorDescription.optional o
    errorUri := ← Parameter.errorUri.optional o }

/-- The response of a JSON value. -/
def ofJson : Json → Except ResponseError Response
  | .object o => ofObject o
  | _ => .error .notAnObject

/-- The parameters that a form body carries as JSON text. -/
def jsonInForm : List String :=
  [Parameter.vpToken.key, Parameter.presentationSubmission.key]

/-- The value of a pair of a form body. JSON text is read where it is expected; what is no JSON text is
kept as a string, and so is the value of every other pair. -/
def formValue (name value : String) : Json :=
  if jsonInForm.contains name then (Json.parse value).getD (.string value) else .string value

/-- The object of a form body's pairs. -/
def objectOfPairs (pairs : List (String × String)) : Json.Object :=
  Json.Object.ofMembers (pairs.map fun p => (p.1, formValue p.1 p.2))

/-- The response of a form body. -/
def ofForm (body : List UInt8) : Except ResponseError Response :=
  ofObject (objectOfPairs (Encoding.Form.decode body))

/-- The error code that the holder reports; an empty one is none. -/
def reportedError? (r : Response) : Option String :=
  r.error.filter fun e => e ≠ ""

end Response

end PresentationVerifier
