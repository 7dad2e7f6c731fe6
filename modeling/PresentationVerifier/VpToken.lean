import PresentationVerifier.Json.Printer

/-!
# Presented tokens

The parameter `vp_token` holds presentations. One presentation is a string, such as a compact token, or
an object; the parameter holds one of them or an array of any number.
-/

namespace PresentationVerifier

/-- One presentation. -/
inductive VpToken where
  /-- A presentation in text form. -/
  | text (s : String)
  /-- A presentation that is a JSON object. -/
  | document (o : Json.Object)

namespace VpToken

/-- The text of a presentation in text form. -/
def text? : VpToken → Option String
  | text s => some s
  | document _ => none

/-- A presentation as a JSON value. -/
def toJson : VpToken → Json
  | text s => .string s
  | document o => .object o

/-- The presentation of a JSON value; any value but a string or an object is given back. -/
def ofJson : Json → Except Json VpToken
  | .string s => .ok (.text s)
  | .object o => .ok (.document o)
  | v => .error v

/-- Presentations as a JSON value. A single one stands for itself. -/
def listToJson : List VpToken → Json
  | [t] => t.toJson
  | ts => .array (ts.map toJson)

/-- The presentations of a JSON value, or the first value that is none. -/
def listOfJson : Json → Except Json (List VpToken)
  | .array items => items.mapM ofJson
  | v => (ofJson v).map fun t => [t]

/-- The text of the error for a value that is no presentation. -/
def notPresentation (v : Json) : String :=
  "invalid vp_token element: expected a string or an object, found " ++ v.compact

end VpToken

end PresentationVerifier
