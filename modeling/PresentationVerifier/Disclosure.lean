import PresentationVerifier.Encoding.Base64
import PresentationVerifier.Error
import PresentationVerifier.Json.Reader

/-!
# Disclosures

A disclosure reveals one claim of a credential. It is the base64url encoding of a JSON array of three:
a salt, the name of the claim, its value.
-/

namespace PresentationVerifier

/-- A disclosure with the text it was decoded from. -/
structure Disclosure where
  salt : String
  /-- The name of the claim. -/
  key : String
  value : Json
  /-- The disclosure as presented, which its digest is made of. -/
  encoded : String

namespace Disclosure

/-- The elements of the array that a text encodes. -/
def elements (encoded : String) : Except Error (List Json) :=
  match Encoding.Base64.decode? Encoding.urlSafe encoded with
  | none => .error (.malformedDisclosure ("`" ++ encoded ++ "` is not base64url"))
  | some bytes =>
    match Json.parseBytes bytes with
    | none => .error (.malformedDisclosure ("`" ++ encoded ++ "` is not JSON"))
    | some (.array items) => .ok items
    | some _ => .error (.malformedDisclosure ("`" ++ encoded ++ "` is not a JSON array"))

/-- The disclosure that a text encodes. -/
def decode (encoded : String) : Except Error Disclosure := do
  match ← elements encoded with
  | [.string salt, .string key, value] => .ok ⟨salt, key, value, encoded⟩
  | [_, _, _] => .error (.malformedDisclosure "salt and claim name must be strings")
  | items =>
    let count := items.length
    .error (.malformedDisclosure s!"expected 3 elements, found {count}")

/-- The disclosure as a JSON object. -/
def toJson (d : Disclosure) : Json :=
  .object (Json.Object.ofMembers
    [("salt", .string d.salt), ("key", .string d.key), ("value", d.value)])

end Disclosure

end PresentationVerifier
