import PresentationVerifier.Format
import PresentationVerifier.Json.Decode

/-!
# Presentation submissions

A presentation submission tells where the credentials are that a request asked for. It has one
descriptor for each: the identifier of the request's input, the format, and the path within the
presented tokens. A descriptor can have another one nested in it, for a credential inside of a
presentation.
-/

namespace PresentationVerifier

/-! ## Descriptors -/

/-- Where and in which format a requested credential is presented. -/
inductive Descriptor where
  | mk (id : String) (format : CredentialFormat) (path : String) (nested : Option Descriptor)

namespace Descriptor

/-- The identifier of the input that the credential answers. -/
def id : Descriptor → String
  | mk id _ _ _ => id

/-- The format of the credential. -/
def format : Descriptor → CredentialFormat
  | mk _ format _ _ => format

/-- The path of the credential within the presented tokens. -/
def path : Descriptor → String
  | mk _ _ path _ => path

/-- The descriptor of a credential within the one at the path. -/
def nested : Descriptor → Option Descriptor
  | mk _ _ _ nested => nested

/-- The path of a presented token itself. -/
def rootPath : String := "$"

/-- The descriptor is for a presented token itself. -/
def isRoot (d : Descriptor) : Bool :=
  d.path == rootPath

/-- A descriptor with nothing nested in it. -/
def new (id : String) (format : CredentialFormat) (path : String) : Descriptor :=
  mk id format path none

/-- Gives a descriptor another identifier. -/
def withId (d : Descriptor) (id : String) : Descriptor :=
  mk id d.format d.path d.nested

/-- Nests a descriptor in another one, whose identifier it takes. -/
def nest (d inner : Descriptor) : Descriptor :=
  mk d.id d.format d.path (some (inner.withId d.id))

/-- A descriptor as a JSON object. -/
def toJson : Descriptor → Json
  | mk id format path none =>
    .object (Json.Object.ofMembers
      [("id", .string id), ("format", format.toJson), ("path", .string path)])
  | mk id format path (some inner) =>
    .object (Json.Object.ofMembers
      [("id", .string id), ("format", format.toJson), ("path", .string path),
        ("path_nested", inner.toJson)])

mutual

/-- The descriptor of a JSON value: an object, or an array of the four fields. -/
def ofJson? : Json → Option Descriptor
  | .object members =>
    (Json.Object.get? members "id").bind fun id =>
    (Json.Object.get? members "format").bind fun format =>
    (Json.Object.get? members "path").bind fun path =>
    (nestedMember? members).bind fun nested => ofFields? id format path nested
  | .array [id, format, path, .null] => ofFields? id format path none
  | .array [id, format, path, v] =>
    (ofJson? v).bind fun inner => ofFields? id format path (some inner)
  | _ => none

/-- The member `path_nested`, which may be absent or `null`. -/
def nestedMember? : List (String × Json) → Option (Option Descriptor)
  | [] => some none
  | (name, v) :: rest =>
    if name = "path_nested" then
      match v with
      | .null => some none
      | v => (ofJson? v).map some
    else nestedMember? rest

/-- The descriptor with the given fields, the first three of which have to be strings. -/
def ofFields? (id format path : Json) (nested : Option Descriptor) : Option Descriptor :=
  id.asString?.bind fun id => (CredentialFormat.ofJson? format).bind fun format =>
    path.asString?.map fun path => mk id format path nested

end

/-- The member `path_nested` is the first of that name. -/
theorem nestedMember?_eq (members : List (String × Json)) :
    nestedMember? members =
      match Json.Object.get? members "path_nested" with
      | none => some none
      | some v => Json.nullable ofJson? v := by
  induction members with
  | nil =>
    unfold nestedMember?
    rfl
  | cons m rest ih =>
    obtain ⟨name, v⟩ := m
    unfold nestedMember?
    rw [Json.Object.get?_cons]
    by_cases hName : name = "path_nested"
    · rw [if_pos hName, if_pos hName.symm]
      cases v <;> rfl
    · rw [if_neg hName, if_neg (Ne.symm hName), ih]

/-- The descriptor of an object, by the members that count. -/
theorem ofJson?_object (members : List (String × Json)) :
    ofJson? (.object members) =
      (Json.Object.get? members "id").bind fun id =>
      (Json.Object.get? members "format").bind fun format =>
      (Json.Object.get? members "path").bind fun path =>
      (nestedMember? members).bind fun nested => ofFields? id format path nested := by
  rw [ofJson?]

/-- The descriptor of an array: the four fields in their order. -/
theorem ofJson?_array (id format path nested : Json) :
    ofJson? (.array [id, format, path, nested]) =
      (Json.nullable ofJson? nested).bind fun d => ofFields? id format path d := by
  cases nested with
  | null =>
    unfold ofJson?
    rfl
  | bool b | number n | string s | array items | object o =>
    rw [ofJson?, Json.nullable_of_ne_null (by simp), Option.bind_map]
    · rfl
    · simp

/-- An array of fewer or more values is no descriptor. -/
theorem ofJson?_array_of_length {items : List Json} (h : items.length ≠ 4) :
    ofJson? (.array items) = none := by
  rw [ofJson?]
  · rintro members ⟨⟩
  · rintro id format path ⟨⟩
    exact h rfl
  · rintro id format path nested ⟨⟩
    exact h rfl

end Descriptor

/-! ## Submissions -/

/-- A presentation submission. -/
structure Submission where
  id : String
  /-- The identifier of the definition that is answered. -/
  definitionId : String
  descriptors : List Descriptor

namespace Submission

/-- A submission as a JSON object. -/
def toJson (s : Submission) : Json :=
  .object (Json.Object.ofMembers
    [("id", .string s.id), ("definition_id", .string s.definitionId),
      ("descriptor_map", .array (s.descriptors.map Descriptor.toJson))])

/-- The submission with the given fields. -/
def ofFields? (id definitionId descriptors : Json) : Option Submission :=
  id.asString?.bind fun id => definitionId.asString?.bind fun definitionId =>
    (Json.asArrayOf? Descriptor.ofJson? descriptors).map fun ds => ⟨id, definitionId, ds⟩

/-- The submission of a JSON value: an object, or an array of the three fields. -/
def ofJson? : Json → Option Submission
  | .object members =>
    (Json.Object.get? members "id").bind fun id =>
    (Json.Object.get? members "definition_id").bind fun definitionId =>
    (Json.Object.get? members "descriptor_map").bind fun descriptors =>
      ofFields? id definitionId descriptors
  | .array [id, definitionId, descriptors] => ofFields? id definitionId descriptors
  | _ => none

end Submission

end PresentationVerifier
