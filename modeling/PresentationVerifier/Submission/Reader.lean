import PresentationVerifier.Json.Skip
import PresentationVerifier.Submission

/-!
# Submissions in JSON text

A form body carries a submission as JSON text within a string. The text is read field by field rather
than through a JSON value, which shows where the text has more than a value would keep: a field that
comes twice is refused, and what stands in other members is only passed over.
-/

namespace PresentationVerifier

open Json (Reader skipSpace)

namespace Submission

/-! ## Parts -/

/-- A string, after space. -/
def readText : Reader String := fun cs =>
  Json.readString (skipSpace cs)

/-- The given character, after space. -/
def readMark (mark : Char) : Reader Unit := fun cs =>
  match skipSpace cs with
  | c :: rest => if c = mark then some ((), rest) else none
  | [] => none

/-- `null`, or what the reader takes. -/
def readNullable {α : Type} (read : Reader α) : Reader (Option α) := fun cs =>
  match skipSpace cs with
  | 'n' :: rest => (Json.readWord ['u', 'l', 'l'] rest).map fun (_, r) => (none, r)
  | cs => (read cs).map fun (a, r) => (some a, r)

/-! ## Descriptors -/

/-- A member of a descriptor's object. -/
inductive DescriptorMember where
  | id (s : String)
  | format (s : String)
  | path (s : String)
  | nested (d : Option Descriptor)
  | unknown

/-- A member of a descriptor's object, with a reader for the nested descriptor. -/
def readDescriptorMember (inner : Reader Descriptor) : Reader DescriptorMember := fun cs =>
  (Json.readName cs).bind fun (name, cs) =>
    if name = "id" then (readText cs).map fun (s, r) => (.id s, r)
    else if name = "format" then (readText cs).map fun (s, r) => (.format s, r)
    else if name = "path" then (readText cs).map fun (s, r) => (.path s, r)
    else if name = "path_nested" then (readNullable inner cs).map fun (d, r) => (.nested d, r)
    else (Json.skipValue cs).map fun (_, r) => (.unknown, r)

/-- The descriptor of an object's members: each field once, the nested descriptor at most once. -/
def descriptorOfMembers (ms : List DescriptorMember) : Option Descriptor :=
  let ids := ms.filterMap fun | .id s => some s | _ => none
  let formats := ms.filterMap fun | .format s => some s | _ => none
  let paths := ms.filterMap fun | .path s => some s | _ => none
  let nested := ms.filterMap fun | .nested d => some d | _ => none
  match ids, formats, paths, nested with
  | [id], [format], [path], [] => some (.mk id (CredentialFormat.ofName format) path none)
  | [id], [format], [path], [d] => some (.mk id (CredentialFormat.ofName format) path d)
  | _, _, _, _ => none

/-- A descriptor with at most `depth` arrays and objects open at a time, those in members that are
passed over not counted. -/
def readDescriptor : (depth : Nat) → Reader Descriptor
  | 0, _ => none
  | depth + 1, cs =>
    match skipSpace cs with
    | [] => none
    | c :: rest =>
      if c = '[' then do
        let (id, r) ← readText rest
        let (_, r) ← readMark ',' r
        let (format, r) ← readText r
        let (_, r) ← readMark ',' r
        let (path, r) ← readText r
        let (_, r) ← readMark ',' r
        let (nested, r) ← readNullable (fun r => readDescriptor depth r) r
        let (_, r) ← readMark ']' r
        some (.mk id (CredentialFormat.ofName format) path nested, r)
      else if c = '\x7b' then
        (Json.readSequence (readDescriptorMember fun r => readDescriptor depth r) '\x7d' rest).bind
          fun (ms, r) => (descriptorOfMembers ms).map fun d => (d, r)
      else none

/-! ## Submissions -/

/-- A member of a submission's object. -/
inductive Member where
  | id (s : String)
  | definitionId (s : String)
  | descriptors (ds : List Descriptor)
  | unknown

/-- An array of descriptors. -/
def readDescriptors (depth : Nat) : Reader (List Descriptor) := fun cs =>
  (readMark '[' cs).bind fun (_, r) => Json.readSequence (readDescriptor depth) ']' r

/-- A member of a submission's object, with the depth that is left for each descriptor. -/
def readMember (depth : Nat) : Reader Member := fun cs =>
  (Json.readName cs).bind fun (name, cs) =>
    if name = "id" then (readText cs).map fun (s, r) => (.id s, r)
    else if name = "definition_id" then (readText cs).map fun (s, r) => (.definitionId s, r)
    else if name = "descriptor_map" then
      (readDescriptors depth cs).map fun (ds, r) => (.descriptors ds, r)
    else (Json.skipValue cs).map fun (_, r) => (.unknown, r)

/-- The submission of an object's members: each field once. -/
def ofMembers (ms : List Member) : Option Submission :=
  let ids := ms.filterMap fun | .id s => some s | _ => none
  let definitionIds := ms.filterMap fun | .definitionId s => some s | _ => none
  let descriptors := ms.filterMap fun | .descriptors ds => some ds | _ => none
  match ids, definitionIds, descriptors with
  | [id], [definitionId], [ds] => some ⟨id, definitionId, ds⟩
  | _, _, _ => none

/-- A submission: an object, or an array of its three fields. -/
def readSubmission : Reader Submission := fun cs =>
  let depth := Json.nestingLimit - 2
  match skipSpace cs with
  | [] => none
  | c :: rest =>
    if c = '[' then do
      let (id, r) ← readText rest
      let (_, r) ← readMark ',' r
      let (definitionId, r) ← readText r
      let (_, r) ← readMark ',' r
      let (ds, r) ← readDescriptors depth r
      let (_, r) ← readMark ']' r
      some (⟨id, definitionId, ds⟩, r)
    else if c = '\x7b' then
      (Json.readSequence (readMember depth) '\x7d' rest).bind fun (ms, r) =>
        (ofMembers ms).map fun s => (s, r)
    else none

/-- The submission of a JSON text. -/
def parse (text : String) : Option Submission :=
  Json.whole readSubmission text.toList

/-- The submission of a parameter's value: a string that holds its text, or the value itself. -/
def ofParameter? : Json → Option Submission
  | .string text => parse text
  | v => ofJson? v

end Submission

end PresentationVerifier
