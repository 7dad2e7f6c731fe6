import PresentationVerifier.Disclosure
import PresentationVerifier.Hash.Algorithm
import PresentationVerifier.Json.Printer
import PresentationVerifier.Token

/-!
# Commitments to claims

The issuer of a credential commits to the claims that a holder may disclose: the digests of their
disclosures stand in arrays called `_sd`, at any place of the payload. A presentation passes when each
of its disclosures has its digest among the commitments and none comes twice.

The walk through the payload is bounded. The members of the payload are at depth one, the members or
elements of a value one deeper than the value. An array under the name `_sd` is not entered: its
strings are the digests.
-/

namespace PresentationVerifier

/-! ## The hash algorithm -/

/-- The hash algorithm that a payload names for its commitments. -/
def sdAlgorithm (payload : Json.Object) : Except Error (Option HashAlgorithm) :=
  match payload.get? "_sd_alg" with
  | none => .ok none
  | some (.string name) =>
    match HashAlgorithm.ofName? name with
    | some a => .ok (some a)
    | none => .error (.unsupportedSdAlg name)
  | some v => .error (.unsupportedSdAlg v.compact)

namespace Commitments

/-! ## The walk -/

/-- The name of the arrays that hold digests. -/
def arrayName : String := "_sd"

mutual

/-- The digests in a value at the given depth; `none` when the walk goes too deep. -/
def ofValue (limit depth : Nat) (v : Json) : Option (List String) :=
  if limit < depth then none
  else
    match v with
    | .object members => ofMembers limit depth members
    | .array items => ofItems limit (depth + 1) items
    | _ => some []

/-- The digests in the elements of an array, themselves at the given depth. -/
def ofItems (limit depth : Nat) : List Json → Option (List String)
  | [] => some []
  | v :: rest =>
    (ofValue limit depth v).bind fun found =>
      (ofItems limit depth rest).map fun more => found ++ more

/-- The digests in the members of an object at the given depth. -/
def ofMembers (limit depth : Nat) : List (String × Json) → Option (List String)
  | [] => some []
  | (name, v) :: rest =>
    (match name == arrayName, v with
      | true, .array digests => some (digests.filterMap Json.asString?)
      | _, v => ofValue limit (depth + 1) v).bind fun found =>
        (ofMembers limit depth rest).map fun more => found ++ more

end

/-- All digests in a payload, walked to the given depth. -/
def collect (limit : Nat) (payload : Json.Object) : Except Error (List String) :=
  match ofMembers limit 0 payload with
  | some digests => .ok digests
  | none => .error (.claimNestingTooDeep limit)

end Commitments

namespace Disclosure

/-! ## Disclosures -/

/-- Decodes a disclosure and looks its digest up among the commitments. -/
def check (algorithm : HashAlgorithm) (commitments : List String) (encoded : String) :
    Except Error Disclosure := do
  let d ← decode encoded
  if commitments.contains (algorithm.hash (Encoding.utf8Bytes encoded)) then .ok d
  else .error (.rejected .selectiveDisclosure (.undisclosedCommitment d.key))

/-- Checks disclosures in their order; `seen` are the encoded texts before them. -/
def checkAll (algorithm : HashAlgorithm) (commitments : List String) :
    (seen : List String) → List String → Except Error (List Disclosure)
  | _, [] => .ok []
  | seen, encoded :: rest => do
    let d ← check algorithm commitments encoded
    if seen.contains encoded then
      .error (.rejected .selectiveDisclosure (.duplicateDisclosure d.key))
    else
      let ds ← checkAll algorithm commitments (encoded :: seen) rest
      .ok (d :: ds)

/-- The disclosures of a credential, all of which have to pass. Without disclosures nothing is asked
of the payload. -/
def validate (limit : Nat) (credential : Token) : Except Error (List Disclosure) :=
  if credential.disclosures = [] then .ok []
  else do
    match ← sdAlgorithm credential.payload with
    | none => .error .missingSdAlg
    | some algorithm =>
      let commitments ← Commitments.collect limit credential.payload
      checkAll algorithm commitments [] credential.disclosures

end Disclosure

end PresentationVerifier
