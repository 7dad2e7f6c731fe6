import PresentationVerifier.Asn1

/-!
# X.509 certificates

A certificate is only asked for the key of its subject. It is still read as a whole: a certificate
with any part that is not as the standard has it is no certificate.
-/

namespace PresentationVerifier

/-- The key of a certificate's subject: the identifier of its algorithm, the algorithm's parameters
and the bits of the key. -/
structure SubjectKey where
  algorithm : List UInt8
  parameters : Option Asn1.Element
  key : Asn1.Bits
deriving DecidableEq, Repr

namespace Certificate

open Asn1

/-! ## Common parts -/

/-- An object identifier. -/
def readIdentifier : Reader (List UInt8) := fun bytes =>
  (readTagged objectIdentifier bytes).bind fun (id, rest) =>
    if isObjectIdentifier id then some (id, rest) else none

/-- A value that may be missing at the end of its structure. -/
def readRest : Reader (Option Element)
  | [] => some (none, [])
  | bytes => (readElement bytes).map fun (e, rest) => (some e, rest)

/-- An algorithm: its identifier and optional parameters of any kind. -/
def readAlgorithm : Reader (List UInt8 × Option Element) := fun bytes =>
  (readTagged sequence bytes).bind fun (content, rest) => do
    let (id, tail) ← readIdentifier content
    let parameters ← whole readRest tail
    some ((id, parameters), rest)

/-- A bit string. -/
def readBits : Reader Bits := fun bytes =>
  (readTagged bitString bytes).bind fun (content, rest) => (bits? content).map fun b => (b, rest)

/-! ## Names, times and keys -/

/-- One attribute of a name: its type and its value. -/
def readAttribute : Reader (List UInt8 × Element) := fun bytes =>
  (readTagged sequence bytes).bind fun (content, rest) => do
    let (id, tail) ← readIdentifier content
    let value ← whole readElement tail
    some ((id, value), rest)

/-- A set of attributes, in any order but each one once. -/
def readAttributes : Reader Unit := fun bytes =>
  (readTagged set bytes).bind fun (content, rest) => do
    let attributes ← items readAttribute content
    if attributes.eraseDups.length = attributes.length then some ((), rest) else none

/-- A name: sets of attributes. -/
def readSubject : Reader Unit := fun bytes =>
  (readTagged sequence bytes).bind fun (content, rest) =>
    (items readAttributes content).map fun _ => ((), rest)

/-- A point in time in either form. -/
def readTime : Reader Unit := fun bytes =>
  (readElement bytes).bind fun (e, rest) =>
    if (e.tag = utcTime ∧ isUtcTime e.content) ∨
        (e.tag = generalizedTime ∧ isGeneralizedTime e.content) then
      some ((), rest)
    else none

/-- The period that a certificate is valid in. -/
def readValidity : Reader Unit := fun bytes =>
  (readTagged sequence bytes).bind fun (content, rest) => do
    let (_, tail) ← readTime content
    let _ ← whole readTime tail
    some ((), rest)

/-- The key of the subject. -/
def readSubjectKey : Reader SubjectKey := fun bytes =>
  (readTagged sequence bytes).bind fun (content, rest) => do
    let ((algorithm, parameters), tail) ← readAlgorithm content
    let key ← whole readBits tail
    some (⟨algorithm, parameters, key⟩, rest)

/-! ## Parts of the signed part -/

/-- An extension: its identifier, whether it is critical, its value. -/
def readExtension : Reader Unit := fun bytes =>
  (readTagged sequence bytes).bind fun (content, rest) => do
    let (_, tail) ← readIdentifier content
    let (critical, tail) ← readOptional boolean tail
    let _ ← whole (readTagged octetString) tail
    if critical = none ∨ critical = some [0x00] ∨ critical = some [0xFF] then some ((), rest)
    else none

/-- The version, the first numbered part: one of three. Without it the first version is meant. -/
def readVersion : Reader Unit := fun bytes =>
  (readNumbered 0 (explicitTag 0) bytes.length bytes).bind fun (version, rest) =>
    match version with
    | none => some ((), rest)
    | some content =>
      match whole (readTagged integer) content with
      | some [v] => if v ≤ 2 then some ((), rest) else none
      | _ => none

/-- The serial number: an integer of at most 21 bytes. -/
def readSerial : Reader Unit := fun bytes =>
  (readTagged integer bytes).bind fun (content, rest) =>
    if isInteger content ∧ content.length ≤ 21 then some ((), rest) else none

/-- An optional identifier with the given number, a bit string. -/
def readUniqueId (number : UInt8) : Reader Unit := fun bytes =>
  (readNumbered number (implicitTag number) bytes.length bytes).bind fun (content, rest) =>
    match content with
    | none => some ((), rest)
    | some c => (bits? c).map fun _ => ((), rest)

/-- The optional extensions. -/
def readExtensions : Reader Unit := fun bytes =>
  (readNumbered 3 (explicitTag 3) bytes.length bytes).bind fun (content, rest) =>
    match content with
    | none => some ((), rest)
    | some c => do
      let extensions ← whole (readTagged sequence) c
      let _ ← items readExtension extensions
      some ((), rest)

/-! ## Certificates -/

/-- The part of a certificate that is signed. -/
def readSigned : Reader SubjectKey := fun bytes =>
  (readTagged sequence bytes).bind fun (content, rest) => do
    let (_, tail) ← readVersion content
    let (_, tail) ← readSerial tail
    let (_, tail) ← readAlgorithm tail
    let (_, tail) ← readSubject tail
    let (_, tail) ← readValidity tail
    let (_, tail) ← readSubject tail
    let (key, tail) ← readSubjectKey tail
    let (_, tail) ← readUniqueId 1 tail
    let (_, tail) ← readUniqueId 2 tail
    let _ ← whole readExtensions tail
    some (key, rest)

/-- The key of the subject of the certificate with the given encoding. -/
def subjectKey? (bytes : List UInt8) : Option SubjectKey := do
  let content ← whole (readTagged sequence) bytes
  let (key, tail) ← readSigned content
  let (_, tail) ← readAlgorithm tail
  let _ ← whole readBits tail
  some key

end Certificate

end PresentationVerifier
