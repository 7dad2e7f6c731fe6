import PresentationVerifier.Proofs.Composition
import PresentationVerifier.Proofs.Errors

/-!
# The token of a credential

What is checked as the presentation is one reading of a text, and the credential is another one: the token
keeps the text without the blanks around it, or what came out of the last envelope, and that text is read
again. The signed JWT of a token has only one text, since base64url has, and it stands at the front of what
the token keeps. So the second reading cannot fail, and gives the same token. All that an extraction still
depends on are the form of the submission and the type metadata in the header.

Main results:

* `structural_eq_signingInput`, `structural_prefix_raw`: the text of the signed JWT.
* `typeMetadata?_eq_ok_iff`, `typeMetadata?_eq_malformed_iff`: what is said of the type metadata.
* `extract_presented`: what is extracted from a token that was read.
-/

namespace PresentationVerifier

/-! ## The text of the signed JWT -/

/-- The first piece stands at the front of a text. -/
theorem Text.Pieces.first_prefix {α : Type} {sep : α} {as first : List α} {rest : List (List α)}
    (h : Pieces sep as (first :: rest)) : first <+: as := by
  have hJoined := h.joined
  cases rest with
  | nil => exact ⟨[], by simpa [join] using hJoined⟩
  | cons next others => exact ⟨sep :: join sep (next :: others), hJoined⟩

namespace Token

/-- The signature is all that stands behind the signing input and its dot. -/
theorem structural_eq_signingInput {text : String} {t : Token} (h : ofJws text = .ok t) :
    t.structural = t.signingInput ++ "." ++ segment t.signature := by
  obtain ⟨header, payload, -, -, hJws, hInput⟩ := exists_jwsText h
  rw [hInput, hJws, jwsText]

/-- The signed JWT stands at the front of the text that a token keeps. -/
theorem structural_prefix_raw {text : String} {t : Token} (h : ofJws text = .ok t) :
    t.structural.toList <+: t.raw.toList := by
  obtain ⟨structural, segments, tail, hDivided⟩ := exists_divided text
  have hWrites := (ofJws_eq_ok_iff_writes hDivided).mp h
  -- the signed JWT is the first piece of the text, and blanks are not kept
  have hFront := hDivided.parts.first_prefix
  rw [hWrites.structural, hWrites.raw, Text.trim, String.toList_ofList, String.toList_ofList]
  exact hFront

/-- The text that a token keeps reads as that token. -/
theorem ofJws_raw {text : String} {t : Token} (h : ofJws text = .ok t) : ofJws t.raw = .ok t.reread := by
  have hRead := ofJws_eq_ok_iff.mp h
  rw [reread_of_read hRead, ofJws_eq_ok_iff]
  exact read_raw_of_read hRead

end Token

/-! ## Type metadata -/

namespace Credential

/-- A text in base64url without the padding that may stand at its end. -/
def unpadded (encoded : String) : List Char :=
  encoded.toList.rdropWhile (· = '=')

/-- What the type metadata in a header are. A header has none when its `vctm` is no array or an empty
one; else that array has one element, the text of an object. -/
inductive HasTypeMetadata (header : Json.Object) : Option Json.Object → Prop where
  | absent (hNone : ∀ items, header.get? "vctm" = some (.array items) → items = []) :
      HasTypeMetadata header none
  | object {encoded : String} {o : Json.Object}
      (hOne : header.get? "vctm" = some (.array [.string encoded]))
      (hText : Token.EncodesJson (unpadded encoded) (.object o)) : HasTypeMetadata header (some o)

/-- The only element of the array `vctm` does not give an object, with what is told of it. -/
inductive MalformedTypeMetadata (header : Json.Object) : TokenError → Prop where
  | notText {v : Json} (hOne : header.get? "vctm" = some (.array [v]))
      (hText : ∀ encoded, v ≠ .string encoded) :
      MalformedTypeMetadata header (.invalidBase64 .typeMetadata)
  | text {encoded : String} {cause : TokenError}
      (hOne : header.get? "vctm" = some (.array [.string encoded]))
      (hCause : Token.decodeObject .typeMetadata (unpadded encoded) = .error cause) :
      MalformedTypeMetadata header cause

section Header

variable {header : Json.Object}

/-- A text is read like the segments of a signed JWT, but for the padding. -/
theorem typeMetadata?_of_text {encoded : String}
    (h : header.get? "vctm" = some (.array [.string encoded])) :
    typeMetadata? header =
      match Token.decodeObject .typeMetadata (unpadded encoded) with
      | .ok o => .ok (some o)
      | .error cause => .error (.malformedToken cause) := by
  have hPadding : Encoding.Base64.decodeTrimmed? Encoding.urlSafe encoded =
      Encoding.Base64.decodeChars Encoding.urlSafe (unpadded encoded) := rfl
  simp only [typeMetadata?, h, hPadding, Token.decodeObject]
  -- no base64url, no JSON text, or JSON that may be an object
  cases Encoding.Base64.decodeChars Encoding.urlSafe (unpadded encoded) with
  | none => rfl
  | some bytes =>
    dsimp only
    cases Json.parseBytes bytes with
    | none => rfl
    | some v => cases v <;> rfl

/-- Without an array of elements there are no type metadata, which is no error. -/
theorem typeMetadata?_of_absent
    (h : ∀ items, header.get? "vctm" = some (.array items) → items = []) :
    typeMetadata? header = .ok none := by
  unfold typeMetadata?
  -- an array with elements is the only form that gives anything but this
  split
  · rfl
  · next hOne => cases h _ hOne
  · next hOne => cases h _ hOne
  · next items hEmpty hText hSingle hMany => exact absurd (h _ hMany) (by rintro rfl; exact hEmpty rfl)
  · rfl

/-- A single element that is no text is reported like one that is not in base64url. -/
theorem typeMetadata?_of_not_text {v : Json} (h : header.get? "vctm" = some (.array [v]))
    (hText : ∀ encoded, v ≠ .string encoded) :
    typeMetadata? header = .error (.malformedToken (.invalidBase64 .typeMetadata)) := by
  simp only [typeMetadata?, h]

theorem typeMetadata?_of_many {first second : Json} {rest : List Json}
    (h : header.get? "vctm" = some (.array (first :: second :: rest))) :
    typeMetadata? header = .error (.unsupported "more than one vctm entry") := by
  simp only [typeMetadata?, h]

/-- The forms that a header can have. -/
theorem typeMetadata_forms (header : Json.Object) :
    (∀ items, header.get? "vctm" = some (.array items) → items = []) ∨
      (∃ encoded, header.get? "vctm" = some (.array [.string encoded])) ∨
      (∃ v, header.get? "vctm" = some (.array [v]) ∧ ∀ encoded, v ≠ .string encoded) ∨
      ∃ first second rest, header.get? "vctm" = some (.array (first :: second :: rest)) := by
  -- of the arrays with one element those with a text stand apart from all other kinds
  match hFound : header.get? "vctm" with
  | some (.array []) => simp
  | some (.array [.string encoded]) => simp
  | some (.array [.null]) | some (.array [.bool _]) | some (.array [.number _])
  | some (.array [.array _]) | some (.array [.object _]) => simp
  | some (.array (_ :: _ :: _)) => simp
  | none | some .null | some (.bool _) | some (.number _) | some (.string _) | some (.object _) => simp

/-- In each form there are type metadata, or it is malformed, or it is not supported. -/
theorem typeMetadata?_cases (header : Json.Object) :
    (∃ metadata, HasTypeMetadata header metadata ∧ typeMetadata? header = .ok metadata) ∨
      (∃ cause, MalformedTypeMetadata header cause ∧
        typeMetadata? header = .error (.malformedToken cause)) ∨
      typeMetadata? header = .error (.unsupported "more than one vctm entry") := by
  rcases typeMetadata_forms header with hNone | ⟨encoded, hOne⟩ | ⟨v, hOne, hOther⟩ |
    ⟨first, second, rest, hMany⟩
  · exact Or.inl ⟨none, .absent hNone, typeMetadata?_of_absent hNone⟩
  · have hRead := typeMetadata?_of_text hOne
    cases hDecode : Token.decodeObject .typeMetadata (unpadded encoded) with
    | error cause =>
      rw [hDecode] at hRead
      exact Or.inr (Or.inl ⟨cause, .text hOne hDecode, hRead⟩)
    | ok o =>
      have hText : Token.EncodesJson (unpadded encoded) (.object o) :=
        Token.decodeObject_eq_ok_iff.mp hDecode
      rw [hDecode] at hRead
      exact Or.inl ⟨some o, .object hOne hText, hRead⟩
  · exact Or.inr (Or.inl ⟨_, .notText hOne hOther, typeMetadata?_of_not_text hOne hOther⟩)
  · exact Or.inr (Or.inr (typeMetadata?_of_many hMany))

/-- The type metadata that are read are those that the header has. -/
theorem typeMetadata?_eq_ok_iff {metadata : Option Json.Object} :
    typeMetadata? header = .ok metadata ↔ HasTypeMetadata header metadata := by
  constructor
  · intro h
    -- the other two forms have another result
    rcases typeMetadata?_cases header with ⟨found, hFound, hOk⟩ | ⟨cause, -, hError⟩ | hError
    · rw [hOk] at h
      obtain rfl := Except.ok.inj h
      exact hFound
    · rw [hError] at h
      cases h
    · rw [hError] at h
      cases h
  · intro h
    cases h with
    | absent hNone => exact typeMetadata?_of_absent hNone
    | object hOne hText => rw [typeMetadata?_of_text hOne, Token.decodeObject_eq_ok_iff.mpr hText]

/-- The type metadata are reported as malformed exactly when they are, with the same cause. -/
theorem typeMetadata?_eq_malformed_iff {cause : TokenError} :
    typeMetadata? header = .error (.malformedToken cause) ↔ MalformedTypeMetadata header cause := by
  constructor
  · intro h
    rcases typeMetadata?_cases header with ⟨found, -, hOk⟩ | ⟨cause', hCause, hError⟩ | hError
    · rw [hOk] at h
      cases h
    · rw [hError] at h
      cases h
      exact hCause
    · rw [hError] at h
      cases h
  · intro h
    cases h with
    | notText hOne hOther => exact typeMetadata?_of_not_text hOne hOther
    | text hOne hCause => rw [typeMetadata?_of_text hOne, hCause]

end Header

end Credential

/-! ## Extraction -/

namespace Presentation

/-- A token that reads again as itself is never the reason that an extraction fails. -/
theorem extract_eq_malformed_iff {s : Submission} {t : Token} (hRaw : Token.ofJws t.raw = .ok t.reread)
    {cause : TokenError} :
    extract s t = .error (.malformedToken cause) ↔
      s.Supported ∧ Credential.typeMetadata? t.header = .error (.malformedToken cause) := by
  have hHeader : t.reread.header = t.header := rfl
  -- of the steps only the type metadata can be malformed
  unfold extract
  simp only [hRaw, bind_eq_error, Credential.ofToken, hHeader]
  constructor
  · rintro (hDescriptor | ⟨d, hDescriptor, (hMetadata | ⟨_, -, hPure⟩) | ⟨_, -, hPure⟩⟩)
    · -- the form of a submission is not supported, which is no fault of a token
      obtain ⟨feature, hFeature⟩ := error_of_supportedDescriptor hDescriptor
      cases hFeature
    · exact ⟨⟨d, supportedDescriptor_eq_ok_iff.mp hDescriptor⟩, hMetadata⟩
    · cases hPure
    · cases hPure
  · rintro ⟨⟨d, hSupported⟩, hMetadata⟩
    exact Or.inr ⟨d, supportedDescriptor_eq_ok_iff.mpr hSupported, Or.inl (Or.inl hMetadata)⟩

/-- **The credential is the presented token**: a token that was read, in envelopes or not, has its signed
JWT at the front of the text that it keeps, and this text reads as the token again. So from a token exactly
one credential is extracted, which is the token, if the submission is supported and the header has type
metadata that can be read; and nothing else about the token can be malformed. -/
theorem extract_presented {t : Token}
    (hToken : (∃ text, Token.ofJws text = .ok t) ∨
      ∃ decrypter limit text, (Token.unwrap decrypter limit text).result = .ok t) :
    t.structural = t.signingInput ++ "." ++ Token.segment t.signature ∧
    t.structural.toList <+: t.raw.toList ∧
    Token.ofJws t.raw = .ok { t with decrypted := false } ∧
    ∀ s : Submission,
      ((∃ credentials, extract s t = .ok credentials) ↔
        s.Supported ∧ ∃ metadata, Credential.HasTypeMetadata t.header metadata) ∧
      (∀ credentials, extract s t = .ok credentials →
        ∃ metadata, Credential.HasTypeMetadata t.header metadata ∧
          credentials = [⟨.vcSdJwt, { t with decrypted := false }, metadata, []⟩]) ∧
      ∀ cause, extract s t = .error (.malformedToken cause) ↔
        s.Supported ∧ Credential.MalformedTypeMetadata t.header cause := by
  have hRaw : Token.ofJws t.raw = .ok t.reread := by
    rcases hToken with ⟨text, hText⟩ | ⟨decrypter, limit, text, hUnwrap⟩
    · exact Token.ofJws_raw hText
    · exact Token.ofJws_raw_of_unwrap hUnwrap
  -- the mark that it came in an envelope is in none of its texts
  have hStructural : t.structural = t.signingInput ++ "." ++ Token.segment t.signature :=
    Token.structural_eq_signingInput (t := t.reread) hRaw
  have hFront : t.structural.toList <+: t.raw.toList :=
    Token.structural_prefix_raw (t := t.reread) hRaw
  refine ⟨hStructural, hFront, hRaw, fun s => ⟨?_, ?_, ?_⟩⟩
  · simp only [extract_eq_ok_iff hRaw, Credential.typeMetadata?_eq_ok_iff]
    constructor
    · rintro ⟨_, hSupported, metadata, hMetadata, -⟩
      exact ⟨hSupported, metadata, hMetadata⟩
    · rintro ⟨hSupported, metadata, hMetadata⟩
      exact ⟨_, hSupported, metadata, hMetadata, rfl⟩
  · intro credentials h
    obtain ⟨-, metadata, hMetadata, hOne⟩ := (extract_eq_ok_iff hRaw).mp h
    exact ⟨metadata, Credential.typeMetadata?_eq_ok_iff.mp hMetadata, hOne⟩
  · intro cause
    rw [extract_eq_malformed_iff hRaw, Credential.typeMetadata?_eq_malformed_iff]

/-- A token with blanks around it and with type metadata, in an envelope that something follows. -/
theorem extract_presented_sealed :
    ∃ t, (Token.unwrap (some fun _ => .ok (Encoding.utf8Bytes " eyJ2Y3RtIjpbImUzMD0iXX0.e30.AQ~d1 ")) 1
        "a.b.c.d.e~x").result = .ok t ∧
      t.decrypted = true ∧ t.raw = "eyJ2Y3RtIjpbImUzMD0iXX0.e30.AQ~d1" ∧
      Token.ofJws t.raw = .ok { t with decrypted := false } ∧
      extract ⟨"s", "d", [.new "i" .vcSdJwt "$"]⟩ t =
        .ok [⟨.vcSdJwt, { t with decrypted := false }, some [], []⟩] := by
  have hUnwrap : (Token.unwrap (some fun _ =>
      .ok (Encoding.utf8Bytes " eyJ2Y3RtIjpbImUzMD0iXX0.e30.AQ~d1 ")) 1 "a.b.c.d.e~x").result = .ok
        ⟨"eyJ2Y3RtIjpbImUzMD0iXX0.e30.AQ~d1", "eyJ2Y3RtIjpbImUzMD0iXX0.e30.AQ",
          [("vctm", .array [.string "e30="])], [], [1], ["d1"], none, true⟩ := rfl
  obtain ⟨-, -, hRaw, hExtract⟩ := extract_presented (Or.inr ⟨_, _, _, hUnwrap⟩)
  obtain ⟨hOk, hOne, -⟩ := hExtract ⟨"s", "d", [.new "i" .vcSdJwt "$"]⟩
  have hSupported : Submission.Supported ⟨"s", "d", [.new "i" .vcSdJwt "$"]⟩ := ⟨_, rfl, rfl, rfl, rfl⟩
  have hText : Token.EncodesJson (Credential.unpadded "e30=") (.object []) :=
    Token.decodeObject_eq_ok_iff.mp (show Token.decodeObject .typeMetadata _ = _ from rfl)
  obtain ⟨credentials, hFound⟩ := hOk.mpr ⟨hSupported, some [], .object rfl hText⟩
  obtain ⟨metadata, hMetadata, rfl⟩ := hOne credentials hFound
  -- the type metadata is the only part that the statement leaves open
  have hEmpty : metadata = some [] :=
    Except.ok.inj ((Credential.typeMetadata?_eq_ok_iff.mpr hMetadata).symm.trans rfl)
  rw [hEmpty] at hFound
  exact ⟨_, hUnwrap, rfl, rfl, hRaw, hFound⟩

end Presentation

end PresentationVerifier
