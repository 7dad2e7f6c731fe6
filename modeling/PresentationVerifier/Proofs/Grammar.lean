import PresentationVerifier.Proofs.Demands

/-!
# The grammar of signed tokens

A text without the blanks around it is divided at its tildes, and what stands before the first of them at
its dots (`Token.Divided`). `Token.Writes` says which divided texts are signed tokens, and which ones:
three segments in base64url without padding, the first two of JSON objects, and a tail of disclosures with
at most one Key Binding JWT among them. Empty segments of the tail count for nothing.

Main results:

* `ofSegments_eq_ok_iff`: what is read from three segments and a tail.
* `ofJws_decided`: the errors of reading a signed token, in their order.
* `ofJws_grammar`: a text reads as a token exactly when it writes that token.
-/

namespace PresentationVerifier.Token

/-! ## Dividing a text -/

/-- The parts of a text: between tildes the signed JWT and the segments of the tail, and between dots the
segments of the signed JWT. -/
structure Divided (text : String) (structural : List Char) (segments tail : List (List Char)) :
    Prop where
  parts : Text.Pieces separator (Text.trimBlanks text.toList) (structural :: tail)
  segments : Text.Pieces '.' structural segments

theorem exists_divided (text : String) : ∃ structural segments tail, Divided text structural segments tail := by
  -- there is a piece before the first tilde, even if it is empty
  cases hParts : Text.splitAt separator (Text.trimBlanks text.toList) with
  | nil => exact absurd hParts (Text.splitAt_ne_nil _ _)
  | cons structural tail =>
    exact ⟨structural, _, tail, Text.splitAt_eq_iff.mp hParts, Text.splitAt_eq_iff.mp rfl⟩

/-- An empty text has a single segment. -/
theorem Divided.trimmed_ne_nil {text : String} {structural : List Char}
    {segments tail : List (List Char)} (h : Divided text structural segments tail)
    (hMany : segments.length ≠ 1) : Text.trimBlanks text.toList ≠ [] := by
  intro hEmpty
  have hParts := Text.splitAt_eq_iff.mpr h.parts
  rw [hEmpty] at hParts
  obtain ⟨rfl, -⟩ := List.cons.inj hParts
  have hSegments := Text.splitAt_eq_iff.mpr h.segments
  rw [← hSegments] at hMany
  exact hMany rfl

/-- Of the tail only the segments that are not empty are kept. -/
theorem parts_eq {cs structural : List Char} {tail : List (List Char)}
    (h : Text.Pieces separator cs (structural :: tail)) :
    parts cs = (structural, tail.filter (· ≠ [])) := by
  have hSplit := Text.splitAt_eq_iff.mpr h
  unfold parts
  -- no tilde, and so no tail, or the first one with the tail behind it
  cases hFirst : Text.splitFirst separator cs with
  | none =>
    rw [Text.splitAt_of_not_mem (Text.splitFirst_eq_none_iff.mp hFirst)] at hSplit
    obtain ⟨rfl, rfl⟩ := List.cons.inj hSplit
    rfl
  | some halves =>
    obtain ⟨before, after⟩ := halves
    obtain ⟨rfl, hFree⟩ := Text.splitFirst_eq_some_iff.mp hFirst
    rw [Text.splitAt_append hFree] at hSplit
    obtain ⟨rfl, rfl⟩ := List.cons.inj hSplit
    rfl

/-! ## The tail -/

/-- A segment of the tail has as many parts between dots as a signed or an encrypted JWT. -/
def TokenShaped (segment : List Char) : Prop :=
  ∃ pieces, Text.Pieces '.' segment pieces ∧ (pieces.length = 3 ∨ pieces.length = 5)

/-- What is taken as a Key Binding JWT is what is shaped like a token. -/
theorem isKeyBinding_iff {segment : List Char} : isKeyBinding segment = true ↔ TokenShaped segment := by
  simp only [TokenShaped, ← Text.splitAt_eq_iff, exists_eq_left', isKeyBinding, signedSegments,
    encryptedSegments, Bool.or_eq_true, beq_iff_eq]

/-- Whether a segment is shaped like a token is decided by counting its parts. -/
instance : DecidablePred TokenShaped :=
  fun _ => decidable_of_iff _ isKeyBinding_iff

/-- The segments of a tail that are shaped like tokens. -/
def bindingsIn (tail : List (List Char)) : List (List Char) :=
  tail.filter fun segment => segment ≠ [] ∧ TokenShaped segment

/-- All other segments of a tail that are not empty. -/
def disclosuresIn (tail : List (List Char)) : List (List Char) :=
  tail.filter fun segment => segment ≠ [] ∧ ¬TokenShaped segment

/-- Of the segments that are kept those shaped like tokens are all that the tail has. -/
theorem filter_isKeyBinding (tail : List (List Char)) :
    (tail.filter (· ≠ [])).filter isKeyBinding = bindingsIn tail := by
  rw [List.filter_filter, bindingsIn]
  refine List.filter_congr fun segment _ => ?_
  rw [Bool.eq_iff_iff]
  simp [isKeyBinding_iff, and_comm]

/-- The other segments that are kept are the disclosures. -/
theorem filter_not_isKeyBinding (tail : List (List Char)) :
    ((tail.filter (· ≠ [])).filter fun segment => !isKeyBinding segment) = disclosuresIn tail := by
  rw [List.filter_filter, disclosuresIn]
  refine List.filter_congr fun segment _ => ?_
  rw [Bool.eq_iff_iff]
  simp [← isKeyBinding_iff, and_comm]

/-- The Key Binding JWT that is found is the only segment of its shape; without one there is none. -/
theorem findKeyBinding_eq_ok_iff {tail : List (List Char)} {binding : Option (List Char)} :
    findKeyBinding (tail.filter (· ≠ [])) = .ok binding ↔ bindingsIn tail = binding.toList := by
  unfold findKeyBinding
  rw [filter_isKeyBinding]
  -- none, one, or more than one
  match bindingsIn tail with
  | [] => cases binding <;> simp
  | [one] => cases binding <;> simp
  | _ :: _ :: _ => cases binding <;> simp

/-! ## The segments of a signed JWT -/

/-- A segment is the base64url text of some bytes, without padding. -/
def EncodesBytes (segment : List Char) (bytes : List UInt8) : Prop :=
  segment = Encoding.Base64.encodeChars Encoding.urlSafe bytes

/-- A segment encodes the JSON text of a value. -/
def EncodesJson (segment : List Char) (v : Json) : Prop :=
  ∃ json : String, EncodesBytes segment (Encoding.utf8Bytes json) ∧ Json.parse json = some v

/-- What is demanded of a segment that encodes an object. -/
def objectDemands (part : TokenPart) (segment : List Char) : List (Demand TokenError) :=
  [⟨∃ bytes, EncodesBytes segment bytes, .invalidBase64 part⟩,
    ⟨∃ v, EncodesJson segment v, .invalidJson part⟩,
    ⟨∃ o, EncodesJson segment (.object o), .notAnObject part⟩]

/-- A segment is the text of the bytes that are decoded from it. -/
theorem encodesBytes_iff {segment : List Char} {bytes : List UInt8} :
    EncodesBytes segment bytes ↔
      Encoding.Base64.decodeChars Encoding.urlSafe segment = some bytes :=
  (Encoding.Base64.decodeChars_eq_some_iff Encoding.urlSafe_distinct).symm

/-- A segment encodes the value that is parsed from its bytes. -/
theorem encodesJson_iff {segment : List Char} {bytes : List UInt8}
    (h : EncodesBytes segment bytes) {v : Json} :
    EncodesJson segment v ↔ Json.parseBytes bytes = some v := by
  rw [Json.parseBytes, Option.bind_eq_some_iff]
  refine exists_congr fun json => and_congr_left fun _ => ?_
  -- a segment encodes one row of bytes only
  rw [encodesBytes_iff, encodesBytes_iff.mp h, Option.some.injEq]
  constructor
  · rintro rfl
    exact Encoding.utf8Text?_utf8Bytes json
  · intro hText
    exact Encoding.utf8Bytes_of_utf8Text? hText

theorem bytes_of_encodesJson {segment : List Char} {v : Json} (h : EncodesJson segment v) :
    ∃ bytes, EncodesBytes segment bytes := by
  obtain ⟨json, hBytes, -⟩ := h
  exact ⟨_, hBytes⟩

/-- The object that is decoded from a segment is the one that it encodes. -/
theorem decodeObject_eq_ok_iff {part : TokenPart} {segment : List Char} {o : Json.Object} :
    decodeObject part segment = .ok o ↔ EncodesJson segment (.object o) := by
  unfold decodeObject
  cases hBytes : Encoding.Base64.decodeChars Encoding.urlSafe segment with
  | none =>
    constructor
    · intro h
      cases h
    · intro h
      obtain ⟨bytes, hEncodes⟩ := bytes_of_encodesJson h
      rw [encodesBytes_iff, hBytes] at hEncodes
      cases hEncodes
  | some bytes =>
    rw [encodesJson_iff (encodesBytes_iff.mpr hBytes)]
    dsimp only
    cases Json.parseBytes bytes with
    | none => simp
    | some v => cases v <;> simp

/-- A segment is demanded to be base64url, then JSON text and then that of an object. -/
theorem decodeObject_decided (part : TokenPart) (segment : List Char) :
    Decides (objectDemands part segment) (decodeObject part segment) := by
  unfold objectDemands decodeObject
  cases hBytes : Encoding.Base64.decodeChars Encoding.urlSafe segment with
  | none =>
    refine .cons_of_unmet ?_ rfl
    rintro ⟨bytes, hEncodes⟩
    rw [encodesBytes_iff, hBytes] at hEncodes
    cases hEncodes
  | some bytes =>
    -- from here on it is only asked what is in the bytes
    have hEncodes := encodesBytes_iff.mpr hBytes
    refine .cons_of_met ⟨bytes, hEncodes⟩ ?_
    simp only [encodesJson_iff hEncodes]
    cases Json.parseBytes bytes with
    | none => exact .cons_of_unmet (by simp) rfl
    | some v =>
      refine .cons_of_met ⟨v, rfl⟩ ?_
      cases v with
      | object o => exact .cons_of_met ⟨o, rfl⟩ ⟨o, rfl⟩
      | null | bool b | number n | string text | array items =>
        exact .cons_of_unmet (by simp) rfl

/-- The signature that is decoded is the one whose text the segment is. -/
theorem decodeSignature_eq_ok_iff {segment : List Char} {bytes : List UInt8} :
    decodeSignature segment = .ok bytes ↔ EncodesBytes segment bytes := by
  rw [encodesBytes_iff, decodeSignature]
  cases Encoding.Base64.decodeChars Encoding.urlSafe segment with
  | none => simp
  | some found => simp

/-- What is demanded of the segment of the signature. -/
def signatureDemands (segment : List Char) : List (Demand TokenError) :=
  [⟨∃ bytes, EncodesBytes segment bytes, .invalidBase64 .signature⟩]

theorem decodeSignature_decided (segment : List Char) :
    Decides (signatureDemands segment) (decodeSignature segment) := by
  unfold signatureDemands decodeSignature
  simp only [encodesBytes_iff]
  cases Encoding.Base64.decodeChars Encoding.urlSafe segment with
  | none => exact .cons_of_unmet (by simp) rfl
  | some bytes => exact .cons_of_met ⟨bytes, rfl⟩ ⟨bytes, rfl⟩

/-- What is demanded of the tail. -/
def tailDemands (tail : List (List Char)) : List (Demand TokenError) :=
  [⟨(bindingsIn tail).length ≤ 1, .ambiguousKeyBinding⟩]

/-- Of the tail it is demanded that not two segments are shaped like tokens. -/
theorem findKeyBinding_decided (tail : List (List Char)) :
    Decides (tailDemands tail) (findKeyBinding (tail.filter (· ≠ []))) := by
  unfold tailDemands findKeyBinding
  rw [filter_isKeyBinding]
  match bindingsIn tail with
  | [] => exact .cons_of_met (by simp) ⟨_, rfl⟩
  | [one] => exact .cons_of_met (by simp) ⟨_, rfl⟩
  | first :: second :: rest => exact .cons_of_unmet (by simp) rfl

/-! ## Signed tokens -/

/-- What is demanded of the three segments of a signed JWT and of the tail after it. -/
def signedDemands (header payload signature : List Char) (tail : List (List Char)) :
    List (Demand TokenError) :=
  objectDemands .header header ++ (objectDemands .payload payload ++
    (signatureDemands signature ++ tailDemands tail))

/-- What is demanded of a text without blanks around it. The segments that are not there are never looked
at, since before that their number is. -/
def textDemands (cs : List Char) (segments tail : List (List Char)) : List (Demand TokenError) :=
  [⟨cs ≠ [], .empty⟩, ⟨segments.length ≠ 2, .unsigned⟩, ⟨segments.length ≠ 5, .noDecrypter⟩,
    ⟨segments.length = 3, .invalidStructure segments.length⟩] ++
    signedDemands (segments.getD 0 []) (segments.getD 1 []) (segments.getD 2 []) tail

/-- The segments and the tail of a text write a signed token. -/
structure Writes (text : String) (structural : List Char) (segments tail : List (List Char))
    (t : Token) : Prop where
  raw : t.raw = Text.trim text
  structural : t.structural = String.ofList structural
  segments : ∃ header payload signature, segments = [header, payload, signature] ∧
    EncodesJson header (.object t.header) ∧ EncodesJson payload (.object t.payload) ∧
      EncodesBytes signature t.signature
  keyBinding : (bindingsIn tail).map String.ofList = t.keyBinding.toList
  disclosures : (disclosuresIn tail).map String.ofList = t.disclosures
  plain : t.decrypted = false

/-- The segments are looked at in their order, and the tail after them. -/
theorem ofSegments_decided (cs structural header payload signature : List Char)
    (tail : List (List Char)) :
    Decides (signedDemands header payload signature tail)
      (ofSegments cs structural header payload signature (tail.filter (· ≠ []))) := by
  refine Decides.bind (decodeObject_decided _ _) fun _ _ => ?_
  refine Decides.bind (decodeObject_decided _ _) fun _ _ => ?_
  refine Decides.bind (decodeSignature_decided _) fun _ _ => ?_
  -- nothing can fail after the tail
  rw [← List.append_nil (tailDemands tail)]
  exact Decides.bind (findKeyBinding_decided _) fun _ _ => ⟨_, rfl⟩

/-- A list that becomes at most one item has at most one. -/
theorem exists_toList_of_map {α β : Type} {f : α → β} {as : List α} {o : Option β}
    (h : as.map f = o.toList) : ∃ a : Option α, as = a.toList ∧ a.map f = o := by
  cases o with
  | none => exact ⟨none, List.map_eq_nil_iff.mp h, rfl⟩
  | some b =>
    obtain ⟨a, rfl, rfl⟩ := List.map_eq_singleton_iff.mp h
    exact ⟨some a, rfl, rfl⟩

theorem ofSegments_eq_ok_iff {cs structural header payload signature : List Char}
    {tail : List (List Char)} {t : Token} :
    ofSegments cs structural header payload signature (tail.filter (· ≠ [])) = .ok t ↔
      t.raw = String.ofList cs ∧ t.structural = String.ofList structural ∧
        EncodesJson header (.object t.header) ∧ EncodesJson payload (.object t.payload) ∧
        EncodesBytes signature t.signature ∧
        (bindingsIn tail).map String.ofList = t.keyBinding.toList ∧
        (disclosuresIn tail).map String.ofList = t.disclosures ∧ t.decrypted = false := by
  simp only [ofSegments, bind_eq_ok, decodeObject_eq_ok_iff, decodeSignature_eq_ok_iff,
    findKeyBinding_eq_ok_iff, filter_not_isKeyBinding, pure, Except.pure, Except.ok.injEq]
  constructor
  · rintro ⟨headerObject, hHeader, payloadObject, hPayload, bytes, hSignature, binding, hBinding, rfl⟩
    refine ⟨rfl, rfl, hHeader, hPayload, hSignature, ?_, rfl, rfl⟩
    rw [hBinding, Option.toList_map]
  · rintro ⟨hRaw, hStructural, hHeader, hPayload, hSignature, hBinding, hDisclosures, hPlain⟩
    -- the segment of the Key Binding JWT is the only one of its shape
    obtain ⟨binding, hOne, hText⟩ := exists_toList_of_map hBinding
    refine ⟨_, hHeader, _, hPayload, _, hSignature, binding, hOne, ?_⟩
    rw [hText, ← hRaw, ← hStructural, hDisclosures, ← hPlain]

/-- Reading a signed token, in terms of how the text is divided. -/
theorem ofJws_of_divided {text : String} {structural : List Char} {segments tail : List (List Char)}
    (h : Divided text structural segments tail) :
    ofJws text =
      if Text.trimBlanks text.toList = [] then .error .empty
      else
        -- the numbers of segments that the reading tells apart
        match segments with
        | [_, _] => .error .unsigned
        | [header, payload, signature] =>
          ofSegments (Text.trimBlanks text.toList) structural header payload signature
            (tail.filter (· ≠ []))
        | [_, _, _, _, _] => .error .noDecrypter
        | segments => .error (.invalidStructure segments.length) := by
  unfold ofJws read shape
  rw [parts_eq h.parts]
  by_cases hEmpty : Text.trimBlanks text.toList = []
  · rw [if_pos hEmpty, if_pos hEmpty]
  · rw [if_neg hEmpty, if_neg hEmpty]
    dsimp only
    rw [Text.splitAt_eq_iff.mpr h.segments]
    match segments with
    | [] | [_] | [_, _] | [_, _, _, _] | [_, _, _, _, _] => rfl
    | _ :: _ :: _ :: _ :: _ :: _ :: _ => rfl
    | [header, payload, signature] =>
      dsimp only
      cases ofSegments (Text.trimBlanks text.toList) structural header payload signature
        (tail.filter (· ≠ [])) <;> rfl

/-- The errors of reading a signed token, in their order. -/
theorem ofJws_decided {text : String} {structural : List Char} {segments tail : List (List Char)}
    (h : Divided text structural segments tail) :
    Decides (textDemands (Text.trimBlanks text.toList) segments tail) (ofJws text) := by
  rw [ofJws_of_divided h]
  by_cases hEmpty : Text.trimBlanks text.toList = []
  · rw [if_pos hEmpty]
    exact .cons_of_unmet (fun hSome => hSome hEmpty) rfl
  · rw [if_neg hEmpty]
    refine .cons_of_met hEmpty ?_
    -- the demands on the number of segments stand before those on what they encode
    match segments with
    | [_, _] => exact .cons_of_unmet (fun h => h rfl) rfl
    | [header, payload, signature] =>
      refine .cons_of_met (by simp) (.cons_of_met (by simp) (.cons_of_met rfl ?_))
      exact ofSegments_decided _ _ _ _ _ _
    | [_, _, _, _, _] => exact .cons_of_met (by simp) (.cons_of_unmet (fun h => h rfl) rfl)
    | [] | [_] | [_, _, _, _] =>
      exact .cons_of_met (by simp) (.cons_of_met (by simp) (.cons_of_unmet (by simp) rfl))
    | _ :: _ :: _ :: _ :: _ :: _ :: _ =>
      exact .cons_of_met (by simp) (.cons_of_met (by simp) (.cons_of_unmet (by simp) rfl))

/-- No demand on a text is about decryption. -/
theorem error_of_textDemands {cs : List Char} {segments tail : List (List Char)}
    {d : Demand TokenError} (h : d ∈ textDemands cs segments tail) (cause : String) :
    d.error ≠ .decryption cause := by
  simp only [textDemands, signedDemands, objectDemands, signatureDemands, tailDemands,
    List.mem_append, List.mem_cons, List.not_mem_nil, or_false] at h
  -- no row has such an error, as each of its demands shows
  rcases h with (rfl | rfl | rfl | rfl) | (rfl | rfl | rfl) | (rfl | rfl | rfl) | rfl | rfl <;>
    exact fun h => by cases h

/-- A text that does not read as a signed token is malformed, whatever step reads it. -/
theorem malformed_of_ofJws {text : String} {e : TokenError} (h : ofJws text = .error e) (step : Step) :
    e.at step = .malformedToken e := by
  obtain ⟨structural, segments, tail, hDivided⟩ := exists_divided text
  obtain ⟨before, d, after, hSplit, -, -, rfl⟩ := (ofJws_decided hDivided).error_iff.mp h
  have hDemand : d ∈ textDemands (Text.trimBlanks text.toList) segments tail := by
    rw [hSplit]
    simp
  cases hError : d.error with
  | decryption cause => exact absurd hError (error_of_textDemands hDemand cause)
  | _ => rfl

/-- A text that is divided so is read as the token that these parts write. -/
theorem ofJws_eq_ok_iff_writes {text : String} {structural : List Char}
    {segments tail : List (List Char)} (h : Divided text structural segments tail) {t : Token} :
    ofJws text = .ok t ↔ Writes text structural segments tail t := by
  rw [ofJws_of_divided h]
  constructor
  · intro hOk
    split at hOk
    · cases hOk
    · split at hOk
      · cases hOk
      · next header payload signature _ =>
        obtain ⟨hRaw, hStructural, hHeader, hPayload, hSignature, hBinding, hDisclosures, hPlain⟩ :=
          ofSegments_eq_ok_iff.mp hOk
        exact ⟨hRaw, hStructural, ⟨header, payload, signature, rfl, hHeader, hPayload, hSignature⟩,
          hBinding, hDisclosures, hPlain⟩
      · cases hOk
      · cases hOk
  · rintro ⟨hRaw, hStructural, ⟨header, payload, signature, rfl, hHeader, hPayload, hSignature⟩,
      hBinding, hDisclosures, hPlain⟩
    have hSome := h.trimmed_ne_nil (by simp)
    rw [if_neg hSome]
    exact ofSegments_eq_ok_iff.mpr
      ⟨hRaw, hStructural, hHeader, hPayload, hSignature, hBinding, hDisclosures, hPlain⟩

/-- **The grammar**: a text reads as a token exactly when it writes that token, and it reads as some token
exactly when all demands are met; else the error is that of the first demand that is not. Where the first
part of a text has five segments, nothing behind it is looked at. -/
theorem ofJws_grammar (text : String) :
    ∃ structural segments tail, Divided text structural segments tail ∧
      (∀ t, ofJws text = .ok t ↔ Writes text structural segments tail t) ∧
      ((∃ t, ofJws text = .ok t) ↔
        ∀ d ∈ textDemands (Text.trimBlanks text.toList) segments tail, d.met) ∧
      Decides (textDemands (Text.trimBlanks text.toList) segments tail) (ofJws text) ∧
      (segments.length = 5 → ∀ text' tail', Divided text' structural segments tail' →
        ofJws text' = .error .noDecrypter) := by
  obtain ⟨structural, segments, tail, h⟩ := exists_divided text
  have hDecided := ofJws_decided h
  refine ⟨structural, segments, tail, h, fun t => ofJws_eq_ok_iff_writes h, hDecided.ok_iff, hDecided,
    ?_⟩
  -- the number of segments settles it, and the tail is not looked at
  intro hFive text' tail' h'
  rw [ofJws_of_divided h', if_neg (h'.trimmed_ne_nil (by omega))]
  match segments, hFive with
  | [_, _, _, _, _], _ => rfl

/-- What follows an envelope may be anything. -/
theorem ofJws_grammar_enveloped : ofJws "a.b.c.d.e~ ~!~x.y.z" = .error .noDecrypter := by
  obtain ⟨structural, segments, tail, h, -, -, -, hRest⟩ := ofJws_grammar "a.b.c.d.e"
  have hParts : Text.splitAt separator (Text.trimBlanks "a.b.c.d.e".toList) = ["a.b.c.d.e".toList] := by
    decide
  have hBehind : Text.splitAt separator (Text.trimBlanks "a.b.c.d.e~ ~!~x.y.z".toList) =
      "a.b.c.d.e".toList :: Text.splitAt separator " ~!~x.y.z".toList := by
    decide
  rw [Text.splitAt_eq_iff.mpr h.parts] at hParts
  obtain ⟨rfl, -⟩ := List.cons.inj hParts
  have hFive : segments.length = 5 := by
    rw [← Text.splitAt_eq_iff.mpr h.segments]
    decide
  exact hRest hFive _ _ ⟨Text.splitAt_eq_iff.mp hBehind, h.segments⟩

end PresentationVerifier.Token
