import PresentationVerifier.Proofs.BoundText
import PresentationVerifier.Token.Compose

/-!
# Composed tokens

The text of a token is put together from texts that do not get in each other's way. The segments of the
signed JWT are in base64url, so there is no dot, no tilde and no blank in them; and what is presented behind
it has no tilde (`DisclosureText`, `BindingText`). So the whole text is divided into just these texts again,
and nothing is taken off its ends.

Main results:

* `exists_jwsText`: the signed JWT of every token is composed.
* `ofJws_presentedText`: the signed JWT of a token with other disclosures and another Key Binding JWT.
* `ofJws_composed`: what a composed text reads as.
-/

namespace PresentationVerifier

/-- Nothing is taken off a text that has a blank at neither end. -/
theorem Text.trimBlanks_eq_self {cs : List Char} (hFirst : ∀ c ∈ cs.head?, isBlank c = false)
    (hLast : ∀ c ∈ cs.getLast?, isBlank c = false) : trimBlanks cs = cs := by
  have hFront : cs.dropWhile isBlank = cs := by
    rw [List.dropWhile_eq_self_iff]
    intro hl
    simp [hFirst cs[0] (by simp [List.head?_eq_getElem?])]
  rw [trimBlanks_eq, hFront, List.rdropWhile_eq_self_iff]
  intro hne
  simp [hLast _ (List.getLast?_eq_some_getLast hne)]

namespace Token

/-! ## Segments in base64url -/

/-- A character at which nothing is divided and which is not taken off an end. -/
structure Inner (c : Char) : Prop where
  dot : c ≠ '.'
  tilde : c ≠ separator
  blank : Text.isBlank c = false

/-- All characters of base64url are inner ones. -/
theorem inner_of_encodesBytes {segment : List Char} {bytes : List UInt8} (h : EncodesBytes segment bytes)
    {c : Char} (hc : c ∈ segment) : Inner c := by
  -- the alphabet has 64 characters, which are looked at one by one
  have hAlphabet : ∀ n < 64, Encoding.urlSafe.char n ≠ '.' ∧ Encoding.urlSafe.char n ≠ separator ∧
      Text.isBlank (Encoding.urlSafe.char n) = false := by
    decide
  rw [EncodesBytes] at h
  rw [h] at hc
  obtain ⟨n, hn, rfl⟩ := Encoding.Base64.exists_of_mem_encodeChars hc
  obtain ⟨hDot, hTilde, hBlank⟩ := hAlphabet n hn
  exact ⟨hDot, hTilde, hBlank⟩

/-- What is shaped like a token has dots in it. -/
theorem TokenShaped.ne_nil {segment : List Char} (h : TokenShaped segment) : segment ≠ [] := by
  rintro rfl
  exact absurd h (by decide)

/-- What is in base64url has no dot, and so one part only. -/
theorem not_tokenShaped_of_encodesBytes {segment : List Char} {bytes : List UInt8}
    (h : EncodesBytes segment bytes) : ¬TokenShaped segment := by
  have hFree : '.' ∉ segment := fun hDot => (inner_of_encodesBytes h hDot).dot rfl
  rintro ⟨pieces, hPieces, hCount⟩
  rw [← Text.splitAt_eq_iff.mpr hPieces, Text.splitAt_of_not_mem hFree] at hCount
  simp at hCount

/-! ## The signed JWT -/

theorem encodesBytes_segment (bytes : List UInt8) : EncodesBytes (segment bytes).toList bytes := by
  rw [EncodesBytes, segment, Encoding.Base64.encode, String.toList_ofList]

/-- There is only one text in base64url for given bytes. -/
theorem eq_segment_of_encodesBytes {cs : List Char} {bytes : List UInt8} (h : EncodesBytes cs bytes) :
    String.ofList cs = segment bytes := by
  rw [EncodesBytes] at h
  rw [h, segment, Encoding.Base64.encode]

/-- The three segments of a composed JWT. -/
def jwsSegments (header payload : String) (signature : List UInt8) : List (List Char) :=
  [(segment (Encoding.utf8Bytes header)).toList, (segment (Encoding.utf8Bytes payload)).toList,
    (segment signature).toList]

/-- A composed JWT is divided at its dots into its three segments. -/
theorem jwsSegments_pieces (header payload : String) (signature : List UInt8) :
    Text.Pieces '.' (jwsText header payload signature).toList (jwsSegments header payload signature) := by
  refine ⟨by simp [jwsSegments], ?_, ?_⟩
  · intro piece hPiece hDot
    simp only [jwsSegments, List.mem_cons, List.not_mem_nil, or_false] at hPiece
    -- the three segments are all in base64url
    rcases hPiece with rfl | rfl | rfl <;>
      exact (inner_of_encodesBytes (encodesBytes_segment _) hDot).dot rfl
  · simp [jwsSegments, jwsText, inputText, Text.join]

/-- In a composed JWT dots stand between segments in base64url, and nothing else is in it. -/
theorem inner_or_dot_of_mem_jwsText {header payload : String} {signature : List UInt8} {c : Char}
    (h : c ∈ (jwsText header payload signature).toList) : Inner c ∨ c = '.' := by
  have hDot : ".".toList = ['.'] := rfl
  simp only [jwsText, inputText, String.toList_append, hDot, List.mem_append, List.mem_singleton] at h
  rcases h with (((hHeader | hIs) | hPayload) | hIs) | hSignature
  · exact Or.inl (inner_of_encodesBytes (encodesBytes_segment _) hHeader)
  · exact Or.inr hIs
  · exact Or.inl (inner_of_encodesBytes (encodesBytes_segment _) hPayload)
  · exact Or.inr hIs
  · exact Or.inl (inner_of_encodesBytes (encodesBytes_segment _) hSignature)

theorem tilde_of_mem_jwsText {header payload : String} {signature : List UInt8} :
    separator ∉ (jwsText header payload signature).toList := by
  intro h
  rcases inner_or_dot_of_mem_jwsText h with hInner | hDot
  · exact hInner.tilde rfl
  · exact absurd hDot (by decide)

theorem blank_of_mem_jwsText {header payload : String} {signature : List UInt8} {c : Char}
    (h : c ∈ (jwsText header payload signature).toList) : Text.isBlank c = false := by
  rcases inner_or_dot_of_mem_jwsText h with hInner | rfl
  · exact hInner.blank
  · decide

/-- What is signed of a composed JWT is what stands before its signature. -/
theorem signingInput_of_jwsText {t : Token} {header payload : String} {signature : List UInt8}
    (h : t.structural = jwsText header payload signature) :
    t.signingInput = inputText header payload := by
  -- the last dot is the one before the signature, in which there is none
  have hFree : '.' ∉ (segment signature).toList :=
    fun hDot => (inner_of_encodesBytes (encodesBytes_segment _) hDot).dot rfl
  have hSplit : Text.splitLast '.' t.structural.toList =
      some ((inputText header payload).toList, (segment signature).toList) := by
    rw [Text.splitLast_eq_some_iff]
    exact ⟨by simp [h, jwsText], hFree⟩
  rw [signingInput, hSplit]
  exact String.ofList_toList

/-- **The signed JWT of a token** is composed of the texts of its header and its payload, and of its
signature. -/
theorem exists_jwsText {text : String} {t : Token} (h : ofJws text = .ok t) :
    ∃ header payload : String, Json.parse header = some (.object t.header) ∧
      Json.parse payload = some (.object t.payload) ∧
      t.structural = jwsText header payload t.signature ∧
      t.signingInput = inputText header payload := by
  obtain ⟨structural, segments, tail, hDivided⟩ := exists_divided text
  have hWrites := (ofJws_eq_ok_iff_writes hDivided).mp h
  obtain ⟨first, second, third, rfl, ⟨header, hFirst, hHeader⟩, ⟨payload, hSecond, hPayload⟩, hThird⟩ :=
    hWrites.segments
  -- each segment of the text is the one that is composed of what it decodes to
  have hText : t.structural = jwsText header payload t.signature := by
    rw [hWrites.structural, ← hDivided.segments.joined, jwsText, inputText,
      ← eq_segment_of_encodesBytes hFirst, ← eq_segment_of_encodesBytes hSecond,
      ← eq_segment_of_encodesBytes hThird]
    apply String.toList_injective
    simp [Text.join]
  exact ⟨header, payload, hHeader, hPayload, hText, signingInput_of_jwsText hText⟩

/-! ## What is presented behind it -/

/-- A text that can be presented as a disclosure. -/
structure DisclosureText (text : String) : Prop where
  nonempty : text ≠ ""
  free : separator ∉ text.toList
  plain : ¬TokenShaped text.toList

/-- A text that can be presented as a Key Binding JWT. At its front there may be blanks, since the text
before it stays there. -/
structure BindingText (text : String) : Prop where
  free : separator ∉ text.toList
  shaped : TokenShaped text.toList
  trimmed : ∀ c ∈ text.toList.getLast?, Text.isBlank c = false

/-- The text of an SD-JWT is its parts with a tilde between them, and one behind the last. -/
theorem toList_sdJwtText (jws : String) (disclosures : List String) :
    (sdJwtText jws disclosures).toList =
      Text.join separator (jws.toList :: disclosures.map String.toList) ++ [separator] := by
  have hTilde : "~".toList = [separator] := rfl
  -- each disclosure takes the place of the signed JWT in front of those behind it
  induction disclosures generalizing jws with
  | nil => simp [sdJwtText, hTilde, Text.join]
  | cons d rest ih =>
    have hRest := ih d
    have hFront : sdJwtText jws (d :: rest) = jws ++ "~" ++ sdJwtText d rest := by
      apply String.toList_injective
      simp [sdJwtText, String.toList_join]
    have hJoin : Text.join separator (jws.toList :: (d :: rest).map String.toList) =
        jws.toList ++ separator :: Text.join separator (d.toList :: rest.map String.toList) := rfl
    rw [hFront, hJoin, String.toList_append, String.toList_append, hRest, hTilde]
    simp

/-- The presented text is divided into the texts it is composed of. -/
theorem presentedText_pieces {jws : String} {disclosures : List String} {binding : Option String}
    (hJws : separator ∉ jws.toList) (hDisclosures : ∀ d ∈ disclosures, DisclosureText d)
    (hBinding : ∀ b ∈ binding, BindingText b) :
    Text.Pieces separator (presentedText (sdJwtText jws disclosures) binding).toList
      (jws.toList :: (disclosures.map String.toList ++ [(binding.getD "").toList])) := by
  refine ⟨List.cons_ne_nil _ _, ?_, ?_⟩
  · intro piece hPiece
    simp only [List.mem_cons, List.mem_append, List.mem_map, List.not_mem_nil, or_false] at hPiece
    -- the signed JWT, a disclosure or the Key Binding JWT, each without a tilde
    rcases hPiece with rfl | ⟨d, hd, rfl⟩ | rfl
    · exact hJws
    · exact (hDisclosures d hd).free
    · cases binding with
      | none => exact List.not_mem_nil
      | some b => exact (hBinding b rfl).free
  · rw [← List.cons_append, Text.join_append_singleton separator (List.cons_ne_nil _ _), presentedText,
      String.toList_append, toList_sdJwtText, List.append_assoc, List.singleton_append]

/-- Without a Key Binding JWT the presented text ends with a tilde, and with one as that does. -/
theorem trim_presentedText {jws : String} {disclosures : List String} {binding : Option String}
    (hSome : jws ≠ "") (hJws : ∀ c ∈ jws.toList, Text.isBlank c = false)
    (hBinding : ∀ b ∈ binding, BindingText b) :
    Text.trimBlanks (presentedText (sdJwtText jws disclosures) binding).toList =
      (presentedText (sdJwtText jws disclosures) binding).toList := by
  refine Text.trimBlanks_eq_self ?_ ?_
  · intro c hc
    -- the first character is that of the signed JWT
    obtain ⟨first, rest, hFirst⟩ : ∃ first rest, jws.toList = first :: rest :=
      List.exists_cons_of_ne_nil (by simpa using hSome)
    have hIs : c = first := by
      simpa [presentedText, sdJwtText, hFirst, eq_comm] using hc
    rw [hIs]
    exact hJws first (by rw [hFirst]; exact List.mem_cons_self)
  · intro c hc
    rw [presentedText, String.toList_append, toList_sdJwtText, List.append_assoc,
      List.getLast?_append] at hc
    cases binding with
    | none =>
      have hIs : c = separator := by simpa [eq_comm] using hc
      rw [hIs]
      decide
    | some b =>
      refine (hBinding b rfl).trimmed c ?_
      have hTilde : ([separator] ++ b.toList).getLast? = some c := by simpa using hc
      -- a Key Binding JWT is not empty, so that the tilde is not the end
      rw [List.getLast?_append_of_ne_nil _ (hBinding b rfl).shaped.ne_nil] at hTilde
      exact hTilde

/-- None of the disclosures is taken as a Key Binding JWT. -/
theorem bindingsIn_disclosures {disclosures : List String} (h : ∀ d ∈ disclosures, DisclosureText d) :
    bindingsIn (disclosures.map String.toList) = [] := by
  rw [bindingsIn, List.filter_eq_nil_iff]
  intro segment hSegment
  obtain ⟨d, hd, rfl⟩ := List.mem_map.mp hSegment
  simp [(h d hd).plain]

theorem disclosuresIn_disclosures {disclosures : List String} (h : ∀ d ∈ disclosures, DisclosureText d) :
    disclosuresIn (disclosures.map String.toList) = disclosures.map String.toList := by
  rw [disclosuresIn, List.filter_eq_self]
  intro segment hSegment
  obtain ⟨d, hd, rfl⟩ := List.mem_map.mp hSegment
  simp [(h d hd).plain, (h d hd).nonempty]

/-- The last segment gives the Key Binding JWT, if there is one. -/
theorem bindingsIn_binding {binding : Option String} (h : ∀ b ∈ binding, BindingText b) :
    (bindingsIn [(binding.getD "").toList]).map String.ofList = binding.toList := by
  -- without a Key Binding JWT the segment is empty, and counts for nothing
  cases binding with
  | none => rfl
  | some b =>
    have hShape := (h b rfl).shaped
    simp [bindingsIn, hShape, hShape.ne_nil]

theorem disclosuresIn_binding {binding : Option String} (h : ∀ b ∈ binding, BindingText b) :
    disclosuresIn [(binding.getD "").toList] = [] := by
  cases binding with
  | none => rfl
  | some b => simp [disclosuresIn, (h b rfl).shaped]

/-! ## The whole text -/

/-- The token that presents the signed JWT of another one with its own disclosures and its own Key Binding
JWT. -/
def presenting (t : Token) (disclosures : List String) (binding : Option String) : Token :=
  { t with
    raw := presentedText (sdJwtText t.structural disclosures) binding
    disclosures := disclosures
    keyBinding := binding }

/-- **Another presentation** of the signed JWT of a token reads as that token, with what is presented behind
the JWT in place of what was. -/
theorem ofJws_presentedText {text : String} {t : Token} (h : ofJws text = .ok t)
    {disclosures : List String} {binding : Option String}
    (hDisclosures : ∀ d ∈ disclosures, DisclosureText d) (hBinding : ∀ b ∈ binding, BindingText b) :
    ofJws (presentedText (sdJwtText t.structural disclosures) binding) =
      .ok (t.presenting disclosures binding) := by
  obtain ⟨structural, segments, tail, hDivided⟩ := exists_divided text
  have hWrites := (ofJws_eq_ok_iff_writes hDivided).mp h
  obtain ⟨header, payload, -, -, hJws, -⟩ := exists_jwsText h
  have hTilde : separator ∉ t.structural.toList := by
    rw [hJws]
    exact tilde_of_mem_jwsText
  have hBlank : ∀ c ∈ t.structural.toList, Text.isBlank c = false := by
    rw [hJws]
    exact fun c hc => blank_of_mem_jwsText hc
  have hSome : t.structural ≠ "" := by
    rw [hJws, jwsText, inputText]
    simp
  have hTrim : Text.trimBlanks (presentedText (sdJwtText t.structural disclosures) binding).toList =
      (presentedText (sdJwtText t.structural disclosures) binding).toList :=
    trim_presentedText hSome hBlank hBinding
  have hParts := presentedText_pieces hTilde hDisclosures hBinding
  -- the signed JWT is divided as it was, and the tail into the disclosures and what follows them
  have hAgain : Divided (presentedText (sdJwtText t.structural disclosures) binding) structural segments
      (disclosures.map String.toList ++ [(binding.getD "").toList]) := by
    refine ⟨?_, hDivided.segments⟩
    rw [hTrim, ← String.toList_ofList (l := structural), ← hWrites.structural]
    exact hParts
  have hKept : Text.trim (presentedText (sdJwtText t.structural disclosures) binding) =
      presentedText (sdJwtText t.structural disclosures) binding := by
    rw [Text.trim, hTrim, String.ofList_toList]
  rw [ofJws_eq_ok_iff_writes hAgain]
  refine hWrites.withTail hKept ?_ ?_
  · rw [bindingsIn_append, bindingsIn_disclosures hDisclosures, List.nil_append]
    exact bindingsIn_binding hBinding
  · rw [disclosuresIn_append, disclosuresIn_disclosures hDisclosures, disclosuresIn_binding hBinding]
    simp [Function.comp_def]

/-- A composed JWT without anything behind it. -/
theorem ofJws_jwsText {header payload : String} {h p : Json.Object} (signature : List UInt8)
    (hHeader : Json.parse header = some (.object h)) (hPayload : Json.parse payload = some (.object p)) :
    ofJws (jwsText header payload signature) = .ok
      { raw := jwsText header payload signature, structural := jwsText header payload signature,
        header := h, payload := p, signature := signature, disclosures := [], keyBinding := none,
        decrypted := false } := by
  have hTrim : Text.trimBlanks (jwsText header payload signature).toList =
      (jwsText header payload signature).toList :=
    Text.trimBlanks_eq_self (fun c hc => blank_of_mem_jwsText (List.mem_of_mem_head? hc))
      (fun c hc => blank_of_mem_jwsText (List.mem_of_getLast? hc))
  have hParts : Text.Pieces separator (jwsText header payload signature).toList
      [(jwsText header payload signature).toList] :=
    Text.splitAt_eq_iff.mp (Text.splitAt_of_not_mem tilde_of_mem_jwsText)
  have hDivided : Divided (jwsText header payload signature) (jwsText header payload signature).toList
      (jwsSegments header payload signature) [] :=
    ⟨hTrim.symm ▸ hParts, jwsSegments_pieces header payload signature⟩
  rw [ofJws_eq_ok_iff_writes hDivided]
  -- the three segments decode to the header, the payload and the signature, and the tail is empty
  refine ⟨?_, ?_, ⟨_, _, _, rfl, ?_, ?_, encodesBytes_segment signature⟩, rfl, rfl, rfl⟩
  · rw [Text.trim, hTrim, String.ofList_toList]
  · exact String.ofList_toList.symm
  · exact ⟨header, encodesBytes_segment _, hHeader⟩
  · exact ⟨payload, encodesBytes_segment _, hPayload⟩

/-- The presented text without the Key Binding JWT is that of the SD-JWT. -/
theorem sdJwt_of_presentedText {t : Token} {jws : String} {disclosures : List String}
    {binding : Option String} (h : t.raw = presentedText (sdJwtText jws disclosures) binding)
    (hBinding : ∀ b ∈ binding, BindingText b) : t.sdJwt = sdJwtText jws disclosures := by
  have hFree : separator ∉ (binding.getD "").toList := by
    cases binding with
    | none => exact List.not_mem_nil
    | some b => exact (hBinding b rfl).free
  have hRaw : t.raw.toList = Text.join separator (jws.toList :: disclosures.map String.toList) ++
      separator :: (binding.getD "").toList := by
    rw [h, presentedText, String.toList_append, toList_sdJwtText, List.append_assoc, List.singleton_append]
  rw [sdJwt, hRaw, Text.throughLast_append hFree, ← toList_sdJwtText, String.ofList_toList]

/-- **A composed token** is taken apart into what it was composed of. -/
theorem ofJws_composed {header payload : String} {h p : Json.Object} (signature : List UInt8)
    {disclosures : List String} {binding : Option String}
    (hHeader : Json.parse header = some (.object h)) (hPayload : Json.parse payload = some (.object p))
    (hDisclosures : ∀ d ∈ disclosures, DisclosureText d) (hBinding : ∀ b ∈ binding, BindingText b) :
    ∃ t,
      ofJws (presentedText (sdJwtText (jwsText header payload signature) disclosures) binding) = .ok t ∧
      t.header = h ∧ t.payload = p ∧ t.signature = signature ∧ t.disclosures = disclosures ∧
      t.keyBinding = binding ∧
      t.raw = presentedText (sdJwtText (jwsText header payload signature) disclosures) binding ∧
      t.structural = jwsText header payload signature ∧ t.signingInput = inputText header payload ∧
      t.sdJwt = sdJwtText (jwsText header payload signature) disclosures := by
  -- the signed JWT alone first, and then what is presented behind it
  have hJws := ofJws_jwsText signature hHeader hPayload
  have hWhole := ofJws_presentedText hJws hDisclosures hBinding
  refine ⟨_, hWhole, rfl, rfl, rfl, rfl, rfl, rfl, rfl, ?_, ?_⟩
  · exact signingInput_of_jwsText rfl
  · exact sdJwt_of_presentedText rfl hBinding

/-- A disclosure may be blank or come twice, and all that a Key Binding JWT has to have are its dots. -/
theorem ofJws_composed_odd :
    ∃ t, ofJws "e30.e30.AQ~d.1~ ~d.1~.." = .ok t ∧ t.disclosures = ["d.1", " ", "d.1"] ∧
      t.keyBinding = some ".." ∧ t.signature = [1] ∧ t.signingInput = "e30.e30" ∧
      t.sdJwt = "e30.e30.AQ~d.1~ ~d.1~" := by
  have hObject : Json.parse "\x7b\x7d" = some (.object []) := by rfl
  have hDisclosures : ∀ d ∈ ["d.1", " ", "d.1"], DisclosureText d := by
    intro d hd
    simp only [List.mem_cons, List.not_mem_nil, or_false] at hd
    rcases hd with rfl | rfl | rfl <;> exact ⟨by decide, by decide, by decide⟩
  have hBinding : ∀ b ∈ some "..", BindingText b := by
    intro b hb
    obtain rfl := Option.mem_some.mp hb
    refine ⟨by decide, by decide, ?_⟩
    rintro c ⟨⟩
    decide
  have hText :
      presentedText (sdJwtText (jwsText "\x7b\x7d" "\x7b\x7d" [1]) ["d.1", " ", "d.1"]) (some "..") =
        "e30.e30.AQ~d.1~ ~d.1~.." := by
    decide +kernel
  obtain ⟨t, hToken, -, -, hSignature, hShown, hFound, -, -, hInput, hCut⟩ :=
    ofJws_composed [1] hObject hObject hDisclosures hBinding
  rw [hText] at hToken
  refine ⟨t, hToken, hShown, hFound, hSignature, ?_, ?_⟩
  · rw [hInput]
    decide +kernel
  · rw [hCut]
    decide +kernel

end Token

end PresentationVerifier
