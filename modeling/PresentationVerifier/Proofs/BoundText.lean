import PresentationVerifier.Proofs.Grammar

/-!
# The text that a Key Binding JWT is made for

The digest in a Key Binding JWT is that of the presented text up to and including its last tilde
(`Token.sdJwt`). This is the presentation without the Key Binding JWT if that stands at the end. But it is
recognised wherever it stands in the tail. If only a tilde follows it, the digest is made of the whole
text, and if a disclosure stands at the end, of a text with the Key Binding JWT and without that
disclosure.

Main results:

* `Divided.sdJwt`: how the text for the digest is divided.
* `sdJwt_cases`: what it reads as, in each of the three cases.
* `sdJwt_without_binding`: when it is the presentation without the Key Binding JWT.
-/

namespace PresentationVerifier

/-! ## Cutting a text after its last separator -/

namespace Text

/-- The last piece is what stands after the last separator, and without it an empty piece is the last. -/
theorem Pieces.cut {α : Type} [DecidableEq α] {sep : α} {as last : List α} {before : List (List α)}
    (h : Pieces sep as (before ++ [last])) (hBefore : before ≠ []) :
    as = throughLast sep as ++ last ∧ Pieces sep (throughLast sep as) (before ++ [[]]) := by
  have hLast : sep ∉ last := h.free last (by simp)
  have hText : as = join sep before ++ sep :: last := by
    rw [← h.joined, join_append_singleton sep hBefore]
  -- there is no separator in the last piece, so that the cut is right before it
  have hCut : throughLast sep as = join sep before ++ [sep] := by
    rw [hText, throughLast_append hLast]
  refine ⟨?_, by simp, ?_, ?_⟩
  · rw [hCut, List.append_assoc, List.singleton_append]
    exact hText
  · intro piece hPiece
    rw [List.mem_append, List.mem_singleton] at hPiece
    rcases hPiece with hIn | rfl
    · exact h.free piece (List.mem_append_left _ hIn)
    · exact List.not_mem_nil
  · rw [join_append_singleton sep hBefore, hCut]

/-- A part at the front of a text without blanks around it has none either, if it ends with none. -/
theorem trimBlanks_of_front {cs front behind : List Char} {c : Char}
    (hTrimmed : trimBlanks cs = cs) (hFront : cs = front ++ c :: behind) (hc : isBlank c = false) :
    trimBlanks (front ++ [c]) = front ++ [c] := by
  have hHead : (front ++ [c]).dropWhile isBlank = front ++ [c] := by
    have hWhole := dropWhile_trimBlanks cs
    rw [hTrimmed, hFront] at hWhole
    -- the text and its part begin with the same character
    cases front with
    | nil => simp [hc]
    | cons a rest =>
      rw [List.dropWhile_eq_self_iff] at hWhole ⊢
      intro hl
      exact hWhole (by simp)
  rw [trimBlanks_eq, hHead, List.rdropWhile_concat_neg]
  simp [hc]

end Text

namespace Token

/-! ## The text without the last segment -/

/-- What is shaped like a Key Binding JWT in two parts of a tail is what is in the one and in the other. -/
@[simp] theorem bindingsIn_append (before after : List (List Char)) :
    bindingsIn (before ++ after) = bindingsIn before ++ bindingsIn after :=
  List.filter_append _ _

@[simp] theorem disclosuresIn_append (before after : List (List Char)) :
    disclosuresIn (before ++ after) = disclosuresIn before ++ disclosuresIn after :=
  List.filter_append _ _

/-- An empty segment of the tail counts for nothing. -/
theorem bindingsIn_append_empty (before : List (List Char)) :
    bindingsIn (before ++ [[]]) = bindingsIn before := by
  simp [bindingsIn]

theorem disclosuresIn_append_empty (before : List (List Char)) :
    disclosuresIn (before ++ [[]]) = disclosuresIn before := by
  simp [disclosuresIn]

/-- A token keeps its text without blanks around it. The text for the digest is what stands before the
last segment of the tail, and has no blanks around it either. -/
theorem Divided.sdJwt {text : String} {structural last : List Char} {segments before : List (List Char)}
    {t : Token} (h : Divided text structural segments (before ++ [last]))
    (hRaw : t.raw = Text.trim text) :
    t.raw = t.sdJwt ++ String.ofList last ∧ Text.trim t.sdJwt = t.sdJwt ∧
      Divided t.sdJwt structural segments (before ++ [[]]) := by
  have hText : t.raw.toList = Text.trimBlanks text.toList := by
    rw [hRaw, Text.trim, String.toList_ofList]
  have hParts : Text.Pieces separator t.raw.toList ((structural :: before) ++ [last]) := by
    rw [hText]
    exact h.parts
  -- the last piece of the kept text is the last segment of the tail
  obtain ⟨hWhole, hCut⟩ := hParts.cut (List.cons_ne_nil _ _)
  have hEnd : Text.throughLast separator t.raw.toList =
      Text.join separator (structural :: before) ++ [separator] := by
    rw [← hCut.joined, Text.join_append_singleton separator (List.cons_ne_nil _ _)]
  -- the tilde at the end of the text is no blank
  have hAgain : Text.trimBlanks t.sdJwt.toList = Text.throughLast separator t.raw.toList := by
    have hTrimmed : Text.trimBlanks t.raw.toList = t.raw.toList := by
      rw [hText, Text.trimBlanks_trimBlanks]
    have hFront : t.raw.toList = Text.join separator (structural :: before) ++ separator :: last := by
      rw [hEnd, List.append_assoc, List.singleton_append] at hWhole
      exact hWhole
    rw [Token.sdJwt, String.toList_ofList, hEnd]
    exact Text.trimBlanks_of_front hTrimmed hFront (by decide)
  refine ⟨?_, ?_, ?_, h.segments⟩
  · rw [Token.sdJwt, ← String.ofList_append, ← hWhole, String.ofList_toList]
  · rw [Text.trim, hAgain, Token.sdJwt]
  · rw [hAgain]
    exact hCut

/-- A Key Binding JWT is shaped like a token. -/
theorem Writes.tokenShaped {text : String} {structural : List Char} {segments tail : List (List Char)}
    {t : Token} (h : Writes text structural segments tail t) {binding : String}
    (hBinding : t.keyBinding = some binding) : binding ≠ "" ∧ TokenShaped binding.toList := by
  have hList := h.keyBinding
  rw [hBinding, Option.toList_some, List.map_eq_singleton_iff] at hList
  obtain ⟨segment, hOne, rfl⟩ := hList
  -- it was taken from the segments of the tail that have this shape
  have hIn : segment ∈ bindingsIn tail := by
    rw [hOne]
    exact List.mem_singleton_self _
  have hShape := (List.mem_filter.mp hIn).2
  simpa using hShape

/-- The first part of a token with another tail. -/
theorem Writes.withTail {text text' : String} {structural : List Char}
    {segments tail tail' : List (List Char)} {t : Token} (h : Writes text structural segments tail t)
    (hTrim : Text.trim text' = text') {binding : Option String} {disclosures : List String}
    (hBinding : (bindingsIn tail').map String.ofList = binding.toList)
    (hDisclosures : (disclosuresIn tail').map String.ofList = disclosures) :
    Writes text' structural segments tail'
      { t with raw := text', keyBinding := binding, disclosures := disclosures } :=
  ⟨hTrim.symm, h.structural, h.segments, hBinding, hDisclosures, h.plain⟩

/-! ## The three cases -/

/-- What the text for the digest reads as. If nothing stands behind the last tilde, as the same token; if
the Key Binding JWT does, as the token without it; and if a disclosure does, as the token without that
disclosure. -/
theorem sdJwt_cases {text : String} {t : Token} {binding : String} (h : ofJws text = .ok t)
    (hBinding : t.keyBinding = some binding) :
    ∃ last : String, (Text.splitAt separator t.raw.toList).getLast? = some last.toList ∧
      t.raw = t.sdJwt ++ last ∧
      (last = "" ∧ ofJws t.sdJwt = .ok t ∨
        last = binding ∧ ofJws t.sdJwt = .ok { t with raw := t.sdJwt, keyBinding := none } ∨
        last ≠ "" ∧ ¬TokenShaped last.toList ∧ ∃ rest, t.disclosures = rest ++ [last] ∧
          ofJws t.sdJwt = .ok { t with raw := t.sdJwt, disclosures := rest }) := by
  obtain ⟨structural, segments, tail, hDivided⟩ := exists_divided text
  have hWrites := (ofJws_eq_ok_iff_writes hDivided).mp h
  have hFound := hWrites.keyBinding
  have hShown := hWrites.disclosures
  -- there is a tail, since the Key Binding JWT is in it
  rcases List.eq_nil_or_concat' tail with rfl | ⟨before, last, rfl⟩
  · rw [hBinding] at hFound
    cases hFound
  obtain ⟨hRaw, hTrim, hCut⟩ := hDivided.sdJwt hWrites.raw
  rw [bindingsIn_append, List.map_append] at hFound
  rw [disclosuresIn_append, List.map_append] at hShown
  refine ⟨String.ofList last, ?_, hRaw, ?_⟩
  · have hParts := Text.splitAt_eq_iff.mpr hDivided.parts
    rw [hWrites.raw, Text.trim, String.toList_ofList, hParts, ← List.cons_append,
      List.getLast?_concat, String.toList_ofList]
  -- by what the last segment is: empty, shaped like a token, or a disclosure
  by_cases hEmpty : last = []
  · left
    subst hEmpty
    rw [String.ofList_nil, String.append_empty] at hRaw
    have hAgain := hWrites.withTail hTrim hWrites.keyBinding hWrites.disclosures
    rw [← hRaw] at hAgain hCut ⊢
    exact ⟨rfl, (ofJws_eq_ok_iff_writes hCut).mpr hAgain⟩
  by_cases hShape : TokenShaped last
  · right; left
    have hLast : bindingsIn [last] = [last] := by simp [bindingsIn, hEmpty, hShape]
    have hNone : disclosuresIn [last] = [] := by simp [disclosuresIn, hShape]
    -- it is the Key Binding JWT, and there is no other before it
    rw [hLast, hBinding, Option.toList_some, ← List.nil_append [binding]] at hFound
    obtain ⟨hBefore, hIs⟩ := List.append_inj' hFound rfl
    rw [← bindingsIn_append_empty, ← Option.toList_none] at hBefore
    rw [hNone, List.map_nil, List.append_nil, ← disclosuresIn_append_empty] at hShown
    refine ⟨(List.cons.inj hIs).1, (ofJws_eq_ok_iff_writes hCut).mpr ?_⟩
    exact hWrites.withTail hTrim hBefore hShown
  · right; right
    have hNone : bindingsIn [last] = [] := by simp [bindingsIn, hShape]
    have hLast : disclosuresIn [last] = [last] := by simp [disclosuresIn, hEmpty, hShape]
    rw [hNone, List.map_nil, List.append_nil, ← bindingsIn_append_empty] at hFound
    rw [hLast, ← disclosuresIn_append_empty] at hShown
    refine ⟨by simpa using hEmpty, by simpa using hShape, _, hShown.symm, ?_⟩
    exact (ofJws_eq_ok_iff_writes hCut).mpr (hWrites.withTail hTrim hFound rfl)

/-- **The text for the digest** is the presentation without its Key Binding JWT exactly when that stands
behind the last tilde, and reads as the same token without it then. Else it is the whole text, or one with
the Key Binding JWT and without the last disclosure. -/
theorem sdJwt_without_binding {text : String} {t : Token} {binding : String} (h : ofJws text = .ok t)
    (hBinding : t.keyBinding = some binding) :
    (t.sdJwt ++ binding = t.raw ↔
      (Text.splitAt separator t.raw.toList).getLast? = some binding.toList) ∧
    (t.sdJwt ++ binding = t.raw →
      ofJws t.sdJwt = .ok { t with raw := t.sdJwt, keyBinding := none }) ∧
    (t.sdJwt ++ binding ≠ t.raw →
      t.raw = t.sdJwt ∧ ofJws t.sdJwt = .ok t ∨
        ∃ rest last, t.disclosures = rest ++ [last] ∧ t.raw = t.sdJwt ++ last ∧
          ofJws t.sdJwt = .ok { t with raw := t.sdJwt, disclosures := rest }) := by
  obtain ⟨structural, segments, tail, hDivided⟩ := exists_divided text
  obtain ⟨hSome, hShape⟩ := ((ofJws_eq_ok_iff_writes hDivided).mp h).tokenShaped hBinding
  obtain ⟨last, hLast, hRaw, hCases⟩ := sdJwt_cases h hBinding
  have hEnd : t.sdJwt ++ binding = t.raw ↔ binding = last := by
    rw [hRaw, String.append_right_inj]
  rw [ne_eq, hLast, Option.some.injEq, String.toList_inj, hEnd, eq_comm]
  -- an empty segment and a disclosure are not the Key Binding JWT
  refine ⟨Iff.rfl, ?_, ?_⟩
  · rintro rfl
    rcases hCases with ⟨hEmpty, -⟩ | ⟨-, hRead⟩ | ⟨-, hOther, -⟩
    · exact absurd hEmpty hSome
    · exact hRead
    · exact absurd hShape hOther
  · intro hOther
    rcases hCases with ⟨rfl, hRead⟩ | ⟨hIs, -⟩ | ⟨-, -, rest, hDisclosures, hRead⟩
    · left
      rw [String.append_empty] at hRaw
      exact ⟨hRaw, hRead⟩
    · exact absurd hIs hOther
    · right
      exact ⟨rest, last, hDisclosures, hRaw, hRead⟩

/-- The text for the digest has the disclosure that stands before the Key Binding JWT. -/
theorem sdJwt_without_binding_last :
    ∃ t, ofJws "e30.e30.AQ~d1~e30.e30.Ag" = .ok t ∧ t.sdJwt = "e30.e30.AQ~d1~" ∧
      t.disclosures = ["d1"] ∧
      ofJws t.sdJwt = .ok { t with raw := t.sdJwt, keyBinding := none } := by
  have hParts : (ofJws "e30.e30.AQ~d1~e30.e30.Ag").toOption.map
      (fun t => (t.raw, t.sdJwt, t.disclosures, t.keyBinding)) =
        some ("e30.e30.AQ~d1~e30.e30.Ag", "e30.e30.AQ~d1~", ["d1"], some "e30.e30.Ag") := by
    decide +kernel
  obtain ⟨t, hToken, hParts⟩ := toOption_map_eq_some.mp hParts
  obtain ⟨hRaw, hCut, hDisclosures, hBinding⟩ := by simpa only [Prod.mk.injEq] using hParts
  obtain ⟨-, hRead, -⟩ := sdJwt_without_binding hToken hBinding
  exact ⟨t, hToken, hCut, hDisclosures, hRead (by rw [hCut, hRaw]; decide)⟩

/-- Behind the Key Binding JWT the disclosure is not in that text, but the Key Binding JWT is. -/
theorem sdJwt_of_disclosure_last :
    ∃ t binding, ofJws "e30.e30.AQ~e30.e30.Ag~d1" = .ok t ∧ t.keyBinding = some binding ∧
      t.disclosures = ["d1"] ∧ t.sdJwt ++ binding ≠ t.raw ∧
      t.sdJwt = "e30.e30.AQ~" ++ binding ++ "~" := by
  have hParts : (ofJws "e30.e30.AQ~e30.e30.Ag~d1").toOption.map
      (fun t => (t.raw, t.sdJwt, t.disclosures, t.keyBinding)) =
        some ("e30.e30.AQ~e30.e30.Ag~d1", "e30.e30.AQ~e30.e30.Ag~", ["d1"], some "e30.e30.Ag") := by
    decide +kernel
  obtain ⟨t, hToken, hParts⟩ := toOption_map_eq_some.mp hParts
  obtain ⟨hRaw, hCut, hDisclosures, hBinding⟩ := by simpa only [Prod.mk.injEq] using hParts
  refine ⟨t, "e30.e30.Ag", hToken, hBinding, hDisclosures, ?_, ?_⟩
  · rw [hCut, hRaw]
    decide
  · rw [hCut]
    decide

end Token

end PresentationVerifier
