import PresentationVerifier.Proofs.Binding
import PresentationVerifier.Proofs.Walk

/-!
# Faults of disclosures

A presented text is at fault when it encodes no disclosure, when the payload does not commit to it, or
when it was presented before, in this order (`Disclosure.Fault`). The disclosures of a credential pass
when no text is at fault; else the error is that of the first text that is, whatever comes behind it.

Nothing of this is asked of a credential without disclosures. Where there are some, the payload has to
name a hash algorithm and must not nest too deep before the first text is looked at.

Main results:

* `decode_eq_ok_iff`, `decode_eq_error_iff`: which texts encode a disclosure, and what is told of others.
* `checkAll_eq_error_iff`: the texts are judged one by one.
* `validate_decided`: the disclosures of a credential.
-/

namespace PresentationVerifier

namespace Disclosure

/-! ## What a text encodes -/

/-- A text encodes a disclosure: the array of its salt, its name and its value. -/
structure Discloses (text : String) (d : Disclosure) : Prop where
  json : Token.EncodesJson text.toList (.array [.string d.salt, .string d.key, d.value])
  encoded : d.encoded = text

/-- A text encodes no disclosure, with what is told of it. -/
inductive Malformed (text : String) : String → Prop where
  | notBase64 (h : ∀ bytes, ¬Token.EncodesBytes text.toList bytes) :
      Malformed text ("`" ++ text ++ "` is not base64url")
  | notJson {bytes : List UInt8} (hBytes : Token.EncodesBytes text.toList bytes)
      (h : ∀ v, ¬Token.EncodesJson text.toList v) : Malformed text ("`" ++ text ++ "` is not JSON")
  | notArray {v : Json} (hJson : Token.EncodesJson text.toList v) (h : ∀ items, v ≠ .array items) :
      Malformed text ("`" ++ text ++ "` is not a JSON array")
  | notThree {items : List Json} (hJson : Token.EncodesJson text.toList (.array items))
      (h : items.length ≠ 3) :
      Malformed text ("expected 3 elements, found " ++ toString items.length)
  | notStrings {salt key value : Json}
      (hJson : Token.EncodesJson text.toList (.array [salt, key, value]))
      (h : ∀ s k, salt = .string s → key ≠ .string k) :
      Malformed text "salt and claim name must be strings"

/-- A text that encodes a value gives the elements of that value, if it is an array. -/
theorem elements_of_encodesJson {text : String} {v : Json}
    (h : Token.EncodesJson text.toList v) :
    elements text =
      match v with
      | .array items => .ok items
      | _ => .error (.malformedDisclosure ("`" ++ text ++ "` is not a JSON array")) := by
  obtain ⟨bytes, hBytes⟩ := Token.bytes_of_encodesJson h
  have hDecode : Encoding.Base64.decode? Encoding.urlSafe text = some bytes :=
    Token.encodesBytes_iff.mp hBytes
  have hParse : Json.parseBytes bytes = some v := (Token.encodesJson_iff hBytes).mp h
  unfold elements
  simp only [hDecode, hParse]
  cases v <;> rfl

/-- The elements of a text are those of the array that it encodes. -/
theorem elements_eq_ok_iff {text : String} {items : List Json} :
    elements text = .ok items ↔ Token.EncodesJson text.toList (.array items) := by
  constructor
  · intro h
    -- the bytes, the value in them and that it is an array, each of which may fail
    unfold elements at h
    split at h
    · cases h
    · next bytes hDecode =>
      have hBytes := Token.encodesBytes_iff.mpr hDecode
      split at h
      · cases h
      · next hParse =>
        obtain rfl := Except.ok.inj h
        exact (Token.encodesJson_iff hBytes).mpr hParse
      · cases h
  · intro h
    rw [elements_of_encodesJson h]

/-- What is decoded from a text is the disclosure that it encodes. -/
theorem decode_eq_ok_iff {text : String} {d : Disclosure} :
    decode text = .ok d ↔ Discloses text d := by
  rw [decode, bind_eq_ok]
  constructor
  · rintro ⟨items, hItems, hOk⟩
    rw [elements_eq_ok_iff] at hItems
    split at hOk
    · obtain rfl := Except.ok.inj hOk
      exact ⟨hItems, rfl⟩
    · cases hOk
    · cases hOk
  · rintro ⟨hJson, rfl⟩
    exact ⟨_, elements_eq_ok_iff.mpr hJson, rfl⟩

/-- A text without elements is malformed, in one of the first three ways. -/
theorem malformed_of_elements {text : String} {e : Error} (h : elements text = .error e) :
    ∃ detail, Malformed text detail ∧ e = .malformedDisclosure detail := by
  unfold elements at h
  split at h
  · next hDecode =>
    obtain rfl := Except.error.inj h
    refine ⟨_, .notBase64 fun bytes hBytes => ?_, rfl⟩
    have hSome : Encoding.Base64.decode? Encoding.urlSafe text = some bytes :=
      Token.encodesBytes_iff.mp hBytes
    rw [hDecode] at hSome
    cases hSome
  · next bytes hDecode =>
    have hBytes := Token.encodesBytes_iff.mpr hDecode
    split at h
    · next hParse =>
      obtain rfl := Except.error.inj h
      refine ⟨_, .notJson hBytes fun v hJson => ?_, rfl⟩
      rw [Token.encodesJson_iff hBytes, hParse] at hJson
      cases hJson
    · cases h
    · next v hOther hParse =>
      obtain rfl := Except.error.inj h
      exact ⟨_, .notArray ((Token.encodesJson_iff hBytes).mpr hParse) hOther, rfl⟩

theorem malformed_of_decode {text : String} {e : Error} (h : decode text = .error e) :
    ∃ detail, Malformed text detail ∧ e = .malformedDisclosure detail := by
  rw [decode, bind_eq_error] at h
  rcases h with hElements | ⟨items, hItems, hError⟩
  · exact malformed_of_elements hElements
  · rw [elements_eq_ok_iff] at hItems
    split at hError
    · cases hError
    · next salt key value hStrings =>
      obtain rfl := Except.error.inj hError
      exact ⟨_, .notStrings hItems hStrings, rfl⟩
    · next hThree =>
      obtain rfl := Except.error.inj hError
      have hCount : items.length ≠ 3 := by
        intro hLength
        obtain ⟨salt, key, value, rfl⟩ := List.length_eq_three.mp hLength
        exact hThree salt key value rfl
      exact ⟨_, .notThree hItems hCount, rfl⟩

theorem decode_of_malformed {text detail : String} (h : Malformed text detail) :
    decode text = .error (.malformedDisclosure detail) := by
  rw [decode, bind_eq_error]
  -- the first three ways are found among the elements, the other two after them
  cases h with
  | notBase64 hBase64 =>
    left
    have hNone : Encoding.Base64.decode? Encoding.urlSafe text = none :=
      Option.eq_none_iff_forall_ne_some.mpr fun bytes hBytes =>
        hBase64 bytes (Token.encodesBytes_iff.mpr hBytes)
    simp [elements, hNone]
  | @notJson bytes hBytes hJson =>
    left
    have hSome : Encoding.Base64.decode? Encoding.urlSafe text = some bytes :=
      Token.encodesBytes_iff.mp hBytes
    have hNone : Json.parseBytes bytes = none :=
      Option.eq_none_iff_forall_ne_some.mpr fun v hv =>
        hJson v ((Token.encodesJson_iff hBytes).mpr hv)
    simp [elements, hSome, hNone]
  | @notArray v hJson hArray =>
    left
    rw [elements_of_encodesJson hJson]
    cases v with
    | array items => exact absurd rfl (hArray items)
    | null | bool b | number n | string s | object members => rfl
  | @notThree items hJson hCount =>
    right
    refine ⟨items, elements_eq_ok_iff.mpr hJson, ?_⟩
    -- three elements are those that the first two patterns are for
    split
    · exact absurd rfl hCount
    · exact absurd rfl hCount
    · rfl
  | @notStrings salt key value hJson hStrings =>
    right
    refine ⟨_, elements_eq_ok_iff.mpr hJson, ?_⟩
    cases salt with
    | string s =>
      cases key with
      | string k => exact absurd rfl (hStrings s k rfl)
      | null | bool b | number n | array items | object members => rfl
    | null | bool b | number n | array items | object members => rfl

/-- The errors of decoding are those of malformed texts. -/
theorem decode_eq_error_iff {text : String} {e : Error} :
    decode text = .error e ↔ ∃ detail, Malformed text detail ∧ e = .malformedDisclosure detail := by
  constructor
  · exact malformed_of_decode
  · rintro ⟨detail, hMalformed, rfl⟩
    exact decode_of_malformed hMalformed

/-! ## The first fault -/

/-- The payload commits to a text: its digest is one of those that the walk finds. -/
def Committed (algorithm : HashAlgorithm) (payload : Json.Object) (text : String) : Prop :=
  Commitments.Commits (.object payload) (algorithm.hash (Encoding.utf8Bytes text))

/-- The texts are accepted as disclosures. -/
structure Accepted (algorithm : HashAlgorithm) (payload : Json.Object) (texts : List String)
    (ds : List Disclosure) : Prop where
  decoded : List.Forall₂ Discloses texts ds
  committed : ∀ text ∈ texts, Committed algorithm payload text
  distinct : texts.Nodup

/-- A text that was presented behind others is at fault, with the error for it. -/
inductive Fault (algorithm : HashAlgorithm) (payload : Json.Object) (before : List String)
    (text : String) : Error → Prop where
  | malformed {detail : String} (hDetail : Malformed text detail) :
      Fault algorithm payload before text (.malformedDisclosure detail)
  | uncommitted {d : Disclosure} (hText : Discloses text d)
      (hNot : ¬Committed algorithm payload text) :
      Fault algorithm payload before text
        (.rejected .selectiveDisclosure (.undisclosedCommitment d.key))
  | repeated {d : Disclosure} (hText : Discloses text d) (hCommitted : Committed algorithm payload text)
      (hBefore : text ∈ before) :
      Fault algorithm payload before text
        (.rejected .selectiveDisclosure (.duplicateDisclosure d.key))

/-- The first of the texts that is at fault, with the error for it. -/
def FirstFault (algorithm : HashAlgorithm) (payload : Json.Object) (texts : List String) (e : Error) :
    Prop :=
  ∃ before text after, texts = before ++ text :: after ∧
    (∃ ds, Accepted algorithm payload before ds) ∧ Fault algorithm payload before text e

section Judged

variable {algorithm : HashAlgorithm} {payload : Json.Object}

/-- It does not matter in which order the texts before were presented. -/
theorem Fault.of_mem_iff {before before' : List String} {text : String} {e : Error}
    (hBefore : ∀ u, u ∈ before ↔ u ∈ before') (h : Fault algorithm payload before text e) :
    Fault algorithm payload before' text e := by
  cases h with
  | malformed hDetail => exact .malformed hDetail
  | uncommitted hText hNot => exact .uncommitted hText hNot
  | repeated hText hCommitted hSeen => exact .repeated hText hCommitted ((hBefore _).mp hSeen)

/-- A text is at fault, or there is nothing against it. -/
theorem fault_or_sound (algorithm : HashAlgorithm) (payload : Json.Object) (before : List String)
    (text : String) :
    (∃ e, Fault algorithm payload before text e) ∨
      ∃ d, Discloses text d ∧ Committed algorithm payload text ∧ text ∉ before := by
  -- the tests are made in the order of the faults
  cases hDecode : decode text with
  | error e =>
    obtain ⟨detail, hMalformed, rfl⟩ := decode_eq_error_iff.mp hDecode
    exact Or.inl ⟨_, .malformed hMalformed⟩
  | ok d =>
    have hText := decode_eq_ok_iff.mp hDecode
    by_cases hCommitted : Committed algorithm payload text
    · by_cases hBefore : text ∈ before
      · exact Or.inl ⟨_, .repeated hText hCommitted hBefore⟩
      · exact Or.inr ⟨d, hText, hCommitted, hBefore⟩
    · exact Or.inl ⟨_, .uncommitted hText hCommitted⟩

/-- A text in front of others is accepted with them when nothing is against it, and it is not among them. -/
theorem accepted_cons_iff {text : String} {rest : List String} :
    (∃ ds, Accepted algorithm payload (text :: rest) ds) ↔
      (∃ d, Discloses text d) ∧ Committed algorithm payload text ∧ text ∉ rest ∧
        ∃ ds, Accepted algorithm payload rest ds := by
  constructor
  · rintro ⟨ds, hDecoded, hCommitted, hDistinct⟩
    obtain ⟨d, ds', hText, hRest, rfl⟩ := List.forall₂_cons_left_iff.mp hDecoded
    rw [List.forall_mem_cons] at hCommitted
    rw [List.nodup_cons] at hDistinct
    exact ⟨⟨d, hText⟩, hCommitted.1, hDistinct.1, ds', hRest, hCommitted.2, hDistinct.2⟩
  · rintro ⟨⟨d, hText⟩, hCommitted, hFresh, ds, hRest⟩
    exact ⟨d :: ds, .cons hText hRest.decoded, List.forall_mem_cons.mpr ⟨hCommitted, hRest.committed⟩,
      List.nodup_cons.mpr ⟨hFresh, hRest.distinct⟩⟩

variable {found : List String}
variable (hFound : ∀ digest, digest ∈ found ↔ Commitments.Commits (.object payload) digest)
include hFound

/-- A first text that is at fault gives the error of all. -/
theorem checkAll_cons_of_fault {seen rest : List String} {text : String} {e : Error}
    (h : Fault algorithm payload seen text e) :
    checkAll algorithm found seen (text :: rest) = .error e := by
  rw [checkAll, check]
  cases h with
  | malformed hDetail => simp [bind, Except.bind, decode_of_malformed hDetail]
  | uncommitted hText hNot =>
    have hNotMem : algorithm.hash (Encoding.utf8Bytes text) ∉ found :=
      fun hMem => hNot ((hFound _).mp hMem)
    simp [bind, Except.bind, decode_eq_ok_iff.mpr hText, hNotMem]
  | repeated hText hCommitted hSeen =>
    have hMem := (hFound _).mpr hCommitted
    simp [bind, Except.bind, decode_eq_ok_iff.mpr hText, hMem, hSeen]

/-- A first text with nothing against it is disclosed, and those behind it are checked with it as one that was
seen. -/
theorem checkAll_cons_of_sound {seen rest : List String} {text : String} {d : Disclosure}
    (hText : Discloses text d) (hCommitted : Committed algorithm payload text) (hFresh : text ∉ seen) :
    checkAll algorithm found seen (text :: rest) =
      (checkAll algorithm found (text :: seen) rest).map fun ds => d :: ds := by
  have hMem := (hFound _).mpr hCommitted
  rw [checkAll, check]
  -- each of the three tests passes, so that the rest is all that is left
  simp only [bind, Except.bind, decode_eq_ok_iff.mpr hText, List.contains_eq_mem, hMem, hFresh,
    decide_true, decide_false, Bool.false_eq_true, if_true, if_false]
  cases checkAll algorithm found (text :: seen) rest <;> rfl

/-- The texts before the one that the error is of have nothing against them. -/
theorem fault_of_checkAll {seen texts : List String} {e : Error}
    (h : checkAll algorithm found seen texts = .error e) :
    ∃ before text after, texts = before ++ text :: after ∧
      (∃ ds, Accepted algorithm payload before ds) ∧ (∀ u ∈ before, u ∉ seen) ∧
        Fault algorithm payload (before ++ seen) text e := by
  -- by induction on the texts: the first one is at fault, or it joins those that were seen
  induction texts generalizing seen with
  | nil => cases h
  | cons first rest ih =>
    rcases fault_or_sound algorithm payload seen first with ⟨e', hFault⟩ | ⟨d, hText, hCommitted, hFresh⟩
    · have hFirst : checkAll algorithm found seen (first :: rest) = .error e' :=
        checkAll_cons_of_fault hFound hFault
      obtain rfl := Except.error.inj (hFirst.symm.trans h)
      exact ⟨[], first, rest, rfl, ⟨[], .nil, by simp, .nil⟩, by simp, hFault⟩
    · rw [checkAll_cons_of_sound hFound hText hCommitted hFresh] at h
      have hRest : checkAll algorithm found (first :: seen) rest = .error e := by
        cases hResult : checkAll algorithm found (first :: seen) rest with
        | ok ds => simp [hResult, Except.map] at h
        | error e' => simpa [hResult, Except.map] using h
      obtain ⟨before, text, after, rfl, hAccepted, hNew, hFault⟩ := ih hRest
      -- the first text was seen by all that follow it
      have hNotMem : first ∉ before := fun hMem => hNew first hMem List.mem_cons_self
      refine ⟨first :: before, text, after, rfl,
        accepted_cons_iff.mpr ⟨⟨d, hText⟩, hCommitted, hNotMem, hAccepted⟩, ?_, ?_⟩
      · intro u hu
        rcases List.mem_cons.mp hu with rfl | hu
        · exact hFresh
        · exact fun hSeen => hNew u hu (List.mem_cons_of_mem _ hSeen)
      · refine hFault.of_mem_iff fun u => ?_
        simp only [List.mem_append, List.mem_cons]
        tauto

/-- Behind texts that are accepted the error is that of the text at fault, whatever comes behind it. -/
theorem checkAll_of_fault {seen before after : List String} {text : String} {e : Error}
    (hAccepted : ∃ ds, Accepted algorithm payload before ds) (hNew : ∀ u ∈ before, u ∉ seen)
    (hFault : Fault algorithm payload (before ++ seen) text e) :
    checkAll algorithm found seen (before ++ text :: after) = .error e := by
  -- by induction on the accepted texts, which are seen one after the other
  induction before generalizing seen with
  | nil => exact checkAll_cons_of_fault hFound hFault
  | cons first before ih =>
    obtain ⟨⟨d, hText⟩, hCommitted, hNotMem, hRest⟩ := accepted_cons_iff.mp hAccepted
    rw [List.forall_mem_cons] at hNew
    rw [List.cons_append, checkAll_cons_of_sound hFound hText hCommitted hNew.1]
    have hError : checkAll algorithm found (first :: seen) (before ++ text :: after) = .error e := by
      refine ih hRest ?_ (hFault.of_mem_iff fun u => ?_)
      · intro u hu hSeen
        rcases List.mem_cons.mp hSeen with rfl | hSeen
        · exact hNotMem hu
        · exact hNew.2 u hu hSeen
      · simp only [List.mem_append, List.mem_cons]
        tauto
    rw [hError]
    rfl

/-- The error of all texts is that of the first one at fault. -/
theorem checkAll_eq_error_iff {texts : List String} {e : Error} :
    checkAll algorithm found [] texts = .error e ↔ FirstFault algorithm payload texts e := by
  constructor
  · intro h
    obtain ⟨before, text, after, hSplit, hAccepted, -, hFault⟩ := fault_of_checkAll hFound h
    rw [List.append_nil] at hFault
    exact ⟨before, text, after, hSplit, hAccepted, hFault⟩
  · rintro ⟨before, text, after, rfl, hAccepted, hFault⟩
    rw [← List.append_nil before] at hFault
    exact checkAll_of_fault hFound hAccepted (by simp) hFault

/-- The texts pass exactly when they are accepted, as what they disclose. -/
theorem checkAll_eq_ok_iff_accepted {texts : List String} {ds : List Disclosure} :
    checkAll algorithm found [] texts = .ok ds ↔ Accepted algorithm payload texts ds := by
  simp only [checkAll_eq_ok_iff, check_eq_ok_iff, List.forall₂_and_left, decode_eq_ok_iff, hFound]
  constructor
  · rintro ⟨⟨hCommitted, hDecoded⟩, hDistinct, -⟩
    exact ⟨hDecoded, hCommitted, hDistinct⟩
  · rintro ⟨hDecoded, hCommitted, hDistinct⟩
    exact ⟨⟨hCommitted, hDecoded⟩, hDistinct, by simp⟩

end Judged

/-- **The disclosures of a credential** are accepted when there are none. Else the payload has to name a
hash algorithm and to nest within the limit, and then the texts are accepted as what they disclose, or the
error is that of the first that is at fault. -/
theorem validate_decided (limit : Nat) (t : Token) :
    (t.disclosures = [] → validate limit t = .ok []) ∧
    (t.disclosures ≠ [] →
      (t.payload.get? "_sd_alg" = none → validate limit t = .error .missingSdAlg) ∧
      (t.payload.get? "_sd_alg" ≠ none → (∀ algorithm, ¬NamesAlgorithm t.payload algorithm) →
        validate limit t = .error (.unsupportedSdAlg (HolderBinding.algorithmText t.payload))) ∧
      ∀ algorithm, NamesAlgorithm t.payload algorithm →
        ((∃ depth v, Commitments.Visited (.object t.payload) depth v ∧ limit < depth) →
          validate limit t = .error (.claimNestingTooDeep limit)) ∧
        ((∀ depth v, Commitments.Visited (.object t.payload) depth v → depth ≤ limit) →
          (∀ ds, validate limit t = .ok ds ↔ Accepted algorithm t.payload t.disclosures ds) ∧
          ∀ e, validate limit t = .error e ↔ FirstFault algorithm t.payload t.disclosures e)) := by
  unfold validate
  refine ⟨fun hNone => if_pos hNone, fun hSome => ?_⟩
  rw [if_neg hSome]
  -- no algorithm, one that is not supported, and one that is
  refine ⟨?_, ?_, ?_⟩
  · intro hAbsent
    rw [sdAlgorithm_eq_none_iff.mpr hAbsent]
    rfl
  · intro hThere hUnsupported
    cases hNamed : sdAlgorithm t.payload with
    | error e =>
      rw [HolderBinding.unsupported_of_sdAlgorithm hNamed]
      rfl
    | ok named =>
      cases named with
      | none => exact absurd (sdAlgorithm_eq_none_iff.mp hNamed) hThere
      | some algorithm => exact absurd (sdAlgorithm_eq_some_iff.mp hNamed) (hUnsupported algorithm)
  · intro algorithm hNamed
    rw [sdAlgorithm_eq_some_iff.mpr hNamed]
    refine ⟨?_, ?_⟩
    · intro hDeep
      have hError := Commitments.collect_eq_error_iff.mpr ⟨rfl, hDeep⟩
      simp [bind, Except.bind, hError]
    · intro hDepth
      obtain ⟨found, hWalk⟩ := Commitments.exists_collect_of_depth_le hDepth
      have hFound : ∀ digest, digest ∈ found ↔ Commitments.Commits (.object t.payload) digest :=
        fun digest => Commitments.mem_collect_iff hWalk
      simp only [bind, Except.bind, hWalk]
      exact ⟨fun ds => checkAll_eq_ok_iff_accepted hFound, fun e => checkAll_eq_error_iff hFound⟩

/-- A credential that discloses one claim twice. -/
def repeatingText : String :=
  "e30.eyJfc2QiOlsiQkdUeHlVZUZja0JqNDV3a3ZGaHl0UXpURWxOOTg1cTQ4czU4OURsel" ++
    "pLdyJdLCJfc2RfYWxnIjoic2hhLTI1NiJ9.AQ~WyJzIiwiYSIsMV0~WyJzIiwiYSIsMV0~"

/-- Of the two texts the second is at fault. -/
theorem validate_decided_repeating :
    ∃ t, Token.ofJws repeatingText = .ok t ∧ t.disclosures = ["WyJzIiwiYSIsMV0", "WyJzIiwiYSIsMV0"] ∧
      NamesAlgorithm t.payload .sha256 ∧
      (∀ depth v, Commitments.Visited (.object t.payload) depth v → depth ≤ 1) ∧
      FirstFault .sha256 t.payload t.disclosures
        (.rejected .selectiveDisclosure (.duplicateDisclosure "a")) := by
  -- one limit is enough for both, as the digests stand in the payload itself
  have hParts : (Token.ofJws repeatingText).toOption.map
      (fun t => (t.disclosures, (sdAlgorithm t.payload).toOption,
        (Commitments.collect 1 t.payload).toOption,
        match validate 1 t with
        | .error e => some e
        | .ok _ => none)) =
      some (["WyJzIiwiYSIsMV0", "WyJzIiwiYSIsMV0"], some (some .sha256),
        some ["BGTxyUeFckBj45wkvFhytQzTElN985q48s589DlzZKw"],
        some (.rejected .selectiveDisclosure (.duplicateDisclosure "a"))) := by
    decide +kernel
  obtain ⟨t, hToken, hParts⟩ := toOption_map_eq_some.mp hParts
  obtain ⟨hTexts, hNamed, hWalk, hResult⟩ := by simpa only [Prod.mk.injEq] using hParts
  have hAlgorithm := sdAlgorithm_eq_some_iff.mp (toOption_eq_some.mp hNamed)
  have hDepth : ∀ depth v, Commitments.Visited (.object t.payload) depth v → depth ≤ 1 :=
    fun depth v hVisited => Commitments.depth_le_of_collect (toOption_eq_some.mp hWalk) hVisited
  have hError : validate 1 t =
      .error (.rejected .selectiveDisclosure (.duplicateDisclosure "a")) := by
    cases hValidate : validate 1 t with
    | error e => simpa [hValidate] using hResult
    | ok ds => simp [hValidate] at hResult
  obtain ⟨-, hSome⟩ := validate_decided 1 t
  obtain ⟨-, -, hJudged⟩ := hSome (by rw [hTexts]; simp)
  obtain ⟨-, hErrors⟩ := (hJudged .sha256 hAlgorithm).2 hDepth
  exact ⟨t, hToken, hTexts, hAlgorithm, hDepth, (hErrors _).mp hError⟩

end Disclosure

end PresentationVerifier
