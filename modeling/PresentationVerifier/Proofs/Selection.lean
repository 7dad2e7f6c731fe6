import Mathlib.Data.Finset.Insert
import PresentationVerifier.Proofs.Composition
import PresentationVerifier.Proofs.Faults

/-!
# Selections of disclosures

An issuer hands out a signed JWT and some disclosures that the payload commits to. The holder may present the
JWT with any of them and in any order, and each selection passes as just what it reveals. To put in another
text is found out: one that the payload does not commit to, or one that is there already, is at fault
wherever it stands.

Main results:

* `validate_of_accepted`, `validate_of_firstFault`: what the disclosures of a token come to.
* `Offers.accepted`, `Offers.firstFault_of_uncommitted`, `Offers.firstFault_of_repeated`: selections, and
  selections that another text was put into.
* `validate_selection`: the same of what is presented.
-/

namespace PresentationVerifier.Disclosure

/-! ## Texts of disclosures -/

/-- What encodes a disclosure can be presented as one: it is not empty, and has neither tildes nor dots. -/
theorem Discloses.disclosureText {text : String} {d : Disclosure} (h : Discloses text d) :
    Token.DisclosureText text := by
  obtain ⟨bytes, hBytes⟩ := Token.bytes_of_encodesJson h.json
  have hFree : Token.separator ∉ text.toList :=
    fun hTilde => (Token.inner_of_encodesBytes hBytes hTilde).tilde rfl
  -- the alphabet of base64url has neither of the two characters
  refine ⟨?_, hFree, Token.not_tokenShaped_of_encodesBytes hBytes⟩
  rintro rfl
  -- an empty text encodes no bytes, and they are no JSON text
  have hNone : decode "" = .error (.malformedDisclosure "`` is not JSON") := rfl
  rw [decode_eq_ok_iff.mpr h] at hNone
  cases hNone

/-! ## The disclosures of a token -/

section Validated

variable {limit : Nat} {t : Token} {algorithm : HashAlgorithm}

/-- Where the payload names an algorithm and is not too deep, the texts alone decide. -/
theorem exists_validate_eq_checkAll (hNamed : NamesAlgorithm t.payload algorithm)
    (hDepth : ∀ depth v, Commitments.Visited (.object t.payload) depth v → depth ≤ limit) :
    ∃ found, (∀ digest, digest ∈ found ↔ Commitments.Commits (.object t.payload) digest) ∧
      validate limit t = checkAll algorithm found [] t.disclosures := by
  obtain ⟨found, hWalk⟩ := Commitments.exists_collect_of_depth_le hDepth
  refine ⟨found, fun digest => Commitments.mem_collect_iff hWalk, ?_⟩
  unfold validate
  -- without texts the walk is not made, and has nothing to check either
  by_cases hNone : t.disclosures = []
  · rw [if_pos hNone, hNone]
    rfl
  · rw [if_neg hNone, sdAlgorithm_eq_some_iff.mpr hNamed]
    simp only [bind, Except.bind, hWalk]

/-- Texts that are accepted pass as what they disclose. -/
theorem validate_of_accepted (hNamed : NamesAlgorithm t.payload algorithm)
    (hDepth : ∀ depth v, Commitments.Visited (.object t.payload) depth v → depth ≤ limit)
    {ds : List Disclosure} (h : Accepted algorithm t.payload t.disclosures ds) :
    validate limit t = .ok ds := by
  obtain ⟨found, hFound, hValidate⟩ := exists_validate_eq_checkAll hNamed hDepth
  rw [hValidate]
  exact (checkAll_eq_ok_iff_accepted hFound).mpr h

theorem validate_of_firstFault (hNamed : NamesAlgorithm t.payload algorithm)
    (hDepth : ∀ depth v, Commitments.Visited (.object t.payload) depth v → depth ≤ limit)
    {e : Error} (h : FirstFault algorithm t.payload t.disclosures e) : validate limit t = .error e := by
  obtain ⟨found, hFound, hValidate⟩ := exists_validate_eq_checkAll hNamed hDepth
  rw [hValidate]
  exact (checkAll_eq_error_iff hFound).mpr h

end Validated

/-! ## Selections -/

/-- The texts that an issuer hands out, with what they disclose. The payload commits to all of them. -/
structure Offers (algorithm : HashAlgorithm) (payload : Json.Object) (offered : Finset String)
    (shown : String → Disclosure) : Prop where
  discloses : ∀ text ∈ offered, Discloses text (shown text)
  committed : ∀ text ∈ offered, Committed algorithm payload text

section Selected

variable {algorithm : HashAlgorithm} {payload : Json.Object} {offered : Finset String}
  {shown : String → Disclosure}

/-- A selection without repetition reveals what each of its texts discloses. -/
theorem Offers.accepted (h : Offers algorithm payload offered shown) {texts : List String}
    (hOffered : ∀ text ∈ texts, text ∈ offered) (hDistinct : texts.Nodup) :
    Accepted algorithm payload texts (texts.map shown) := by
  refine ⟨?_, fun text hText => h.committed text (hOffered text hText), hDistinct⟩
  rw [List.forall₂_map_right_iff, List.forall₂_same]
  exact fun text hText => h.discloses text (hOffered text hText)

theorem Offers.accepted_front (h : Offers algorithm payload offered shown) {before after : List String}
    (hOffered : ∀ text ∈ before ++ after, text ∈ offered) (hDistinct : (before ++ after).Nodup) :
    Accepted algorithm payload before (before.map shown) :=
  h.accepted (fun u hu => hOffered u (List.mem_append_left _ hu)) hDistinct.of_append_left

/-- A text that the payload does not commit to is at fault between any others. -/
theorem Offers.firstFault_of_uncommitted (h : Offers algorithm payload offered shown)
    {before after : List String} (hOffered : ∀ text ∈ before ++ after, text ∈ offered)
    (hDistinct : (before ++ after).Nodup) {text : String} {d : Disclosure} (hText : Discloses text d)
    (hNot : ¬Committed algorithm payload text) :
    FirstFault algorithm payload (before ++ text :: after)
      (.rejected .selectiveDisclosure (.undisclosedCommitment d.key)) := by
  have hBefore := h.accepted_front hOffered hDistinct
  exact ⟨before, text, after, rfl, ⟨_, hBefore⟩, .uncommitted hText hNot⟩

/-- Of two copies of a text the second is at fault, whichever of them was put in. -/
theorem Offers.firstFault_of_repeated (h : Offers algorithm payload offered shown)
    {before after : List String} (hOffered : ∀ text ∈ before ++ after, text ∈ offered)
    (hDistinct : (before ++ after).Nodup) {text : String} (hText : text ∈ before ++ after) :
    FirstFault algorithm payload (before ++ text :: after)
      (.rejected .selectiveDisclosure (.duplicateDisclosure (shown text).key)) := by
  have hShown := h.discloses text (hOffered text hText)
  have hCommitted := h.committed text (hOffered text hText)
  rcases List.mem_append.mp hText with hIn | hIn
  · have hBefore := h.accepted_front hOffered hDistinct
    exact ⟨before, text, after, rfl, ⟨_, hBefore⟩, .repeated hShown hCommitted hIn⟩
  · -- the text that was put in passes, and the one that was there already is the second
    obtain ⟨between, rest, rfl⟩ := List.append_of_mem hIn
    have hMoved : ((before ++ text :: between) ++ rest).Perm (before ++ (between ++ text :: rest)) := by
      rw [List.append_assoc, List.cons_append]
      exact List.perm_middle.symm.append_left before
    have hUpTo : Accepted algorithm payload (before ++ text :: between)
        ((before ++ text :: between).map shown) :=
      h.accepted_front (fun u hu => hOffered u (hMoved.mem_iff.mp hu)) (hMoved.nodup_iff.mpr hDistinct)
    refine ⟨before ++ text :: between, text, rest, by simp, ⟨_, hUpTo⟩, ?_⟩
    exact .repeated hShown hCommitted (by simp)

end Selected

/-! ## What is presented -/

/-- A signed JWT is presented with some texts and a Key Binding JWT; it reads as a token with these texts,
and they are validated with that result. -/
def ValidatesAs (limit : Nat) (jws : String) (texts : List String) (binding : Option String)
    (result : Except Error (List Disclosure)) : Prop :=
  ∃ t, Token.ofJws (Token.presentedText (Token.sdJwtText jws texts) binding) = .ok t ∧
    t.disclosures = texts ∧ t.keyBinding = binding ∧ validate limit t = result

/-- **Selective disclosure**: any selection of the disclosures that the payload commits to validates as what
the selected texts disclose, in the order in which they are presented. With another text put in anywhere it
does not: the error is that of the text, if the payload does not commit to it or it is there twice. -/
theorem validate_selection {limit : Nat} {jws : String} {t : Token} {algorithm : HashAlgorithm}
    {offered : Finset String} {shown : String → Disclosure} {texts : List String}
    {binding : Option String} (hJws : Token.ofJws jws = .ok t) (hAlone : t.structural = jws)
    (hNamed : NamesAlgorithm t.payload algorithm)
    (hDepth : ∀ depth v, Commitments.Visited (.object t.payload) depth v → depth ≤ limit)
    (hOffers : Offers algorithm t.payload offered shown) (hOffered : ∀ text ∈ texts, text ∈ offered)
    (hDistinct : texts.Nodup) (hBinding : ∀ b ∈ binding, Token.BindingText b) :
    ValidatesAs limit jws texts binding (.ok (texts.map shown)) ∧
    ∀ before after, texts = before ++ after →
      (∀ text d, Discloses text d → ¬Committed algorithm t.payload text →
        ValidatesAs limit jws (before ++ text :: after) binding
          (.error (.rejected .selectiveDisclosure (.undisclosedCommitment d.key)))) ∧
      (∀ text ∈ texts,
        ValidatesAs limit jws (before ++ text :: after) binding
          (.error (.rejected .selectiveDisclosure (.duplicateDisclosure (shown text).key)))) := by
  have hText : ∀ text ∈ texts, Token.DisclosureText text :=
    fun text hIn => (hOffers.discloses text (hOffered text hIn)).disclosureText
  -- the payload of what is presented is that of the signed JWT
  have hPresented : ∀ {texts' : List String} {result : Except Error (List Disclosure)},
      (∀ text ∈ texts', Token.DisclosureText text) →
      validate limit (t.presenting texts' binding) = result →
      ValidatesAs limit jws texts' binding result := by
    intro texts' result hTexts hResult
    have hRead := Token.ofJws_presentedText hJws hTexts hBinding
    rw [hAlone] at hRead
    exact ⟨_, hRead, rfl, rfl, hResult⟩
  have hPut : ∀ {before after : List String} {text : String}, texts = before ++ after →
      Token.DisclosureText text → ∀ u ∈ before ++ text :: after, Token.DisclosureText u := by
    intro before after text hSplit hNew u hu
    rw [hSplit] at hText
    simp only [List.mem_append, List.mem_cons] at hu hText
    rcases hu with hu | rfl | hu
    · exact hText u (Or.inl hu)
    · exact hNew
    · exact hText u (Or.inr hu)
  -- the selection itself, then a text that is not committed to, and one that is repeated
  refine ⟨hPresented hText ?_, fun before after hSplit => ⟨?_, ?_⟩⟩
  · exact validate_of_accepted (t := t.presenting texts binding) hNamed hDepth
      (hOffers.accepted hOffered hDistinct)
  · intro text d hDiscloses hNot
    refine hPresented (hPut hSplit hDiscloses.disclosureText) ?_
    rw [hSplit] at hOffered hDistinct
    exact validate_of_firstFault (t := t.presenting _ binding) hNamed hDepth
      (hOffers.firstFault_of_uncommitted hOffered hDistinct hDiscloses hNot)
  · intro text hIn
    refine hPresented (hPut hSplit (hText text hIn)) ?_
    rw [hSplit] at hOffered hDistinct hIn
    exact validate_of_firstFault (t := t.presenting _ binding) hNamed hDepth
      (hOffers.firstFault_of_repeated hOffered hDistinct hIn)

/-- A signed JWT that commits to two disclosures, to one of them in an element of an array. -/
def offeringText : String :=
  "e30.eyJfc2QiOlsiOTMyVGpzSFdGaTRNY1I3RjF4YzlPRkxMU05ZbWpIWE5pSGFtRkpjZkZjMCJdLCJfc2RfYWxn" ++
    "Ijoic2hhLTI1NiIsIngiOlt7Il9zZCI6WyJNQTJQa2lQa3d5LVFUZG1KMEVHQ2gzbEJwekp6eWNMT1pxQzhNaEJJ" ++
      "VWE0Il19XX0.AQ"

/-- What the two texts disclose. -/
def offeredClaims (text : String) : Disclosure :=
  if text = "WyJzIiwiYSIsdHJ1ZV0" then ⟨"s", "a", .bool true, text⟩
  else ⟨"s", "b", .object [("c", .array [])], text⟩

/-- Both are presented, the second first, then with a third between them and with the second again. -/
theorem validate_selection_both :
    ValidatesAs 2 offeringText ["WyJzIiwiYiIseyJjIjpbXX1d", "WyJzIiwiYSIsdHJ1ZV0"] (some "e30.e30.Ag")
        (.ok [⟨"s", "b", .object [("c", .array [])], "WyJzIiwiYiIseyJjIjpbXX1d"⟩,
          ⟨"s", "a", .bool true, "WyJzIiwiYSIsdHJ1ZV0"⟩]) ∧
      ValidatesAs 2 offeringText
        ["WyJzIiwiYiIseyJjIjpbXX1d", "WyJzIiwieiIsbnVsbF0", "WyJzIiwiYSIsdHJ1ZV0"] (some "e30.e30.Ag")
        (.error (.rejected .selectiveDisclosure (.undisclosedCommitment "z"))) ∧
      ValidatesAs 2 offeringText
        ["WyJzIiwiYiIseyJjIjpbXX1d", "WyJzIiwiYSIsdHJ1ZV0", "WyJzIiwiYiIseyJjIjpbXX1d"]
        (some "e30.e30.Ag") (.error (.rejected .selectiveDisclosure (.duplicateDisclosure "b"))) := by
  have hParts : (Token.ofJws offeringText).toOption.map
      (fun t => (t.structural, (sdAlgorithm t.payload).toOption,
        (Commitments.collect 2 t.payload).toOption)) =
      some (offeringText, some (some .sha256),
        some ["932TjsHWFi4McR7F1xc9OFLLSNYmjHXNiHamFJcfFc0",
          "MA2PkiPkwy-QTdmJ0EGCh3lBpzJzycLOZqC8MhBIUa4"]) := by
    decide +kernel
  obtain ⟨t, hJws, hParts⟩ := toOption_map_eq_some.mp hParts
  obtain ⟨hAlone, hNamed, hWalk⟩ := by simpa only [Prod.mk.injEq] using hParts
  have hFound := toOption_eq_some.mp hWalk
  -- the digests that the walk has found are all that there are
  have hCommits : ∀ text, Committed .sha256 t.payload text ↔
      HashAlgorithm.sha256.hash (Encoding.utf8Bytes text) ∈
        ["932TjsHWFi4McR7F1xc9OFLLSNYmjHXNiHamFJcfFc0", "MA2PkiPkwy-QTdmJ0EGCh3lBpzJzycLOZqC8MhBIUa4"] :=
    fun text => (Commitments.mem_collect_iff hFound).symm
  have hOffers : Offers .sha256 t.payload {"WyJzIiwiYSIsdHJ1ZV0", "WyJzIiwiYiIseyJjIjpbXX1d"}
      offeredClaims := by
    refine ⟨fun text hText => ?_, fun text hText => ?_⟩
    · rw [Finset.mem_insert, Finset.mem_singleton] at hText
      rcases hText with rfl | rfl <;> exact decode_eq_ok_iff.mp rfl
    · rw [Finset.mem_insert, Finset.mem_singleton] at hText
      rw [hCommits]
      rcases hText with rfl | rfl <;> decide +kernel
  have hThird : Discloses "WyJzIiwieiIsbnVsbF0" ⟨"s", "z", .null, "WyJzIiwieiIsbnVsbF0"⟩ :=
    decode_eq_ok_iff.mp rfl
  have hNot : ¬Committed .sha256 t.payload "WyJzIiwieiIsbnVsbF0" := by
    rw [hCommits]
    decide +kernel
  have hBinding : ∀ b ∈ some "e30.e30.Ag", Token.BindingText b := by
    intro b hb
    obtain rfl := Option.mem_some.mp hb
    refine ⟨by decide, by decide, ?_⟩
    rintro c ⟨⟩
    decide
  have hNamed : NamesAlgorithm t.payload .sha256 := sdAlgorithm_eq_some_iff.mp (toOption_eq_some.mp hNamed)
  have hDepth : ∀ depth v, Commitments.Visited (.object t.payload) depth v → depth ≤ 2 :=
    fun depth v hVisited => Commitments.depth_le_of_collect hFound hVisited
  have hOffered : ∀ text ∈ ["WyJzIiwiYiIseyJjIjpbXX1d", "WyJzIiwiYSIsdHJ1ZV0"],
      text ∈ ({"WyJzIiwiYSIsdHJ1ZV0", "WyJzIiwiYiIseyJjIjpbXX1d"} : Finset String) := by
    decide
  obtain ⟨hSelected, hPut⟩ :=
    validate_selection hJws hAlone hNamed hDepth hOffers hOffered (by decide) hBinding
  obtain ⟨hUncommitted, -⟩ := hPut ["WyJzIiwiYiIseyJjIjpbXX1d"] ["WyJzIiwiYSIsdHJ1ZV0"] rfl
  obtain ⟨-, hRepeated⟩ := hPut ["WyJzIiwiYiIseyJjIjpbXX1d", "WyJzIiwiYSIsdHJ1ZV0"] [] rfl
  exact ⟨hSelected, hUncommitted _ _ hThird hNot, hRepeated "WyJzIiwiYiIseyJjIjpbXX1d" (by decide)⟩

end PresentationVerifier.Disclosure
