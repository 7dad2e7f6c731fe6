import PresentationVerifier.HolderBinding
import PresentationVerifier.Proofs.Reread

/-!
# What checks establish

For each check the property that it decides, in terms of the token and its claims instead of the steps of
the check. The checks of a presentation, of a credential and of a Key Binding JWT are rows of single
checks; what they establish is a structure with one field for each of these.

Main results:

* `verifyPresentation_eq_ok_iff`, `verifyCredential_eq_ok_iff` — the integrity of presentations and of
  credentials.
* `HolderBinding.verify_eq_ok_iff` — holder binding.
-/

namespace PresentationVerifier

/-! ## Claims -/

namespace Claims

/-- A claim is a string, and the expected one where one is expected. This says nothing of a claim that
is absent or `null`. -/
def Matches (payload : Json.Object) (claim : String) (expected : Option String) : Prop :=
  ∀ v, payload.get? claim = some v → v ≠ .null →
    ∃ found, v = .string found ∧ ∀ e, expected = some e → found = e

/-- The comparison that the checks of the issuer and of the type have in common. -/
theorem compare_text_eq_ok_iff {payload : Json.Object} {claim : String} {expected : Option String}
    (mismatch : String → String → Reason) :
    (text payload claim >>= fun found =>
      match found, expected with
      | some found, some expected =>
        if found = expected then .ok () else .error (mismatch expected found)
      | _, _ => .ok ()) = .ok () ↔ Matches payload claim expected := by
  unfold text Matches
  -- an absent claim and `null` pass; of all other values only a string is compared at all
  cases payload.get? claim with
  | none => simp
  | some v =>
    cases v with
    | string s =>
      cases expected with
      | none => simp
      | some e => simp
    | null | bool b | number n | array items | object members => simp

@[simp] theorem checkIssuer_eq_ok_iff {payload : Json.Object} {expected : Option String} :
    checkIssuer payload expected = .ok () ↔ Matches payload "iss" expected :=
  compare_text_eq_ok_iff .issuerMismatch

@[simp] theorem checkVct_eq_ok_iff {payload : Json.Object} {expected : Option String} :
    checkVct payload expected = .ok () ↔ Matches payload "vct" expected :=
  compare_text_eq_ok_iff .vctMismatch

/-- An audience claim names an audience: it is that string, or an array of strings with it among
them. -/
def Names (aud : Json) (audience : String) : Prop :=
  aud = .string audience ∨ ∃ names : List String, aud = .array (names.map .string) ∧ audience ∈ names

/-- An array of strings is read as these strings, and no other array is. -/
@[simp] theorem mapM_asString?_eq_some_iff {items : List Json} {names : List String} :
    items.mapM Json.asString? = some names ↔ items = names.map .string := by
  induction items generalizing names with
  | nil => cases names <;> simp
  | cons v rest ih =>
    simp only [List.mapM_cons, Option.bind_eq_bind, Option.bind_eq_some_iff,
      Json.asString?_eq_some_iff, ih]
    -- from the values to the names, and back: the first of each and then the rest
    constructor
    · rintro ⟨s, rfl, tail, rfl, hNames⟩
      obtain rfl := Option.some.inj hNames
      rfl
    · intro hItems
      cases names with
      | nil => cases hItems
      | cons s tail =>
        rw [List.map_cons, List.cons.injEq] at hItems
        exact ⟨s, hItems.1, tail, hItems.2, rfl⟩

/-- An audience is named exactly when it is among the audiences that are read from the claim. -/
theorem names_iff {aud : Json} {audience : String} :
    Names aud audience ↔ ∃ names, audiences? aud = some names ∧ audience ∈ names := by
  cases aud with
  | string s => simp [Names, audiences?, eq_comm]
  | array items => simp [Names, audiences?, Json.asArrayOf?]
  | null | bool b | number n | object members => simp [Names, audiences?, Json.asArrayOf?]

/-- The audience claim, if it is there, names the expected audience, if there is one. -/
def AudienceMatches (payload : Json.Object) (expected : Option String) : Prop :=
  ∀ aud e, payload.get? "aud" = some aud → expected = some e → Names aud e

/-- The audience passes when it is absent or names the expected one. -/
@[simp] theorem checkAudience_eq_ok_iff {payload : Json.Object} {expected : Option String} :
    checkAudience payload expected = .ok () ↔ AudienceMatches payload expected := by
  unfold checkAudience AudienceMatches
  cases payload.get? "aud" with
  | none => simp
  | some aud =>
    cases expected with
    | none => simp
    | some e =>
      simp only [Option.some.injEq, names_iff]
      cases hNames : audiences? aud with
      | none => simp [hNames]
      | some names => simp [hNames]

/-- The point in time that a claim gives can be read, and if there is one it is as it should be. -/
def Dated (payload : Json.Object) (claim : String) (ok : Int64 → Prop) : Prop :=
  ∃ date, numericDate payload claim = .ok date ∧ ∀ t, date = some t → ok t

/-- A weaker condition holds of the same point in time. -/
theorem Dated.imp {payload : Json.Object} {claim : String} {ok ok' : Int64 → Prop}
    (hImp : ∀ t, ok t → ok' t) (h : Dated payload claim ok) : Dated payload claim ok' := by
  obtain ⟨date, hDate, hOk⟩ := h
  exact ⟨date, hDate, fun t ht => hImp t (hOk t ht)⟩

/-- The comparison that the checks of points in time have in common. -/
theorem compare_date_eq_ok_iff {payload : Json.Object} {claim : String} (wrong : Int64 → Prop)
    [DecidablePred wrong] (reason : Reason) :
    (numericDate payload claim >>= fun date =>
      match date with
      | some t => if wrong t then .error reason else .ok ()
      | none => .ok ()) = .ok () ↔ Dated payload claim fun t => ¬wrong t := by
  rw [bind_eq_ok, Dated]
  -- both sides read the same date, so it is left to look at what is done with it
  refine exists_congr fun date => and_congr_right fun _ => ?_
  cases date with
  | none => simp
  | some t => by_cases hWrong : wrong t <;> simp [hWrong]

/-- A payload has expired only after the skew that is added to its expiry. -/
@[simp] theorem checkExpiry_eq_ok_iff {payload : Json.Object} {clock : Clock} :
    checkExpiry payload clock = .ok () ↔
      Dated payload "exp" fun exp => clock.now ≤ saturatingAdd exp clock.skew := by
  simp only [← Int64.not_lt]
  exact compare_date_eq_ok_iff _ .expired

/-- A payload is valid from its start on, less the skew. -/
@[simp] theorem checkStart_eq_ok_iff {payload : Json.Object} {clock : Clock} :
    checkStart payload clock = .ok () ↔
      Dated payload "nbf" fun nbf => nbf ≤ saturatingAdd clock.now clock.skew := by
  simp only [← Int64.not_lt]
  exact compare_date_eq_ok_iff _ .notYetValid

/-- A payload may be issued as late as now and the skew. -/
@[simp] theorem checkIssuedAt_eq_ok_iff {payload : Json.Object} {clock : Clock} :
    checkIssuedAt payload clock = .ok () ↔
      Dated payload "iat" fun iat => iat ≤ saturatingAdd clock.now clock.skew := by
  simp only [← Int64.not_lt]
  exact compare_date_eq_ok_iff _ .issuedInFuture

end Claims

/-! ## Signatures -/

/-- A token has an algorithm when it is a string. -/
@[simp] theorem Token.algorithm?_eq_some_iff {t : Token} {name : String} :
    t.algorithm? = some name ↔ t.header.get? "alg" = some (.string name) := by
  simp only [algorithm?, Option.bind_eq_some_iff, Json.asString?_eq_some_iff, exists_eq_right]

/-- A token has a type when it is a string. -/
@[simp] theorem Token.type?_eq_some_iff {t : Token} {typ : String} :
    t.type? = some typ ↔ t.header.get? "typ" = some (.string typ) := by
  simp only [type?, Option.bind_eq_some_iff, Json.asString?_eq_some_iff, exists_eq_right]

/-- The signature of a token verifies over its signing input, under a key that was resolved, and with the
only algorithm that there is. -/
def SignedBy (key : Except KeyError PublicKey) (t : Token) : Prop :=
  ∃ k, key = .ok k ∧ t.algorithm? = some "ES256" ∧
    k.isSignature (Encoding.utf8Bytes t.signingInput) t.signature = true

/-- A key verifies a token by its algorithm and the bytes of its signature, and by nothing else. -/
@[simp] theorem verifyToken_eq_ok_iff {k : PublicKey} {t : Token} :
    k.verifyToken t = .ok () ↔
      t.algorithm? = some "ES256" ∧
        k.isSignature (Encoding.utf8Bytes t.signingInput) t.signature = true := by
  unfold PublicKey.verifyToken PublicKey.verify PublicKey.algorithm
  cases t.algorithm? with
  | none => simp
  | some algorithm =>
    -- with any other name the signature is not looked at
    by_cases hName : algorithm = "ES256"
    · cases hSignature : k.isSignature (Encoding.utf8Bytes t.signingInput) t.signature <;> simp [hName]
    · simp [hName]

/-- The step makes a difference to errors only: the signature passes when the token is signed. -/
@[simp] theorem verifySignature_eq_ok_iff {step : Step} {purpose : String}
    {key : Except KeyError PublicKey} {t : Token} :
    verifySignature step purpose key t = .ok () ↔ SignedBy key t := by
  unfold verifySignature SignedBy
  cases key with
  -- without a key nothing is signed by it
  | error e => simp
  | ok k =>
    simp only [Except.ok.injEq, exists_eq_left']
    rw [← verifyToken_eq_ok_iff]
    cases k.verifyToken t <;> simp

/-- Turning errors into rejections changes no result. -/
@[simp] theorem rejectAt_eq_ok_iff {α : Type} {step : Step} {x : Except Reason α} {a : α} :
    rejectAt step x = .ok a ↔ x = .ok a := by
  cases x <;> simp [rejectAt]

/-! ## Integrity -/

/-- A presentation is signed by its holder and claims what is expected. -/
structure PresentationIntact (config : Config) (options : Options) (clock : Clock)
    (resolver : KeyResolver) (t : Token) : Prop where
  signed : SignedBy (resolver.holderKey t) t
  timely : Claims.checkTemporal t.payload clock = .ok ()
  issuer : Claims.Matches t.payload "iss" config.expectedVpIssuer
  audience : options.skipAudienceCheck = false → Claims.AudienceMatches t.payload config.clientId

/-- **Integrity of a presentation**: it passes when it is intact. -/
theorem verifyPresentation_eq_ok_iff {config : Config} {options : Options} {clock : Clock}
    {resolver : KeyResolver} {t : Token} :
    verifyPresentation config options clock resolver t = .ok () ↔
      PresentationIntact config options clock resolver t := by
  simp only [verifyPresentation, seq_eq_ok, rejectAt_eq_ok_iff, verifySignature_eq_ok_iff,
    Claims.checkIssuer_eq_ok_iff]
  cases hSkip : options.skipAudienceCheck with
  -- the audience is left out, and no more is said of it
  | true =>
    constructor
    · rintro ⟨hSigned, hTimely, hIssuer, -⟩
      exact ⟨hSigned, hTimely, hIssuer, by simp [hSkip]⟩
    · intro h
      exact ⟨h.signed, h.timely, h.issuer, rfl⟩
  | false =>
    simp only [Bool.false_eq_true, if_false, Claims.checkAudience_eq_ok_iff]
    constructor
    · rintro ⟨hSigned, hTimely, hIssuer, hAudience⟩
      exact ⟨hSigned, hTimely, hIssuer, fun _ => hAudience⟩
    · intro h
      exact ⟨h.signed, h.timely, h.issuer, h.audience hSkip⟩

/-- A credential is signed by its issuer and claims what is expected. -/
structure CredentialIntact (config : Config) (clock : Clock) (resolver : KeyResolver) (t : Token) :
    Prop where
  signed : SignedBy (resolver.issuerKey t) t
  timely : Claims.checkTemporal t.payload clock = .ok ()
  issuer : Claims.Matches t.payload "iss" config.expectedVcIssuer
  type : Claims.Matches t.payload "vct" config.expectedVct

/-- **Integrity of a credential**: it passes when it is intact. -/
theorem verifyCredential_eq_ok_iff {config : Config} {clock : Clock} {resolver : KeyResolver}
    {t : Token} :
    verifyCredential config clock resolver t = .ok () ↔ CredentialIntact config clock resolver t := by
  simp only [verifyCredential, seq_eq_ok, rejectAt_eq_ok_iff, verifySignature_eq_ok_iff,
    Claims.checkIssuer_eq_ok_iff, Claims.checkVct_eq_ok_iff]
  constructor
  · rintro ⟨hSigned, hTimely, hIssuer, hType⟩
    exact ⟨hSigned, hTimely, hIssuer, hType⟩
  · intro h
    exact ⟨h.signed, h.timely, h.issuer, h.type⟩

/-! ## Holder binding -/

namespace HolderBinding

/-- A Key Binding JWT shows what it is expected to show of the credential that it comes with. -/
structure Binds (x : Expectations) (options : Options) (resolver : KeyResolver)
    (credential binding : Token) : Prop where
  type : ∀ typ, binding.type? = some typ → typ = "kb+jwt"
  signed : options.skipVcSignatureChecks = false → SignedBy (resolver.boundKey credential) binding
  issued : Claims.checkIssuedAt binding.payload x.clock = .ok ()
  audience : options.skipAudienceCheck = false → ∀ e, x.clientId = some e →
    ∃ aud, binding.payload.get? "aud" = some aud ∧ Claims.Names aud e
  nonce : options.skipNonceCheck = false → ∀ n, x.nonce = some n →
    binding.payload.get? "nonce" = some (.string n)
  sdHash : ∀ v, binding.payload.get? "sd_hash" = some v →
    ∃ algorithm, sdAlgorithm credential.payload = .ok algorithm ∧
      v = .string ((algorithm.getD .default).hash (Encoding.utf8Bytes credential.sdJwt))

/-- The type passes when it is `kb+jwt`, or when it is absent or no string. -/
@[simp] theorem checkType_eq_ok_iff {binding : Token} :
    checkType binding = .ok () ↔ ∀ typ, binding.type? = some typ → typ = "kb+jwt" := by
  unfold checkType type
  cases binding.type? with
  | none => simp
  | some typ => by_cases hType : typ = "kb+jwt" <;> simp [hType]

/-- The signature passes when it is left out or made with the key that the credential is bound to. -/
@[simp] theorem checkSignature_eq_ok_iff {options : Options} {resolver : KeyResolver}
    {credential binding : Token} :
    checkSignature options resolver credential binding = .ok () ↔
      (options.skipVcSignatureChecks = false → SignedBy (resolver.boundKey credential) binding) := by
  unfold checkSignature
  cases options.skipVcSignatureChecks with
  | true => simp
  | false => simp

/-- The audience of a Key Binding JWT has to be there, where one is expected. -/
@[simp] theorem checkAudience_eq_ok_iff {options : Options} {x : Expectations} {claims : Json.Object} :
    checkAudience options x claims = .ok () ↔
      (options.skipAudienceCheck = false → ∀ e, x.clientId = some e →
        ∃ aud, claims.get? "aud" = some aud ∧ Claims.Names aud e) := by
  unfold checkAudience
  cases options.skipAudienceCheck with
  | true => simp
  | false =>
    cases x.clientId with
    | none => simp
    | some clientId =>
      -- here an absent claim is an error, unlike in a presentation
      unfold Json.Object.contains
      cases hAud : claims.get? "aud" with
      | none => simp
      | some aud => simp [Claims.AudienceMatches, hAud]

/-- The nonce has to be that of the session, where the session has one. -/
@[simp] theorem checkNonce_eq_ok_iff {options : Options} {x : Expectations} {claims : Json.Object} :
    checkNonce options x claims = .ok () ↔
      (options.skipNonceCheck = false → ∀ n, x.nonce = some n →
        claims.get? "nonce" = some (.string n)) := by
  unfold checkNonce
  cases options.skipNonceCheck with
  | true => simp
  | false =>
    cases x.nonce with
    | none => simp
    -- a nonce that is no string is compared as an absent one, and fails
    | some nonce => simp [Option.bind_eq_some_iff]

/-- The digest, where it is there, has to be that of the presented text. -/
@[simp] theorem checkSdHash_eq_ok_iff {credential : Token} {claims : Json.Object} :
    checkSdHash credential claims = .ok () ↔
      ∀ v, claims.get? "sd_hash" = some v →
        ∃ algorithm, sdAlgorithm credential.payload = .ok algorithm ∧
          v = .string ((algorithm.getD .default).hash (Encoding.utf8Bytes credential.sdJwt)) := by
  unfold checkSdHash
  -- an absent hash passes, and of all values that are there only a string does
  cases claims.get? "sd_hash" with
  | none => simp
  | some v =>
    cases v with
    | string sdHash =>
      simp only [bind_eq_ok, Option.some.injEq, forall_eq', Json.string.injEq]
      -- whichever algorithm is named, its digest is compared
      refine exists_congr fun algorithm => and_congr_right fun _ => ?_
      by_cases hHash :
          (algorithm.getD .default).hash (Encoding.utf8Bytes credential.sdJwt) = sdHash
      · simp [hHash]
      · simp [hHash, Ne.symm hHash]
    | null | bool b | number n | array items | object members => simp

/-- A Key Binding JWT passes all its checks when it binds. -/
theorem checkBinding_eq_ok_iff {x : Expectations} {options : Options} {resolver : KeyResolver}
    {credential binding : Token} :
    checkBinding x options resolver credential binding = .ok () ↔
      Binds x options resolver credential binding := by
  simp only [checkBinding, seq_eq_ok, rejectAt_eq_ok_iff, checkType_eq_ok_iff,
    checkSignature_eq_ok_iff, checkAudience_eq_ok_iff, checkNonce_eq_ok_iff, checkSdHash_eq_ok_iff]
  constructor
  · rintro ⟨hType, hSigned, hIssued, hAudience, hNonce, hSdHash⟩
    exact ⟨hType, hSigned, hIssued, hAudience, hNonce, hSdHash⟩
  · intro h
    exact ⟨h.type, h.signed, h.issued, h.audience, h.nonce, h.sdHash⟩

/-- A credential is bound to its holder: by a Key Binding JWT, or not at all where that is not
required. -/
def Bound (x : Expectations) (options : Options) (resolver : KeyResolver) (credential : Token) : Prop :=
  (credential.keyBinding = none ∧ options.requireHolderBinding = false) ∨
    ∃ text binding, credential.keyBinding = some text ∧ Token.ofJws text = .ok binding ∧
      Binds x options resolver credential binding

/-- **Holder binding**: a credential passes when it is bound, or need not be. -/
theorem verify_eq_ok_iff {x : Expectations} {options : Options} {resolver : KeyResolver}
    {credential : Token} :
    verify x options resolver credential = .ok () ↔ Bound x options resolver credential := by
  unfold verify Bound
  cases credential.keyBinding with
  -- without a Key Binding JWT the credential is bound by none
  | none => cases options.requireHolderBinding <;> simp
  | some text =>
    cases hBinding : Token.ofJws text with
    | error e => simp [hBinding]
    | ok binding => simp [hBinding, checkBinding_eq_ok_iff]

end HolderBinding

end PresentationVerifier
