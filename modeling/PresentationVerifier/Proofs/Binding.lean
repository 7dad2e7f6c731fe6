import PresentationVerifier.Proofs.Grammar

/-!
# The checks of a Key Binding JWT

`HolderBinding.bindingDemands` is the row of demands on a Key Binding JWT, each said in terms of the
members of its header and its payload, with the error where it is not met. An option takes demands out
of the row, and so does an expectation that is not there; nothing else does.

Each single check is decided by its part of the row, and the whole check by the row
(`HolderBinding.verify_decided`). What a Key Binding JWT has in common with other tokens comes first: points
in time, audiences, the key with the signature (`keyDemands`) and the hash algorithm that a payload names.
-/

namespace PresentationVerifier

/-! ## Claims -/

namespace Claims

/-- A claim gives a point in time. -/
def HasDate (payload : Json.Object) (claim : String) (t : Int64) : Prop :=
  ∃ n : Json.Number, payload.get? claim = some (.number n) ∧ n.toSeconds? = some t

/-- A claim gives a point in time, or it is absent or `null`. -/
def MayDate (payload : Json.Object) (claim : String) : Prop :=
  payload.get? claim = none ∨ payload.get? claim = some .null ∨ ∃ t, HasDate payload claim t

/-- What is demanded of a claim that gives a point in time. -/
def dateDemands (payload : Json.Object) (claim : String) (ok : Int64 → Prop) (reason : Reason) :
    List (Demand Reason) :=
  [⟨MayDate payload claim, .malformedClaim claim⟩, ⟨∀ t, HasDate payload claim t → ok t, reason⟩]

/-- A date is read from a claim that gives a point in time, and from one that is absent or `null` none is. -/
theorem numericDate_eq_ok_iff {payload : Json.Object} {claim : String} {date : Option Int64} :
    numericDate payload claim = .ok date ↔
      (date = none ∧ (payload.get? claim = none ∨ payload.get? claim = some .null)) ∨
        ∃ t, date = some t ∧ HasDate payload claim t := by
  unfold HasDate numericDate
  cases payload.get? claim with
  | none => simp [eq_comm]
  | some v =>
    cases v with
    | number n =>
      -- a number gives a point in time, or is out of range
      cases hSeconds : n.toSeconds? with
      | none => simp [hSeconds]
      | some t => simp [hSeconds, eq_comm]
    -- `null` gives no date, and the others cannot be read as one
    | null | bool b | string s | array items | object members => simp [eq_comm]

/-- A claim gives the point in time that is read from it. -/
theorem hasDate_iff {payload : Json.Object} {claim : String} {t : Int64} :
    HasDate payload claim t ↔ numericDate payload claim = .ok (some t) := by
  rw [numericDate_eq_ok_iff]
  simp

/-- A claim may be read as a date exactly when the reading does not fail. -/
theorem mayDate_iff {payload : Json.Object} {claim : String} :
    MayDate payload claim ↔ ∃ date, numericDate payload claim = .ok date := by
  simp only [numericDate_eq_ok_iff, exists_or, MayDate, ← or_assoc]
  -- the two ways to give no date are the same on both sides; what is left is the date
  refine or_congr (by simp) ?_
  rw [exists_comm]
  simp

/-- A claim that is not read as a date is malformed. -/
theorem error_of_numericDate {payload : Json.Object} {claim : String} {reason : Reason}
    (h : numericDate payload claim = .error reason) : reason = .malformedClaim claim := by
  unfold numericDate at h
  split at h
  · cases h
  · cases h
  · split at h
    -- a number that is in range is no error
    · cases h
    · exact (Except.error.inj h).symm
  · exact (Except.error.inj h).symm

/-- A point in time that is compared is read first. -/
theorem compare_date_decided {payload : Json.Object} {claim : String} (wrong : Int64 → Prop)
    [DecidablePred wrong] (reason : Reason) :
    Decides (dateDemands payload claim (fun t => ¬wrong t) reason)
      (numericDate payload claim >>= fun date =>
        match date with
        | some t => if wrong t then .error reason else .ok ()
        | none => .ok ()) := by
  cases hDate : numericDate payload claim with
  | error e =>
    obtain rfl := error_of_numericDate hDate
    -- it cannot be read, and that is the first demand
    refine .cons_of_unmet (fun hMay => ?_) rfl
    obtain ⟨date, hOk⟩ := mayDate_iff.mp hMay
    rw [hDate] at hOk
    cases hOk
  | ok date =>
    refine .cons_of_met (mayDate_iff.mpr ⟨date, hDate⟩) ?_
    cases date with
    | none =>
      -- without a point in time there is nothing to compare
      refine .cons_of_met (fun t ht => ?_) ⟨(), rfl⟩
      rw [hasDate_iff, hDate] at ht
      cases ht
    | some t =>
      -- there is one date, and the second demand is on that
      have hOnly : ∀ t', HasDate payload claim t' ↔ t' = t := by
        intro t'
        rw [hasDate_iff, hDate, Except.ok.injEq, Option.some.injEq, eq_comm]
      by_cases hWrong : wrong t
      · simp only [bind, Except.bind, if_pos hWrong]
        exact .cons_of_unmet (fun hAll => hAll t ((hOnly t).mpr rfl) hWrong) rfl
      · simp only [bind, Except.bind, if_neg hWrong]
        refine .cons_of_met (fun t' ht' => ?_) ⟨(), rfl⟩
        rw [(hOnly t').mp ht']
        exact hWrong

/-- The time of issue is decided by being read and by being compared with now. -/
theorem checkIssuedAt_decided (payload : Json.Object) (clock : Clock) :
    Decides
      (dateDemands payload "iat" (fun iat => iat ≤ saturatingAdd clock.now clock.skew) .issuedInFuture)
      (checkIssuedAt payload clock) := by
  simp only [← Int64.not_lt]
  exact compare_date_decided _ .issuedInFuture

/-- An audience claim is a string, or an array of strings. -/
def IsAudience (aud : Json) : Prop :=
  (∃ s, aud = .string s) ∨ ∃ names : List String, aud = .array (names.map .string)

/-- An audience claim is what audiences are read from. -/
theorem isAudience_iff {aud : Json} : IsAudience aud ↔ ∃ names, audiences? aud = some names := by
  cases aud with
  | string s => simp [IsAudience, audiences?]
  | array items => simp [IsAudience, audiences?, Json.asArrayOf?]
  | null | bool b | number n | object members => simp [IsAudience, audiences?, Json.asArrayOf?]

/-- An audience claim that is there is read before it is compared. -/
theorem audience_decided (aud : Json) (expected : String) :
    Decides
      [⟨IsAudience aud, Reason.malformedClaim "aud"⟩,
        ⟨Names aud expected, .audienceMismatch expected aud.compact⟩]
      (match audiences? aud with
        | none => Except.error (Reason.malformedClaim "aud")
        | some names =>
          if names.contains expected then .ok ()
          else .error (.audienceMismatch expected aud.compact)) := by
  rw [isAudience_iff, names_iff]
  cases audiences? aud with
  -- it is of another form
  | none => exact .cons_of_unmet (by simp) rfl
  | some names =>
    refine .cons_of_met ⟨names, rfl⟩ ?_
    simpa using decides_ite (expected ∈ names) (Reason.audienceMismatch expected aud.compact)

end Claims

/-! ## Signatures -/

/-- What is demanded of a signature, whose key is resolved first. -/
def keyDemands (step : Step) (purpose : String) (key : Except KeyError PublicKey) (t : Token) :
    List (Demand Error) :=
  [⟨∃ k, key = .ok k, .failed step ("unable to resolve " ++ purpose ++ " key")⟩,
    ⟨∃ name, t.header.get? "alg" = some (.string name),
      .failed step "'alg' was missing from jwt headers"⟩,
    ⟨SignedBy key t, .failed step "signature could not be verified"⟩]

/-- A signature is decided by the key, by the algorithm being there, and by the signature itself. -/
theorem verifySignature_decided (step : Step) (purpose : String) (key : Except KeyError PublicKey)
    (t : Token) : Decides (keyDemands step purpose key t) (verifySignature step purpose key t) := by
  unfold keyDemands verifySignature
  simp only [← Token.algorithm?_eq_some_iff]
  cases key with
  -- there is no key, which is the first demand
  | error e => exact .cons_of_unmet (by simp) rfl
  | ok k =>
    refine .cons_of_met ⟨k, rfl⟩ ?_
    -- with a key, to be signed is what the key verifies
    have hSigned : SignedBy (.ok k) t ↔ k.verifyToken t = .ok () := by
      simp only [SignedBy, Except.ok.injEq, exists_eq_left', verifyToken_eq_ok_iff]
    rw [hSigned]
    dsimp only [PublicKey.verifyToken]
    cases t.algorithm? with
    -- the header has no algorithm, which is told apart from a wrong signature
    | none => exact .cons_of_unmet (by simp) rfl
    | some algorithm =>
      -- whatever the name is, a wrong one is told like a wrong signature
      refine .cons_of_met ⟨algorithm, rfl⟩ ?_
      dsimp only
      cases k.verify algorithm (Encoding.utf8Bytes t.signingInput) t.signature with
      | ok _ => exact .cons_of_met rfl ⟨(), rfl⟩
      | error cause => exact .cons_of_unmet (fun h => by cases h) rfl

/-! ## The hash algorithm -/

/-- The payload names a supported hash algorithm. -/
def NamesAlgorithm (payload : Json.Object) (algorithm : HashAlgorithm) : Prop :=
  ∃ name, payload.get? "_sd_alg" = some (.string name) ∧ HashAlgorithm.ofName? name = some algorithm

/-- No algorithm is found exactly when no claim names one. -/
theorem sdAlgorithm_eq_none_iff {payload : Json.Object} :
    sdAlgorithm payload = .ok none ↔ payload.get? "_sd_alg" = none := by
  unfold sdAlgorithm
  cases payload.get? "_sd_alg" with
  | none => simp
  | some v =>
    cases v with
    | string name => cases hName : HashAlgorithm.ofName? name <;> simp [hName]
    | null | bool b | number n | array items | object members => simp

/-- The algorithm that is found is the one that the claim names. -/
theorem sdAlgorithm_eq_some_iff {payload : Json.Object} {algorithm : HashAlgorithm} :
    sdAlgorithm payload = .ok (some algorithm) ↔ NamesAlgorithm payload algorithm := by
  unfold sdAlgorithm NamesAlgorithm
  cases payload.get? "_sd_alg" with
  | none => simp
  | some v =>
    cases v with
    -- a name finds an algorithm or none
    | string name => cases hName : HashAlgorithm.ofName? name <;> simp [hName]
    | null | bool b | number n | array items | object members => simp

/-! ## The single checks -/

namespace HolderBinding

/-- What is demanded of the type: a string is the type of a Key Binding JWT. -/
def typeDemands (binding : Token) : List (Demand Reason) :=
  [⟨∀ typ, binding.header.get? "typ" = some (.string typ) → typ = "kb+jwt", .malformedClaim "typ"⟩]

/-- What is demanded of the signature. -/
def signatureDemands (resolver : KeyResolver) (credential binding : Token) : List (Demand Error) :=
  [⟨∃ key, resolver.boundKey credential = .ok key,
      .failed .holderBinding "unable to resolve holder binding key"⟩,
    ⟨∃ name, binding.header.get? "alg" = some (.string name),
      .failed .holderBinding "'alg' was missing from jwt headers"⟩,
    ⟨SignedBy (resolver.boundKey credential) binding,
      .failed .holderBinding "signature could not be verified"⟩]

/-- The compact text of the audience claim. -/
def audienceText (claims : Json.Object) : String :=
  match claims.get? "aud" with
  | none => "null"
  | some aud => aud.compact

/-- What is demanded of the audience, where one is expected. -/
def audienceDemands (claims : Json.Object) (clientId : String) : List (Demand Reason) :=
  [⟨∃ aud, claims.get? "aud" = some aud, .audienceMismatch clientId (audienceText claims)⟩,
    ⟨∀ aud, claims.get? "aud" = some aud → Claims.IsAudience aud, .malformedClaim "aud"⟩,
    ⟨∀ aud, claims.get? "aud" = some aud → Claims.Names aud clientId,
      .audienceMismatch clientId (audienceText claims)⟩]

/-- What is demanded of the nonce, where the session has one. -/
def nonceDemands (claims : Json.Object) (nonce : String) : List (Demand Reason) :=
  [⟨claims.get? "nonce" = some (.string nonce), .nonceMismatch⟩]

/-- The hash algorithm of a payload: the one that it names, or the usual one if it names none. -/
def HashesWith (payload : Json.Object) (algorithm : HashAlgorithm) : Prop :=
  (payload.get? "_sd_alg" = none ∧ algorithm = .sha256) ∨
    ∃ name, payload.get? "_sd_alg" = some (.string name) ∧ HashAlgorithm.ofName? name = some algorithm

/-- The text of the algorithm claim in an error: a string as it is, any other value as JSON. -/
def algorithmText (payload : Json.Object) : String :=
  match payload.get? "_sd_alg" with
  | none => ""
  | some (.string name) => name
  | some v => v.compact

/-- What is demanded of the digest, where the claim is there. -/
def sdHashDemands (credential : Token) (claims : Json.Object) : List (Demand Error) :=
  [⟨∀ v, claims.get? "sd_hash" = some v → ∃ digest, v = .string digest,
      .rejected .holderBinding (.malformedClaim "sd_hash")⟩,
    ⟨∀ v, claims.get? "sd_hash" = some v → ∃ algorithm, HashesWith credential.payload algorithm,
      .unsupportedSdAlg (algorithmText credential.payload)⟩,
    ⟨∀ v, claims.get? "sd_hash" = some v → ∀ algorithm, HashesWith credential.payload algorithm →
        v = .string (algorithm.hash (Encoding.utf8Bytes credential.sdJwt)),
      .rejected .holderBinding .sdHashMismatch⟩]

/-- The type is decided by what is demanded of it. -/
theorem checkType_decided (binding : Token) : Decides (typeDemands binding) (checkType binding) := by
  unfold typeDemands checkType type
  simp only [← Token.type?_eq_some_iff]
  cases binding.type? with
  -- no string, no demand
  | none => exact .cons_of_met (fun typ h => by cases h) ⟨(), rfl⟩
  | some typ => simpa using decides_ite (typ = "kb+jwt") (Reason.malformedClaim "typ")

/-- The signature is decided as that of any token, unless it is left out. -/
theorem checkSignature_decided (options : Options) (resolver : KeyResolver)
    (credential binding : Token) :
    Decides (unlessSkipped options.skipVcSignatureChecks (signatureDemands resolver credential binding))
      (checkSignature options resolver credential binding) := by
  refine Decides.unless ?_
  exact verifySignature_decided .holderBinding "holder binding" (resolver.boundKey credential) binding

/-- The audience is decided by being there, by its form and by whom it names. -/
theorem checkAudience_decided (options : Options) (x : Expectations) (claims : Json.Object) :
    Decides
      (unlessSkipped options.skipAudienceCheck (whereExpected x.clientId (audienceDemands claims)))
      (checkAudience options x claims) := by
  refine Decides.unless ?_
  cases x.clientId with
  -- none is expected
  | none => exact ⟨(), rfl⟩
  | some clientId =>
    unfold whereExpected audienceDemands audienceText Json.Object.contains Claims.checkAudience
    cases claims.get? "aud" with
    -- unlike that of a presentation, the audience has to be there
    | none => exact .cons_of_unmet (by simp) rfl
    | some aud =>
      refine .cons_of_met ⟨aud, rfl⟩ ?_
      simp only [Option.some.injEq, forall_eq']
      exact Claims.audience_decided aud clientId

/-- The nonce is decided by being the one of the session. -/
theorem checkNonce_decided (options : Options) (x : Expectations) (claims : Json.Object) :
    Decides (unlessSkipped options.skipNonceCheck (whereExpected x.nonce (nonceDemands claims)))
      (checkNonce options x claims) := by
  refine Decides.unless ?_
  cases x.nonce with
  | none => exact ⟨(), rfl⟩
  | some nonce =>
    have hNonce : (claims.get? "nonce").bind Json.asString? = some nonce ↔
        claims.get? "nonce" = some (.string nonce) := by
      simp only [Option.bind_eq_some_iff, Json.asString?_eq_some_iff, exists_eq_right]
    simp only [whereExpected, nonceDemands, ← hNonce]
    exact decides_ite _ _

/-- The algorithm of a payload is the one that is found for it, and there is no other. -/
theorem hashesWith_iff {payload : Json.Object} {algorithm : HashAlgorithm} :
    HashesWith payload algorithm ↔
      ∃ named, sdAlgorithm payload = .ok named ∧ named.getD .default = algorithm := by
  constructor
  -- no name stands for the usual algorithm
  · rintro (⟨hAbsent, rfl⟩ | hNames)
    · exact ⟨none, sdAlgorithm_eq_none_iff.mpr hAbsent, rfl⟩
    · exact ⟨some algorithm, sdAlgorithm_eq_some_iff.mpr hNames, rfl⟩
  · rintro ⟨named, hNamed, rfl⟩
    cases named with
    | none => exact Or.inl ⟨sdAlgorithm_eq_none_iff.mp hNamed, rfl⟩
    | some algorithm => exact Or.inr (sdAlgorithm_eq_some_iff.mp hNamed)

/-- An algorithm that is not found is told by the text of the claim. -/
theorem unsupported_of_sdAlgorithm {payload : Json.Object} {e : Error}
    (h : sdAlgorithm payload = .error e) : e = .unsupportedSdAlg (algorithmText payload) := by
  unfold sdAlgorithm at h
  unfold algorithmText
  cases hNamed : payload.get? "_sd_alg" with
  | none => simp [hNamed] at h
  | some v =>
    cases v with
    | string name =>
      -- a name that is a string is told as it is
      cases hName : HashAlgorithm.ofName? name with
      | none => simpa [hNamed, hName, eq_comm] using h
      | some named => simp [hNamed, hName] at h
    -- any other value is told as JSON
    | null | bool b | number n | array items | object members =>
      simpa [hNamed, eq_comm] using h

/-- The digest is decided by its form, by the algorithm and by its value. -/
theorem checkSdHash_decided (credential : Token) (claims : Json.Object) :
    Decides (sdHashDemands credential claims) (checkSdHash credential claims) := by
  unfold sdHashDemands checkSdHash
  cases claims.get? "sd_hash" with
  | none =>
    -- all three demands are on a claim that is there
    refine .cons_of_met (fun v h => by cases h) ?_
    refine .cons_of_met (fun v h => by cases h) ?_
    exact .cons_of_met (fun v h => by cases h) ⟨(), rfl⟩
  | some v =>
    simp only [Option.some.injEq, forall_eq']
    cases v with
    -- a digest that is no string is malformed
    | null | bool b | number n | array items | object members =>
      exact .cons_of_unmet (by simp) rfl
    | string sdHash =>
      refine .cons_of_met ⟨sdHash, rfl⟩ ?_
      cases hNamed : sdAlgorithm credential.payload with
      -- the algorithm has no known name, so there is no digest to compare
      | error e =>
        obtain rfl := unsupported_of_sdAlgorithm hNamed
        refine .cons_of_unmet ?_ rfl
        rintro ⟨algorithm, hAlgorithm⟩
        obtain ⟨named, hOk, -⟩ := hashesWith_iff.mp hAlgorithm
        rw [hNamed] at hOk
        cases hOk
      | ok named =>
        -- there is one algorithm, and the last demand is on its digest
        have hOnly : ∀ algorithm, HashesWith credential.payload algorithm ↔
            named.getD .default = algorithm := by
          intro algorithm
          simp only [hashesWith_iff, hNamed, Except.ok.injEq, exists_eq_left']
        refine .cons_of_met ⟨_, (hOnly _).mpr rfl⟩ ?_
        simp only [hOnly, forall_eq', Json.string.injEq, eq_comm (a := sdHash)]
        exact decides_ite _ _

/-! ## All checks -/

/-- What is demanded of a Key Binding JWT, in this order. -/
def bindingDemands (x : Expectations) (options : Options) (resolver : KeyResolver)
    (credential binding : Token) : List (Demand Error) :=
  let rejected := List.map (Demand.rejectedAt .holderBinding)
  rejected (typeDemands binding) ++
    (unlessSkipped options.skipVcSignatureChecks (signatureDemands resolver credential binding) ++
    (rejected (Claims.dateDemands binding.payload "iat"
        (fun iat => iat ≤ saturatingAdd x.clock.now x.clock.skew) .issuedInFuture) ++
    (rejected (unlessSkipped options.skipAudienceCheck
        (whereExpected x.clientId (audienceDemands binding.payload))) ++
    (rejected (unlessSkipped options.skipNonceCheck
        (whereExpected x.nonce (nonceDemands binding.payload))) ++
    sdHashDemands credential binding.payload))))

/-- The row of demands is put together in the order of the checks. -/
theorem checkBinding_decided (x : Expectations) (options : Options) (resolver : KeyResolver)
    (credential binding : Token) :
    Decides (bindingDemands x options resolver credential binding)
      (checkBinding x options resolver credential binding) := by
  -- type, signature, time of issue, audience and nonce, and the digest at the end
  refine Decides.bind (.rejectAt _ (checkType_decided _)) fun _ _ => ?_
  refine Decides.bind (checkSignature_decided _ _ _ _) fun _ _ => ?_
  refine Decides.bind (.rejectAt _ (Claims.checkIssuedAt_decided _ _)) fun _ _ => ?_
  refine Decides.bind (.rejectAt _ (checkAudience_decided _ _ _)) fun _ _ => ?_
  refine Decides.bind (.rejectAt _ (checkNonce_decided _ _ _)) fun _ _ => ?_
  exact checkSdHash_decided _ _

/-- **Holder binding is decided in order**: without a Key Binding JWT only by whether one is required, and
with one by whether it is a signed token, and then by the row of demands on it. -/
theorem verify_decided (x : Expectations) (options : Options) (resolver : KeyResolver)
    (credential : Token) :
    match credential.keyBinding with
    | none =>
      Decides [⟨options.requireHolderBinding = false, .rejected .holderBinding .missingHolderBinding⟩]
        (verify x options resolver credential)
    | some text =>
      match Token.ofJws text with
      | .error e => verify x options resolver credential = .error (.malformedToken e)
      | .ok binding =>
        Decides (bindingDemands x options resolver credential binding)
          (verify x options resolver credential) := by
  unfold verify
  cases credential.keyBinding with
  | none =>
    cases options.requireHolderBinding with
    | false => exact .cons_of_met rfl ⟨(), rfl⟩
    | true => exact .cons_of_unmet (by simp) rfl
  | some text =>
    dsimp only
    cases hRead : Token.ofJws text with
    -- a Key Binding JWT that is no token, which is no rejection
    | error e =>
      dsimp only
      rw [Token.malformed_of_ofJws hRead]
    | ok binding => exact checkBinding_decided x options resolver credential binding

/-- A Key Binding JWT with the digest of `e30.e30.AQ~` as its `sd_hash`. -/
def sampleBinding : String :=
  "eyJ0eXAiOiJrYitqd3QifQ.eyJzZF9oYXNoIjoieE5SdHdHcTBqZk5LU1FGal9MTm1NQ3NhUGdQclZSdkgtNmlmd3NncVllSSJ9.AQ"

/-- All demands on it are met behind the text of its digest; behind another text the last one is not. -/
example :
    let presented (front : String) : Token :=
      ⟨front ++ sampleBinding, "e30.e30.AQ", [], [], [1], [], some sampleBinding, false⟩
    let result (front : String) :=
      verify ⟨none, none, ⟨0, 0⟩⟩ { skipVcSignatureChecks := true, requireHolderBinding := true }
        { holderKey := fun _ => .error (.unresolved "no key") } (presented front)
    result "e30.e30.AQ~" = .ok () ∧
      result "e30.e30.AQ~e30~" = .error (.rejected .holderBinding .sdHashMismatch) := by
  decide +kernel

end HolderBinding

end PresentationVerifier
