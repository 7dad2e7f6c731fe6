import PresentationVerifier.Proofs.Soundness

/-!
# Settings that ask for less

A verifier that asks for less accepts no less: if a response passes, it also passes with checks left out,
expectations dropped, limits raised or more leeway given, and what is found in it is the same. The relation
`Relaxes` compares settings; a clock with more leeway and a context are compared by it too.

Of each check it is shown that it still passes, then of each stage that it still lets a presentation
through and leaves it the same (`SoloStage.Relaxes`), and from that of the whole journey
(`journey_relaxed`). The leeway may be negative or at the end of its range: a sum that is cut off at the
end of the range still grows with its terms (`saturatingAdd_le`).

Main results:

* `PresentationIntact.relaxed`, `CredentialIntact.relaxed`, `HolderBinding.Bound.relaxed`: the checks.
* `Commitments.collect_of_le`, `Token.unwrap_of_le`: the limits.
* `process_relaxed`: the run.
-/

namespace PresentationVerifier

/-! ## Comparing settings -/

/-- An expectation is the same, or there is none any more. -/
def KeptOrDropped (lax strict : Option String) : Prop :=
  lax = strict ∨ lax = none

/-- What is expected after dropping expectations was expected before. -/
theorem KeptOrDropped.expected {lax strict : Option String} (h : KeptOrDropped lax strict) {e : String}
    (hLax : lax = some e) : strict = some e := by
  rcases h with rfl | rfl
  · exact hLax
  · cases hLax

/-- Every check that is left out under the strict options is left out under the lax ones. -/
structure Options.Relaxes (lax strict : Options) : Prop where
  state : strict.skipStateCheck = true → lax.skipStateCheck = true
  vpSignature : strict.skipVpSignatureChecks = true → lax.skipVpSignatureChecks = true
  vcSignature : strict.skipVcSignatureChecks = true → lax.skipVcSignatureChecks = true
  audience : strict.skipAudienceCheck = true → lax.skipAudienceCheck = true
  nonce : strict.skipNonceCheck = true → lax.skipNonceCheck = true
  holderBinding : lax.requireHolderBinding = true → strict.requireHolderBinding = true

/-- What is expected is expected under the strict settings, and no limit is lower. -/
structure Config.Relaxes (lax strict : Config) : Prop where
  clientId : KeptOrDropped lax.clientId strict.clientId
  vpIssuer : KeptOrDropped lax.expectedVpIssuer strict.expectedVpIssuer
  vcIssuer : KeptOrDropped lax.expectedVcIssuer strict.expectedVcIssuer
  vct : KeptOrDropped lax.expectedVct strict.expectedVct
  clockSkew : strict.clockSkew ≤ lax.clockSkew
  claimDepth : strict.maxClaimDepth ≤ lax.maxClaimDepth
  jweNesting : strict.maxJweNesting ≤ lax.maxJweNesting

/-- The session expects the same state, the collaborators are the same, and the rest asks for no more. -/
structure Context.Relaxes (lax strict : Context) : Prop where
  config : lax.config.Relaxes strict.config
  nonce : KeptOrDropped lax.nonce strict.nonce
  expectedState : lax.expectedState = strict.expectedState
  resolver : lax.resolver = strict.resolver
  decrypter : lax.decrypter = strict.decrypter

/-- A check that is made under the lax options is made under the strict ones. -/
theorem made_of_made {strict lax : Bool} (h : strict = true → lax = true) (hLax : lax = false) :
    strict = false := by
  rw [Bool.eq_false_iff]
  intro hStrict
  rw [h hStrict] at hLax
  cases hLax

/-- A check that may be left out passes under lax options, if it passes there when it is made. -/
theorem unless_relaxed {laxSkips strictSkips : Bool} {lax strict : Except Error Unit}
    (hSkips : strictSkips = true → laxSkips = true) (hCheck : strict = .ok () → lax = .ok ())
    (h : (if strictSkips then .ok () else strict) = .ok ()) :
    (if laxSkips then .ok () else lax) = .ok () := by
  by_cases hLax : laxSkips = true
  · rw [if_pos hLax]
  · have hMade : strictSkips = false := made_of_made hSkips (Bool.eq_false_iff.mpr hLax)
    rw [hMade, if_neg Bool.false_ne_true] at h
    rw [if_neg hLax]
    exact hCheck h

/-! ## Times -/

/-- A sum that is cut off at the ends of its range does not fall when a term grows. -/
theorem saturatingAdd_le {a b : Int64} (h : a ≤ b) (t : Int64) :
    saturatingAdd t a ≤ saturatingAdd t b := by
  rw [Int64.le_iff_toInt_le] at h ⊢
  -- cutting off keeps the order, so this is a matter of integers
  rw [saturatingAdd, saturatingAdd, toInt_saturate, toInt_saturate]
  omega

/-- The time is the same, and there is no less leeway. -/
structure Clock.Relaxes (lax strict : Clock) : Prop where
  now : lax.now = strict.now
  skew : strict.skew ≤ lax.skew

/-- The latest point in time that is not in the future is no earlier with more leeway. -/
theorem Clock.Relaxes.latest_le {lax strict : Clock} (h : lax.Relaxes strict) :
    saturatingAdd strict.now strict.skew ≤ saturatingAdd lax.now lax.skew := by
  rw [h.now]
  exact saturatingAdd_le h.skew strict.now

namespace Claims

section Dates

variable {lax strict : Clock} {payload : Json.Object}

/-- With more leeway nothing expires sooner. -/
theorem checkExpiry_relaxed (hClock : lax.Relaxes strict) (h : checkExpiry payload strict = .ok ()) :
    checkExpiry payload lax = .ok () := by
  rw [checkExpiry_eq_ok_iff] at h ⊢
  refine h.imp fun exp hExp => ?_
  -- the leeway is added to the claim here, not to the time
  rw [hClock.now]
  exact Int64.le_trans hExp (saturatingAdd_le hClock.skew exp)

/-- With more leeway nothing becomes valid later. -/
theorem checkStart_relaxed (hClock : lax.Relaxes strict) (h : checkStart payload strict = .ok ()) :
    checkStart payload lax = .ok () := by
  rw [checkStart_eq_ok_iff] at h ⊢
  exact h.imp fun _ hNbf => Int64.le_trans hNbf hClock.latest_le

/-- With more leeway less is issued in the future. -/
theorem checkIssuedAt_relaxed (hClock : lax.Relaxes strict)
    (h : checkIssuedAt payload strict = .ok ()) : checkIssuedAt payload lax = .ok () := by
  rw [checkIssuedAt_eq_ok_iff] at h ⊢
  exact h.imp fun _ hIat => Int64.le_trans hIat hClock.latest_le

/-- The three points in time pass together. -/
theorem checkTemporal_relaxed (hClock : lax.Relaxes strict)
    (h : checkTemporal payload strict = .ok ()) : checkTemporal payload lax = .ok () := by
  simp only [checkTemporal, seq_eq_ok] at h ⊢
  obtain ⟨hExpiry, hStart, hIssued⟩ := h
  exact ⟨checkExpiry_relaxed hClock hExpiry, checkStart_relaxed hClock hStart,
    checkIssuedAt_relaxed hClock hIssued⟩

end Dates

/-! ## Expectations -/

/-- A claim still matches when its expectation is dropped. -/
theorem Matches.relaxed {payload : Json.Object} {claim : String} {lax strict : Option String}
    (hExpected : KeptOrDropped lax strict) (h : Matches payload claim strict) :
    Matches payload claim lax := by
  intro v hv hNull
  -- the claim has to be a string, whether or not a certain one is expected
  obtain ⟨found, hFound, hIs⟩ := h v hv hNull
  -- a remaining expectation is the one from before
  exact ⟨found, hFound, fun e he => hIs e (hExpected.expected he)⟩

/-- An audience still matches when its expectation is dropped. -/
theorem AudienceMatches.relaxed {payload : Json.Object} {lax strict : Option String}
    (hExpected : KeptOrDropped lax strict) (h : AudienceMatches payload strict) :
    AudienceMatches payload lax :=
  fun aud e hAud he => h aud e hAud (hExpected.expected he)

end Claims

/-! ## Integrity and holder binding -/

section Checks

variable {lax strict : Config} {laxOptions strictOptions : Options} {laxClock strictClock : Clock}
  {resolver : KeyResolver} {t : Token}

/-- A presentation stays intact under settings that ask for less. -/
theorem PresentationIntact.relaxed (hConfig : lax.Relaxes strict)
    (hOptions : laxOptions.Relaxes strictOptions) (hClock : laxClock.Relaxes strictClock)
    (h : PresentationIntact strict strictOptions strictClock resolver t) :
    PresentationIntact lax laxOptions laxClock resolver t where
  signed := h.signed
  timely := Claims.checkTemporal_relaxed hClock h.timely
  issuer := h.issuer.relaxed hConfig.vpIssuer
  -- an audience that is looked at now was looked at before
  audience hMade :=
    (h.audience (made_of_made hOptions.audience hMade)).relaxed hConfig.clientId

/-- A credential stays intact under settings that ask for less. -/
theorem CredentialIntact.relaxed (hConfig : lax.Relaxes strict)
    (hClock : laxClock.Relaxes strictClock) (h : CredentialIntact strict strictClock resolver t) :
    CredentialIntact lax laxClock resolver t where
  signed := h.signed
  timely := Claims.checkTemporal_relaxed hClock h.timely
  issuer := h.issuer.relaxed hConfig.vcIssuer
  type := h.type.relaxed hConfig.vct

namespace HolderBinding

/-- Of a Key Binding JWT no more is expected, and with no less leeway. -/
structure Expectations.Relaxes (lax strict : Expectations) : Prop where
  clientId : KeptOrDropped lax.clientId strict.clientId
  nonce : KeptOrDropped lax.nonce strict.nonce
  clock : lax.clock.Relaxes strict.clock

variable {x y : Expectations}

/-- A Key Binding JWT still binds when less is expected of it. -/
theorem Binds.relaxed (hExpected : x.Relaxes y) (hOptions : laxOptions.Relaxes strictOptions)
    {binding : Token} (h : Binds y strictOptions resolver t binding) :
    Binds x laxOptions resolver t binding where
  type := h.type
  signed hMade := h.signed (made_of_made hOptions.vcSignature hMade)
  issued := Claims.checkIssuedAt_relaxed hExpected.clock h.issued
  -- of the audience and the nonce both the option and the expectation may go
  audience hMade e he :=
    h.audience (made_of_made hOptions.audience hMade) e (hExpected.clientId.expected he)
  nonce hMade n hn := h.nonce (made_of_made hOptions.nonce hMade) n (hExpected.nonce.expected hn)
  sdHash := h.sdHash

/-- A credential that is bound stays so, with its Key Binding JWT or without one. -/
theorem Bound.relaxed (hExpected : x.Relaxes y) (hOptions : laxOptions.Relaxes strictOptions)
    (h : Bound y strictOptions resolver t) : Bound x laxOptions resolver t := by
  rcases h with ⟨hNone, hRequired⟩ | ⟨text, binding, hText, hRead, hBinds⟩
  -- without a Key Binding JWT none was required, and none is now
  · exact Or.inl ⟨hNone, made_of_made hOptions.holderBinding hRequired⟩
  · exact Or.inr ⟨text, binding, hText, hRead, hBinds.relaxed hExpected hOptions⟩

end HolderBinding

end Checks

/-! ## Limits -/

namespace Commitments

variable {limit limit' : Nat}

mutual

/-- A higher limit lets the same walk through a value go to the same end. -/
theorem ofValue_of_le (hLimit : limit ≤ limit') {depth : Nat} {v : Json} {found : List String}
    (h : ofValue limit depth v = some found) : ofValue limit' depth v = some found := by
  rw [ofValue.eq_def] at h ⊢
  -- the limit is only ever compared with the depth, here
  by_cases hDeep : limit < depth
  · rw [if_pos hDeep] at h
    -- the walk did not come to an end, against what is known
    cases h
  · have hNotDeep : ¬limit' < depth := by omega
    rw [if_neg hDeep] at h
    rw [if_neg hNotDeep]
    cases v with
    | object members => exact ofMembers_of_le hLimit h
    | array items => exact ofItems_of_le hLimit h
    | null | bool b | number n | string s => exact h

/-- The same of the items of an array. -/
theorem ofItems_of_le (hLimit : limit ≤ limit') {depth : Nat} {items : List Json}
    {found : List String} (h : ofItems limit depth items = some found) :
    ofItems limit' depth items = some found := by
  match items with
  | [] => simpa [ofItems] using h
  | v :: rest =>
    simp only [ofItems, Option.bind_eq_some_iff, Option.map_eq_some_iff] at h ⊢
    obtain ⟨here, hHere, there, hThere, hFound⟩ := h
    exact ⟨here, ofValue_of_le hLimit hHere, there, ofItems_of_le hLimit hThere, hFound⟩

/-- The same of the members of an object. -/
theorem ofMembers_of_le (hLimit : limit ≤ limit') {depth : Nat} {members : Json.Object}
    {found : List String} (h : ofMembers limit depth members = some found) :
    ofMembers limit' depth members = some found := by
  match members with
  | [] => simpa [ofMembers] using h
  | (name, v) :: rest =>
    rw [ofMembers.eq_def] at h ⊢
    simp only [Option.bind_eq_some_iff, Option.map_eq_some_iff] at h ⊢
    obtain ⟨here, hHere, there, hThere, hFound⟩ := h
    refine ⟨here, ?_, there, ofMembers_of_le hLimit hThere, hFound⟩
    -- an array of digests is taken whatever the limit is
    split at hHere
    · exact hHere
    · exact ofValue_of_le hLimit hHere

end

/-- The digests of a payload are the same under a higher limit. -/
theorem collect_of_le (hLimit : limit ≤ limit') {payload : Json.Object} {found : List String}
    (h : collect limit payload = .ok found) : collect limit' payload = .ok found := by
  unfold collect at h ⊢
  cases hWalk : ofMembers limit 0 payload with
  | none => simp [hWalk] at h
  | some digests =>
    rw [hWalk] at h
    rw [ofMembers_of_le hLimit hWalk]
    exact h

end Commitments

/-- Disclosures that pass do so under a higher limit, as the same disclosures. -/
theorem Disclosure.Passes.relaxed {limit limit' : Nat} (hLimit : limit ≤ limit') {t : Token}
    {ds : List Disclosure} (h : Passes limit t ds) : Passes limit' t ds where
  decoded := h.decoded
  distinct := h.distinct
  committed hSome := by
    obtain ⟨algorithm, found, hNamed, hFound, hEach⟩ := h.committed hSome
    exact ⟨algorithm, found, hNamed, Commitments.collect_of_le hLimit hFound, hEach⟩

namespace Token

/-- With more envelopes allowed a token comes out the same. -/
theorem unwrapWithin_of_le {decrypter : Option Decrypter} {limit limit' remaining remaining' : Nat}
    (hMore : remaining ≤ remaining') {text : String} {t : Token}
    (h : (unwrapWithin decrypter limit remaining text).result = .ok t) :
    (unwrapWithin decrypter limit' remaining' text).result = .ok t := by
  -- on the envelopes that are left; the text has to vary with what was in the last one
  induction remaining generalizing remaining' text t with
  | zero =>
    rcases unwrapWithin_eq_ok h with hRead | ⟨_, _, _, _, _, _, hRemaining, _⟩
    · exact unwrapWithin_of_signed hRead _ _ _
    -- no envelope is left to be opened
    · cases hRemaining
  | succ remaining ih =>
    rcases unwrapWithin_eq_ok h with hRead |
      ⟨jwe, decrypt, bytes, inner, rest, t', hRemaining, hRead, rfl, hDecrypt, hText, hInner, rfl⟩
    · exact unwrapWithin_of_signed hRead _ _ _
    · -- one envelope is opened in both, and fewer are left than there may be
      obtain rfl : remaining = rest := Nat.succ.inj hRemaining
      obtain ⟨rest', rfl⟩ : ∃ rest', remaining' = rest' + 1 := ⟨remaining' - 1, by omega⟩
      exact unwrapWithin_of_encrypted hRead hDecrypt hText (ih (by omega) hInner)

/-- A token that comes out of its envelopes does so where more envelopes are allowed. -/
theorem unwrap_of_le {decrypter : Option Decrypter} {limit limit' : Nat} (hLimit : limit ≤ limit')
    {text : String} {t : Token} (h : (unwrap decrypter limit text).result = .ok t) :
    (unwrap decrypter limit' text).result = .ok t :=
  unwrapWithin_of_le hLimit h

end Token

/-! ## Journeys -/

/-- A stage lets through what another stage lets through, and leaves it the same. -/
structure SoloStage.Relaxes (lax strict : SoloStage) : Prop where
  reached : lax.reached = strict.reached
  act : ∀ vp vp', strict.act vp = (vp', none) → lax.act vp = (vp', none)

theorem SoloStage.Relaxes.refl (s : SoloStage) : s.Relaxes s :=
  ⟨rfl, fun _ _ h => h⟩

/-- A stage that only checks relaxes another one when its check does. -/
theorem SoloStage.check_relaxes (reached : Stage) {lax strict : Presentation → Except Error Unit}
    (h : ∀ vp, strict vp = .ok () → lax vp = .ok ()) :
    (check reached lax).Relaxes (check reached strict) := by
  refine ⟨rfl, fun vp vp' hAct => ?_⟩
  simp only [check] at hAct ⊢
  cases hStrict : strict vp with
  -- the strict stage has let the presentation through
  | error e => simp [hStrict] at hAct
  | ok _ =>
    rw [hStrict] at hAct
    rw [h vp hStrict]
    exact hAct

/-- A presentation that gets through a row gets through a relaxed one in the same way. -/
theorem journey_relaxed {lax strict : List SoloStage}
    (hRows : List.Forall₂ SoloStage.Relaxes lax strict) {passed : Stage} {vp : Presentation}
    (h : (journey strict passed vp).error = none) :
    journey lax passed vp = journey strict passed vp := by
  -- on the two rows side by side, from any stage and with any presentation
  induction hRows generalizing passed vp with
  | nil => rfl
  | @cons s s' rest rest' hStage _ ih =>
    cases hAct : s'.act vp with
    | mk vp' e =>
      cases e with
      -- the strict row would have ended here
      | some e =>
        rw [journey_cons_of_some (congrArg Prod.snd hAct)] at h
        cases h
      | none =>
        have hLax := hStage.act vp vp' hAct
        rw [journey_cons_of_none (congrArg Prod.snd hAct), hAct] at h ⊢
        rw [journey_cons_of_none (congrArg Prod.snd hLax), hLax, hStage.reached]
        exact ih h

namespace Run

/-! ## The stages of a run -/

section Stages

variable {response : Response} {lax strict : Context} {laxProcessing strictProcessing : ProcessConfig}
  {laxClock strictClock : Clock}

/-- The state still passes when its check is left out or stays. -/
theorem checkState_relaxed (hContext : lax.Relaxes strict)
    (hOptions : laxProcessing.options.Relaxes strictProcessing.options)
    (h : checkState response strict strictProcessing = .ok ()) :
    checkState response lax laxProcessing = .ok () := by
  rw [checkState_eq_ok_iff] at h ⊢
  intro hMade
  rw [hContext.expectedState]
  exact h (made_of_made hOptions.state hMade)

/-- A presented token is taken out of its envelopes as before. -/
theorem presentOne_relaxed (hContext : lax.Relaxes strict) {v : VpToken} {vp : Presentation}
    (h : presentOne strict v = .ok vp) : presentOne lax v = .ok vp := by
  rw [presentOne_eq_ok_iff] at h ⊢
  obtain ⟨text, t, hText, hUnwrap, hNew⟩ := h
  rw [hContext.decrypter]
  exact ⟨text, t, hText, Token.unwrap_of_le hContext.config.jweNesting hUnwrap, hNew⟩

/-- The check of a presentation still passes, made or left out. -/
theorem checkPresentation_relaxed (hContext : lax.Relaxes strict)
    (hOptions : laxProcessing.options.Relaxes strictProcessing.options)
    (hClock : laxClock.Relaxes strictClock) {vp : Presentation}
    (h : checkPresentation strict strictProcessing strictClock vp = .ok ()) :
    checkPresentation lax laxProcessing laxClock vp = .ok () := by
  refine unless_relaxed hOptions.vpSignature (fun hMade => ?_) h
  rw [verifyPresentation_eq_ok_iff] at hMade ⊢
  rw [hContext.resolver]
  exact hMade.relaxed hContext.config hOptions hClock

/-- The check of a credential still passes, made or left out. -/
theorem checkCredential_relaxed (hContext : lax.Relaxes strict)
    (hOptions : laxProcessing.options.Relaxes strictProcessing.options)
    (hClock : laxClock.Relaxes strictClock) {vc : Credential}
    (h : checkCredential strict strictProcessing strictClock vc = .ok ()) :
    checkCredential lax laxProcessing laxClock vc = .ok () := by
  refine unless_relaxed hOptions.vcSignature (fun hMade => ?_) h
  rw [verifyCredential_eq_ok_iff] at hMade ⊢
  rw [hContext.resolver]
  exact hMade.relaxed hContext.config hClock

/-- The check of holder binding still passes. -/
theorem checkBinding_relaxed (hContext : lax.Relaxes strict)
    (hOptions : laxProcessing.options.Relaxes strictProcessing.options)
    (hClock : laxClock.Relaxes strictClock) {vc : Credential}
    (h : checkBinding strict strictProcessing strictClock vc = .ok ()) :
    checkBinding lax laxProcessing laxClock vc = .ok () := by
  unfold checkBinding at h ⊢
  rw [HolderBinding.verify_eq_ok_iff] at h ⊢
  rw [hContext.resolver]
  exact h.relaxed ⟨hContext.config.clientId, hContext.nonce, hClock⟩ hOptions

/-- A credential gets the same disclosures under a higher limit. -/
theorem discloseIn_relaxed {limit limit' : Nat} (hLimit : limit ≤ limit') {vc vc' : Credential}
    (h : discloseIn limit vc = (vc', none)) : discloseIn limit' vc = (vc', none) := by
  unfold discloseIn at h ⊢
  cases hValidate : Disclosure.validate limit vc.token with
  | error e => simp [hValidate] at h
  | ok ds =>
    rw [hValidate] at h
    have hPasses := (Disclosure.validate_eq_ok_iff.mp hValidate).relaxed hLimit
    rw [Disclosure.validate_eq_ok_iff.mpr hPasses]
    exact h

/-- And so do all credentials of a presentation. -/
theorem discloseAll_relaxed (hContext : lax.Relaxes strict) {vp vp' : Presentation}
    (h : discloseAll strict vp = (vp', none)) : discloseAll lax vp = (vp', none) := by
  unfold discloseAll at h ⊢
  cases hEach : updateEach (discloseIn strict.config.maxClaimDepth) vp.credentials with
  | mk credentials e =>
    rw [hEach] at h
    obtain rfl : e = none := (Prod.mk.inj h).2
    have hSame := updateEach_of_none
      (fun _ _ hOne => discloseIn_relaxed hContext.config.claimDepth hOne) hEach
    rw [hSame]
    exact h

/-- A row of checks that each still pass still passes. -/
theorem firstError_relaxed {α ε : Type} {lax strict : α → Except ε Unit}
    (hEach : ∀ a, strict a = .ok () → lax a = .ok ()) {as : List α}
    (h : firstError strict as = .ok ()) : firstError lax as = .ok () := by
  rw [firstError_eq_ok_iff] at h ⊢
  exact fun a ha => hEach a (h a ha)

/-- Each stage of the lax run relaxes the one of the strict run in its place. -/
theorem soloStages_relaxed (hContext : lax.Relaxes strict)
    (hType : laxProcessing.type = strictProcessing.type)
    (hOptions : laxProcessing.options.Relaxes strictProcessing.options)
    (hClock : laxClock.Relaxes strictClock) (s : Submission) :
    List.Forall₂ SoloStage.Relaxes (soloStages lax laxProcessing laxClock s)
      (soloStages strict strictProcessing strictClock s) := by
  -- stage by stage; extraction and the marks at the end have nothing that could be asked for
  have hExtraction : List.Forall₂ SoloStage.Relaxes (soloExtraction lax laxProcessing laxClock s)
      (soloExtraction strict strictProcessing strictClock s) :=
    .cons (SoloStage.check_relaxes _ fun _ => checkPresentation_relaxed hContext hOptions hClock) <|
      .cons (.refl _) .nil
  have hValidation : List.Forall₂ SoloStage.Relaxes (soloValidation lax laxProcessing laxClock)
      (soloValidation strict strictProcessing strictClock) :=
    .cons (SoloStage.check_relaxes _ fun _ => firstError_relaxed fun _ =>
        checkCredential_relaxed hContext hOptions hClock) <|
      .cons ⟨rfl, fun _ _ => discloseAll_relaxed hContext⟩ <|
        .cons (SoloStage.check_relaxes _ fun _ => firstError_relaxed fun _ =>
            checkBinding_relaxed hContext hOptions hClock) <|
          .cons (.refl _) .nil
  rw [soloStages, soloStages, hType]
  refine List.rel_append hExtraction ?_
  cases strictProcessing.type with
  | extractOnly => exact .cons (.refl _) .nil
  | fullValidation => exact hValidation

end Stages

/-! ## Runs -/

/-- **Leniency**: a response that gives a record under strict settings gives one under settings that relax
them, with the same verdict, submission and results. -/
theorem process_relaxed {response : Response} {lax strict : Context}
    {laxProcessing strictProcessing : ProcessConfig} {now : Int64} {record : Record}
    (hContext : lax.Relaxes strict) (hType : laxProcessing.type = strictProcessing.type)
    (hOptions : laxProcessing.options.Relaxes strictProcessing.options)
    (h : ((Run.new response strict strictProcessing).process now).1 = .ok record) :
    ∃ record', ((Run.new response lax laxProcessing).process now).1 = .ok record' ∧
      record'.verdict = record.verdict ∧ record'.submission = record.submission ∧
      record'.presentations = record.presentations := by
  obtain ⟨p, hAdvance, rfl⟩ := process_new_ok_iff.mp h
  obtain ⟨hError, hState, s, tokens, vps, hs, hv, hNonempty, hEach, hPassed, hLeft⟩ :=
    advance_stages_ok hAdvance
  have hClock : (clockAt lax now).Relaxes (clockAt strict now) := ⟨rfl, hContext.config.clockSkew⟩
  have hRows := soloStages_relaxed hContext hType hOptions hClock s
  -- each presentation makes the same journey
  have hSame : ∀ vp ∈ vps, journey (soloStages lax laxProcessing (clockAt lax now) s) .tokensExtracted vp =
      journey (soloStages strict strictProcessing (clockAt strict now) s) .tokensExtracted vp :=
    fun vp hvp => journey_relaxed hRows (hPassed vp hvp)
  obtain ⟨q, hLax, hLaxLeft⟩ := advance_stages_of_ok hError (checkState_relaxed hContext hOptions hState) hs
    hv hNonempty (hEach.imp fun _ _ => presentOne_relaxed hContext) fun vp hvp => by
      rw [hSame vp hvp]
      exact hPassed vp hvp
  -- both runs are left with what their presentations have become
  have hPresentations : q.presentations = p.presentations := by
    rw [hLaxLeft, hLeft]
    exact List.map_congr_left fun vp hvp => by rw [hSame vp hvp]
  refine ⟨_, process_new_of_none hLax, ?_, rfl, ?_⟩
  · show verdictOf laxProcessing.type = verdictOf strictProcessing.type
    rw [hType]
  · show q.presentations.map Record.ofPresentation = p.presentations.map Record.ofPresentation
    rw [hPresentations]

/-! ## A demanding verifier -/

/-- The context of the signed response, with expectations, the lowest limits and less than no leeway. -/
def demandingContext : Context :=
  { baseContext with
    nonce := some "nonce"
    config := {
      clientId := some "verifier"
      expectedVpIssuer := some "issuer"
      expectedVcIssuer := some "issuer"
      expectedVct := some "type"
      clockSkew := -1
      maxClaimDepth := 0
      maxJweNesting := 0 } }

/-- The base context drops every expectation and lowers no limit. -/
theorem baseContext_relaxes_demandingContext : baseContext.Relaxes demandingContext where
  config := ⟨Or.inr rfl, Or.inr rfl, Or.inr rfl, Or.inr rfl, by decide, by decide, by decide⟩
  nonce := Or.inr rfl
  expectedState := rfl
  resolver := rfl
  decrypter := rfl

set_option maxRecDepth 100000 in
/-- The signed response is verified by the demanding verifier, and so it is by the one that expects
nothing and does not look at the state. -/
theorem process_relaxed_demanding :
    ∃ record record',
      ((Run.new signedResponse demandingContext {}).process 0).1 = .ok record ∧
      ((Run.new signedResponse baseContext ⟨.fullValidation, { skipStateCheck := true }⟩).process 0).1 =
        .ok record' ∧
      record.verdict = .verified ∧ record'.verdict = .verified ∧
      record'.presentations = record.presentations := by
  have hVerdict :
      ((Run.new signedResponse demandingContext {}).process 0).1.toOption.map Record.verdict =
        some .verified := by
    decide +kernel
  cases hRecord : ((Run.new signedResponse demandingContext {}).process 0).1 with
  | error e =>
    rw [hRecord] at hVerdict
    cases hVerdict
  | ok record =>
    rw [hRecord] at hVerdict
    have hVerified : record.verdict = .verified := Option.some.inj hVerdict
    -- the lax run also leaves out the state, and the strict one leaves out nothing
    have hOptions : Options.Relaxes { skipStateCheck := true } {} := by
      refine ⟨?_, ?_, ?_, ?_, ?_, ?_⟩ <;> decide
    obtain ⟨record', hLax, hSame, -, hPresentations⟩ :=
      @process_relaxed signedResponse baseContext demandingContext
        ⟨.fullValidation, { skipStateCheck := true }⟩ {} 0 record
        baseContext_relaxes_demandingContext rfl hOptions hRecord
    exact ⟨record, record', rfl, hLax, hVerified, hSame.trans hVerified, hPresentations⟩

end Run

end PresentationVerifier
