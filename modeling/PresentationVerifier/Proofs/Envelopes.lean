import PresentationVerifier.Proofs.Collaborators

/-!
# Taking a token out of its envelopes

What is in an envelope is for the decrypter to say, and it may be another envelope, without end. So the
envelopes form a chain that grows from one text to the next (`Token.Opens`), and the limit is all that bounds
it. Where it ends there is a signed token, a text that is no token, or an envelope that is not opened, since
the limit is reached, there is no decrypter, or the decrypter gives no text for it (`Token.Unwraps`). The
limit is looked at before anything else.

Main results:

* `unwrapWithin_of_opens`: opening a chain of envelopes.
* `exists_unwraps`, `Unwraps.eq`: each text comes out of its envelopes in one way.
* `unwrap_chain`: which tokens are taken out of envelopes, and which envelopes are opened for that.
-/

namespace PresentationVerifier.Token

/-! ## Sealed texts -/

/-- The first part of a text is an envelope, which has this compact form. -/
def SealedAs (text jwe : String) : Prop :=
  ∃ structural segments tail, Divided text structural segments tail ∧
    segments.length = encryptedSegments ∧ jwe = String.ofList structural

/-- A text is sealed when its first part is an envelope, of whatever compact form. -/
theorem sealed_iff {text : String} : Sealed text ↔ ∃ jwe, SealedAs text jwe := by
  constructor
  · rintro ⟨structural, segments, tail, hDivided, hFive⟩
    exact ⟨_, structural, segments, tail, hDivided, hFive, rfl⟩
  · rintro ⟨_, structural, segments, tail, hDivided, hFive, -⟩
    exact ⟨structural, segments, tail, hDivided, hFive⟩

/-- What is read as an envelope is a text whose first part is one, with that compact form. -/
theorem read_eq_encrypted_iff {text jwe : String} :
    read text = .ok (.encrypted jwe) ↔ SealedAs text jwe := by
  constructor
  · intro h
    obtain ⟨structural, segments, tail, hDivided, hFive⟩ := sealed_of_read h
    refine ⟨structural, segments, tail, hDivided, hFive, ?_⟩
    unfold read shape at h
    rw [if_neg (hDivided.trimmed_ne_nil (by rw [hFive]; decide)), parts_eq hDivided.parts] at h
    dsimp only at h
    rw [Text.splitAt_eq_iff.mpr hDivided.segments] at h
    -- five segments are what makes an envelope, whatever is in them
    match segments, hFive with
    | [_, _, _, _, _], _ =>
      cases h
      rfl
  · rintro ⟨structural, segments, tail, hDivided, hFive, rfl⟩
    unfold read shape
    rw [if_neg (hDivided.trimmed_ne_nil (by rw [hFive]; decide)), parts_eq hDivided.parts]
    dsimp only
    rw [Text.splitAt_eq_iff.mpr hDivided.segments]
    match segments, hFive with
    | [_, _, _, _, _], _ => rfl

/-- A text that is no token and no envelope either. -/
theorem read_eq_error_of_not_sealed {text : String} (h : ¬Sealed text) {e : TokenError}
    (hError : ofJws text = .error e) : read text = .error e := by
  unfold ofJws at hError
  cases hRead : read text with
  | error e' =>
    rw [hRead] at hError
    cases hError
    rfl
  | ok found =>
    cases found with
    | signed t => simp [hRead] at hError
    | encrypted jwe => exact absurd (sealed_of_read hRead) h

/-- Where no envelope is expected, a sealed text is refused. -/
theorem ofJws_of_sealed {text : String} (h : Sealed text) : ofJws text = .error .noDecrypter := by
  obtain ⟨jwe, hSealed⟩ := sealed_iff.mp h
  -- it is read as an envelope, which is where this reading stops
  rw [ofJws, read_eq_encrypted_iff.mpr hSealed]

/-! ## Chains of envelopes -/

/-- A text is sealed as an envelope, and the decrypter has another text for that. -/
structure Yields (decrypter : Option Decrypter) (text jwe inner : String) : Prop where
  sealedAs : SealedAs text jwe
  content : ∃ decrypt, decrypter = some decrypt ∧ decrypt jwe = .ok (Encoding.utf8Bytes inner)

/-- The envelopes that lead from a text to the last one, each of them found in what the one before it
holds. -/
inductive Opens (decrypter : Option Decrypter) : String → List String → String → Prop where
  | done (text : String) : Opens decrypter text [] text
  | envelope {text jwe inner last : String} {jwes : List String}
      (hYields : Yields decrypter text jwe inner) (hRest : Opens decrypter inner jwes last) :
      Opens decrypter text (jwe :: jwes) last

/-- How a text comes out of its envelopes, with the ones that the decrypter was asked to open. -/
inductive Unwraps (decrypter : Option Decrypter) (limit : Nat) (text : String) : Unwrapped → Prop where
  | token {jwes : List String} {last : String} {t : Token} (hOpens : Opens decrypter text jwes last)
      (hLimit : jwes.length ≤ limit) (hToken : ofJws last = .ok t) :
      Unwraps decrypter limit text ⟨jwes, .ok { t with decrypted := decide (jwes ≠ []) }⟩
  | malformed {jwes : List String} {last : String} {e : TokenError}
      (hOpens : Opens decrypter text jwes last) (hLimit : jwes.length ≤ limit) (hPlain : ¬Sealed last)
      (hError : ofJws last = .error e) : Unwraps decrypter limit text ⟨jwes, .error e⟩
  | tooDeep {jwes : List String} {last : String} (hOpens : Opens decrypter text jwes last)
      (hLimit : jwes.length = limit) (hSealed : Sealed last) :
      Unwraps decrypter limit text ⟨jwes, .error (.nestingTooDeep limit)⟩
  | noDecrypter {jwes : List String} {last : String} (hOpens : Opens decrypter text jwes last)
      (hLimit : jwes.length < limit) (hSealed : Sealed last) (hNone : decrypter = none) :
      Unwraps decrypter limit text ⟨jwes, .error .noDecrypter⟩
  | refused {jwes : List String} {last jwe cause : String} {decrypt : Decrypter}
      (hOpens : Opens decrypter text jwes last) (hLimit : jwes.length < limit)
      (hSealed : SealedAs last jwe) (hSome : decrypter = some decrypt)
      (hCause : decrypt jwe = .error cause) :
      Unwraps decrypter limit text ⟨jwes ++ [jwe], .error (.decryption cause)⟩
  | notText {jwes : List String} {last jwe : String} {decrypt : Decrypter} {bytes : List UInt8}
      (hOpens : Opens decrypter text jwes last) (hLimit : jwes.length < limit)
      (hSealed : SealedAs last jwe) (hSome : decrypter = some decrypt) (hBytes : decrypt jwe = .ok bytes)
      (hNoText : ∀ inner, bytes ≠ Encoding.utf8Bytes inner) :
      Unwraps decrypter limit text ⟨jwes ++ [jwe], .error (.decryption notText)⟩

section Chain

variable {decrypter : Option Decrypter}

/-! ## One text -/

theorem unwrapWithin_of_token {text : String} {t : Token} (h : ofJws text = .ok t)
    (limit remaining : Nat) : unwrapWithin decrypter limit remaining text = ⟨[], .ok t⟩ := by
  rw [unwrapWithin.eq_def]
  simp only [ofJws_eq_ok_iff.mp h]

/-- A text that is neither a token nor an envelope gives its own error, and the decrypter is not asked. -/
theorem unwrapWithin_of_malformed {text : String} {e : TokenError} (hPlain : ¬Sealed text)
    (hError : ofJws text = .error e) (limit remaining : Nat) :
    unwrapWithin decrypter limit remaining text = ⟨[], .error e⟩ := by
  rw [unwrapWithin.eq_def]
  simp only [read_eq_error_of_not_sealed hPlain hError]

/-- The limit is looked at first, whether there is a decrypter or not. -/
theorem unwrapWithin_zero {text : String} (h : Sealed text) (limit : Nat) :
    unwrapWithin decrypter limit 0 text = ⟨[], .error (.nestingTooDeep limit)⟩ := by
  obtain ⟨jwe, hSealed⟩ := sealed_iff.mp h
  rw [unwrapWithin.eq_def]
  simp only [read_eq_encrypted_iff.mpr hSealed]

/-- Within the limit an envelope needs a decrypter. -/
theorem unwrapWithin_none {text : String} (h : Sealed text) (limit remaining : Nat) :
    unwrapWithin none limit (remaining + 1) text = ⟨[], .error .noDecrypter⟩ := by
  obtain ⟨jwe, hSealed⟩ := sealed_iff.mp h
  rw [unwrapWithin.eq_def]
  simp only [read_eq_encrypted_iff.mpr hSealed]

/-- The decrypter is asked for an envelope that it refuses, and its cause is told. -/
theorem unwrapWithin_of_refused {text jwe cause : String} {decrypt : Decrypter}
    (h : SealedAs text jwe) (hCause : decrypt jwe = .error cause) (limit remaining : Nat) :
    unwrapWithin (some decrypt) limit (remaining + 1) text = ⟨[jwe], .error (.decryption cause)⟩ := by
  rw [unwrapWithin.eq_def]
  simp only [read_eq_encrypted_iff.mpr h, hCause]

/-- The decrypter is asked for an envelope in which there is no text. -/
theorem unwrapWithin_of_notText {text jwe : String} {decrypt : Decrypter} {bytes : List UInt8}
    (h : SealedAs text jwe) (hBytes : decrypt jwe = .ok bytes)
    (hNoText : ∀ inner, bytes ≠ Encoding.utf8Bytes inner) (limit remaining : Nat) :
    unwrapWithin (some decrypt) limit (remaining + 1) text = ⟨[jwe], .error (.decryption notText)⟩ := by
  have hNone : Encoding.utf8Text? bytes = none :=
    Option.eq_none_iff_forall_ne_some.mpr fun inner hInner =>
      hNoText inner (Encoding.utf8Bytes_of_utf8Text? hInner)
  rw [unwrapWithin.eq_def]
  simp only [read_eq_encrypted_iff.mpr h, hBytes, hNone]

/-- An envelope that holds a text is opened first, and then what that text gives, marked. -/
theorem unwrapWithin_of_yields {text jwe inner : String} (h : Yields decrypter text jwe inner)
    (limit remaining : Nat) :
    unwrapWithin decrypter limit (remaining + 1) text =
      ⟨jwe :: (unwrapWithin decrypter limit remaining inner).opened,
        (unwrapWithin decrypter limit remaining inner).result.map markDecrypted⟩ := by
  obtain ⟨hSealed, decrypt, rfl, hContent⟩ := h
  rw [unwrapWithin.eq_def]
  simp only [read_eq_encrypted_iff.mpr hSealed, hContent, Encoding.utf8Text?_utf8Bytes]

/-! ## The whole chain -/

/-- What comes out behind some envelopes. -/
def behind (jwes : List String) (u : Unwrapped) : Unwrapped :=
  ⟨jwes ++ u.opened, u.result.map fun t => { t with decrypted := t.decrypted || decide (jwes ≠ []) }⟩

/-- Before an error there may be envelopes that were opened. -/
theorem behind_error (jwes opened : List String) (e : TokenError) :
    behind jwes ⟨opened, .error e⟩ = ⟨jwes ++ opened, .error e⟩ :=
  rfl

/-- **Opening a chain** takes as much of the limit as there are envelopes in it, and the last text decides
about the rest. -/
theorem unwrapWithin_of_opens {text last : String} {jwes : List String}
    (h : Opens decrypter text jwes last) (limit remaining : Nat) :
    unwrapWithin decrypter limit (remaining + jwes.length) text =
      behind jwes (unwrapWithin decrypter limit remaining last) := by
  induction h with
  | done text =>
    cases unwrapWithin decrypter limit remaining text with
    | mk opened result => cases result <;> simp [behind, Except.map]
  | @envelope text jwe inner last jwes hYields hRest ih =>
    -- the first envelope marks the token, whatever follows
    rw [List.length_cons, ← Nat.add_assoc, unwrapWithin_of_yields hYields, ih]
    cases unwrapWithin decrypter limit remaining last with
    | mk opened result => cases result <;> simp [behind, markDecrypted, Except.map]

/-- A chain can be followed up to the limit, or until there is nothing more to open. -/
theorem exists_opens (decrypter : Option Decrypter) (limit : Nat) (text : String) :
    ∃ jwes last, Opens decrypter text jwes last ∧ jwes.length ≤ limit ∧
      (jwes.length = limit ∨ ∀ jwe inner, ¬Yields decrypter last jwe inner) := by
  -- by induction on the limit, for each text that an envelope may hold
  induction limit generalizing text with
  | zero => exact ⟨[], text, .done text, Nat.le_refl 0, Or.inl rfl⟩
  | succ limit ih =>
    by_cases hMore : ∃ jwe inner, Yields decrypter text jwe inner
    · obtain ⟨jwe, inner, hYields⟩ := hMore
      obtain ⟨jwes, last, hOpens, hLength, hEnd⟩ := ih inner
      refine ⟨jwe :: jwes, last, .envelope hYields hOpens, Nat.succ_le_succ hLength, ?_⟩
      exact hEnd.imp_left fun hLimit => congrArg Nat.succ hLimit
    · refine ⟨[], text, .done text, Nat.zero_le _, Or.inr ?_⟩
      exact fun jwe inner hYields => hMore ⟨jwe, inner, hYields⟩

/-- Each text comes out of its envelopes in some way. -/
theorem exists_unwraps (decrypter : Option Decrypter) (limit : Nat) (text : String) :
    ∃ u, Unwraps decrypter limit text u := by
  obtain ⟨jwes, last, hOpens, hLength, hEnd⟩ := exists_opens decrypter limit text
  -- an envelope at the end stays closed, either by the limit or since nothing comes out of it
  by_cases hSealed : Sealed last
  · rcases Nat.eq_or_lt_of_le hLength with hLimit | hLess
    · exact ⟨_, .tooDeep hOpens hLimit hSealed⟩
    have hStuck : ∀ jwe inner, ¬Yields decrypter last jwe inner := hEnd.resolve_left (by omega)
    obtain ⟨jwe, hSealedAs⟩ := sealed_iff.mp hSealed
    cases decrypter with
    | none => exact ⟨_, .noDecrypter hOpens hLess hSealed rfl⟩
    | some decrypt =>
      cases hContent : decrypt jwe with
      | error cause => exact ⟨_, .refused hOpens hLess hSealedAs rfl hContent⟩
      | ok bytes =>
        have hNoText : ∀ inner, bytes ≠ Encoding.utf8Bytes inner := by
          rintro inner rfl
          exact hStuck jwe inner ⟨hSealedAs, decrypt, rfl, hContent⟩
        exact ⟨_, .notText hOpens hLess hSealedAs rfl hContent hNoText⟩
  · cases hToken : ofJws last with
    | ok t => exact ⟨_, .token hOpens hLength hToken⟩
    | error e => exact ⟨_, .malformed hOpens hLength hSealed hToken⟩

/-- A token that was read from a text is not marked. -/
theorem decrypted_of_ofJws {text : String} {t : Token} (h : ofJws text = .ok t) : t.decrypted = false :=
  (shape_eq_signed (ofJws_eq_ok_iff.mp h)).2

/-- The unwrapping of a text in terms of that of the last one in a chain. -/
theorem unwrap_of_opens {limit : Nat} {text last : String} {jwes : List String}
    (h : Opens decrypter text jwes last) (hLimit : jwes.length ≤ limit) :
    unwrap decrypter limit text =
      behind jwes (unwrapWithin decrypter limit (limit - jwes.length) last) := by
  have hWhole := unwrapWithin_of_opens h limit (limit - jwes.length)
  rw [Nat.sub_add_cancel hLimit] at hWhole
  exact hWhole

/-- As long as the limit is not reached, one more envelope may be opened. -/
theorem exists_unwrap_of_opens {limit : Nat} {text last : String} {jwes : List String}
    (h : Opens decrypter text jwes last) (hLimit : jwes.length < limit) :
    ∃ remaining, unwrap decrypter limit text =
      behind jwes (unwrapWithin decrypter limit (remaining + 1) last) := by
  have hMore : limit - jwes.length - 1 + 1 = limit - jwes.length := by omega
  refine ⟨limit - jwes.length - 1, ?_⟩
  rw [hMore]
  exact unwrap_of_opens h (Nat.le_of_lt hLimit)

/-- A way in which a text can come out of its envelopes is the one in which it does. -/
theorem Unwraps.eq {limit : Nat} {text : String} {u : Unwrapped} (h : Unwraps decrypter limit text u) :
    unwrap decrypter limit text = u := by
  cases h with
  | token hOpens hLimit hToken =>
    rw [unwrap_of_opens hOpens hLimit, unwrapWithin_of_token hToken]
    simp [behind, Except.map, decrypted_of_ofJws hToken]
  | malformed hOpens hLimit hPlain hError =>
    rw [unwrap_of_opens hOpens hLimit, unwrapWithin_of_malformed hPlain hError, behind_error,
      List.append_nil]
  | tooDeep hOpens hLimit hSealed =>
    -- nothing of the limit is left, so that it does not matter whether there is a decrypter
    rw [unwrap_of_opens hOpens (Nat.le_of_eq hLimit), hLimit, Nat.sub_self, unwrapWithin_zero hSealed,
      behind_error, List.append_nil]
  | noDecrypter hOpens hLimit hSealed hNone =>
    obtain ⟨remaining, hUnwrap⟩ := exists_unwrap_of_opens hOpens hLimit
    rw [hUnwrap, hNone, unwrapWithin_none hSealed, behind_error, List.append_nil]
  | refused hOpens hLimit hSealed hSome hCause =>
    obtain ⟨remaining, hUnwrap⟩ := exists_unwrap_of_opens hOpens hLimit
    rw [hUnwrap, hSome, unwrapWithin_of_refused hSealed hCause, behind_error]
  | notText hOpens hLimit hSealed hSome hBytes hNoText =>
    obtain ⟨remaining, hUnwrap⟩ := exists_unwrap_of_opens hOpens hLimit
    rw [hUnwrap, hSome, unwrapWithin_of_notText hSealed hBytes hNoText, behind_error]

theorem unwrap_eq_iff {limit : Nat} {text : String} {u : Unwrapped} :
    unwrap decrypter limit text = u ↔ Unwraps decrypter limit text u := by
  constructor
  · intro h
    -- there is some way, and it is the way that is taken
    obtain ⟨found, hFound⟩ := exists_unwraps decrypter limit text
    rwa [← h, hFound.eq]
  · exact Unwraps.eq

/-- No more envelopes are opened than the limit allows, whatever the decrypter has for them. -/
theorem Unwraps.length_opened_le {limit : Nat} {text : String} {u : Unwrapped}
    (h : Unwraps decrypter limit text u) : u.opened.length ≤ limit := by
  cases h with
  | token _ hLimit _ => exact hLimit
  | malformed _ hLimit _ _ => exact hLimit
  | tooDeep _ hLimit _ => exact Nat.le_of_eq hLimit
  | noDecrypter _ hLimit _ _ => exact Nat.le_of_lt hLimit
  | refused _ hLimit _ _ _ | notText _ hLimit _ _ _ _ =>
    rw [List.length_append, List.length_singleton]
    exact hLimit

end Chain

/-- Without a decrypter a sealed text is refused, as it is where no envelope is expected. -/
theorem unwrap_none {limit : Nat} (h : 1 ≤ limit) (text : String) :
    unwrap none limit text = ⟨[], ofJws text⟩ := by
  obtain ⟨remaining, rfl⟩ : ∃ remaining, limit = remaining + 1 := ⟨limit - 1, by omega⟩
  rw [unwrap]
  -- one envelope is allowed for, so that it is the decrypter that is missed and not the limit
  by_cases hSealed : Sealed text
  · rw [unwrapWithin_none hSealed, ofJws_of_sealed hSealed]
  · cases hRead : ofJws text with
    | ok t => rw [unwrapWithin_of_token hRead]
    | error e => rw [unwrapWithin_of_malformed hSealed hRead]

/-- **The chain of envelopes**: a token comes out of a text when it is what the last text of a chain within
the limit reads as, and it is marked when the chain has an envelope. Whether there is a token or not, the
decrypter is asked for the envelopes of the chain in their order, at most as many as the limit allows; and
the error is that of the end of the chain. Without a decrypter, and with any envelope allowed for, a text is
read as one that has no envelope. -/
theorem unwrap_chain (decrypter : Option Decrypter) (limit : Nat) (text : String) :
    (∀ t, (unwrap decrypter limit text).result = .ok t ↔
      ∃ jwes last t₀, Opens decrypter text jwes last ∧ jwes.length ≤ limit ∧ ofJws last = .ok t₀ ∧
        t = { t₀ with decrypted := decide (jwes ≠ []) } ∧ (unwrap decrypter limit text).opened = jwes) ∧
    (∀ opened result, unwrap decrypter limit text = ⟨opened, result⟩ ↔
      Unwraps decrypter limit text ⟨opened, result⟩) ∧
    (unwrap decrypter limit text).opened.length ≤ limit ∧
    (decrypter = none → 1 ≤ limit → (unwrap decrypter limit text).result = ofJws text) := by
  have hUnwraps : Unwraps decrypter limit text (unwrap decrypter limit text) := unwrap_eq_iff.mp rfl
  refine ⟨fun t => ⟨?_, ?_⟩, fun _ _ => unwrap_eq_iff, hUnwraps.length_opened_le, ?_⟩
  · intro hToken
    -- of all ways in which a chain can end one only gives a token
    generalize unwrap decrypter limit text = u at hUnwraps hToken
    cases hUnwraps with
    | @token jwes last t₀ hOpens hLimit hRead =>
      exact ⟨jwes, last, t₀, hOpens, hLimit, hRead, (Except.ok.inj hToken).symm, rfl⟩
    | malformed | tooDeep | noDecrypter | refused | notText => cases hToken
  · rintro ⟨jwes, last, t₀, hOpens, hLimit, hRead, rfl, -⟩
    rw [(Unwraps.token hOpens hLimit hRead).eq]
  · rintro rfl hLimit
    rw [unwrap_none hLimit]

/-- The decrypter of this chain has another envelope for each, and is asked three times. -/
theorem unwrap_chain_endless :
    unwrap (some fun _ => .ok (Encoding.utf8Bytes " a.b.c.d.e~x")) 3 "v.w.x.y.z" =
        ⟨["v.w.x.y.z", "a.b.c.d.e", "a.b.c.d.e"], .error (.nestingTooDeep 3)⟩ ∧
      (unwrap none 3 "v.w.x.y.z").result = ofJws "v.w.x.y.z" := by
  have hFirst : SealedAs "v.w.x.y.z" "v.w.x.y.z" := read_eq_encrypted_iff.mp rfl
  have hNext : SealedAs " a.b.c.d.e~x" "a.b.c.d.e" := read_eq_encrypted_iff.mp rfl
  -- each envelope holds the same text, which is sealed again
  let decrypt : Decrypter := fun _ => .ok (Encoding.utf8Bytes " a.b.c.d.e~x")
  have hOpens : Opens (some decrypt) "v.w.x.y.z" ["v.w.x.y.z", "a.b.c.d.e", "a.b.c.d.e"] " a.b.c.d.e~x" :=
    .envelope ⟨hFirst, decrypt, rfl, rfl⟩ (.envelope ⟨hNext, decrypt, rfl, rfl⟩
      (.envelope ⟨hNext, decrypt, rfl, rfl⟩ (.done _)))
  obtain ⟨-, hUnwrap, -, -⟩ := unwrap_chain (some decrypt) 3 "v.w.x.y.z"
  obtain ⟨-, -, -, hNone⟩ := unwrap_chain none 3 "v.w.x.y.z"
  refine ⟨(hUnwrap _ _).mpr (.tooDeep hOpens rfl ?_), hNone rfl (by decide)⟩
  exact sealed_iff.mpr ⟨_, hNext⟩

end PresentationVerifier.Token
