import PresentationVerifier.Proofs.Printing
import PresentationVerifier.Proofs.Reread
import PresentationVerifier.Run

/-!
# Compact tokens in a form body

In a form body a presented token may stand as it is, without the quotes of a JSON string. It is kept as
it stands, because no compact token is the text of a JSON value: outside of strings, arrays and objects a
JSON text has at most one dot (`dots_of_parse`), and a token has two and is written without quotes and
brackets. So the token may stand alone, in quotes, or in quotes and brackets, and the response presents the
same.

Main results:

* `Json.parse_compactToken`: a compact token is no JSON text.
* `ofForm_compactToken`: the response of a body with a compact token.
-/

namespace PresentationVerifier

open Encoding

namespace Json

/-! ## Dots in JSON texts -/

/-- Characters other than dots may be dropped. -/
theorem dots_dropWhile {p : Char → Bool} (h : p '.' = false) (cs : List Char) :
    (cs.dropWhile p).count '.' = cs.count '.' := by
  induction cs with
  | nil => rfl
  | cons c cs ih =>
    rw [List.dropWhile_cons]
    split
    · next hDropped =>
      have hOther : c ≠ '.' := by
        rintro rfl
        rw [h] at hDropped
        cases hDropped
      rw [ih, List.count_cons_of_ne hOther]
    · rfl

theorem dots_skipSpace (cs : List Char) : (skipSpace cs).count '.' = cs.count '.' :=
  dots_dropWhile rfl cs

theorem dots_readDigits {cs rest : List Char} {ds : List Digit} (h : readDigits cs = (ds, rest)) :
    cs.count '.' = rest.count '.' := by
  obtain ⟨-, rfl⟩ := Prod.mk.inj h
  exact (dots_dropWhile rfl cs).symm

/-- A word without a dot is read without one. -/
theorem dots_readWord {word cs rest : List Char} (hWord : '.' ∉ word)
    (h : readWord word cs = some ((), rest)) : cs.count '.' = rest.count '.' := by
  unfold readWord at h
  split at h
  · next hFront =>
    obtain ⟨-, rfl⟩ := Prod.mk.inj (Option.some.inj h)
    -- the word is the front of the text, and has no dot of those that are counted
    have hCounts := congrArg (List.count '.') (List.take_append_drop word.length cs)
    rw [List.count_append, hFront, List.count_eq_zero.mpr hWord] at hCounts
    omega
  · cases h

/-- The whole part of a number is read without a dot. -/
theorem dots_readWhole {cs rest : List Char} {whole : List Digit}
    (h : readWhole cs = some (whole, rest)) : cs.count '.' = rest.count '.' := by
  unfold readWhole at h
  split at h
  · cases h
  · next hRead =>
    split at h
    · cases h
    · obtain ⟨-, rfl⟩ := Prod.mk.inj (Option.some.inj h)
      exact dots_readDigits hRead

/-- The point of a number is its only dot. -/
theorem dots_readFraction {cs rest : List Char} {fraction : List Digit}
    (h : readFraction cs = some (fraction, rest)) : cs.count '.' ≤ rest.count '.' + 1 := by
  unfold readFraction at h
  split at h
  · next back =>
    split at h
    · cases h
    · next hRead =>
      obtain ⟨-, rfl⟩ := Prod.mk.inj (Option.some.inj h)
      rw [List.count_cons_self, dots_readDigits hRead]
  · obtain ⟨-, rfl⟩ := Prod.mk.inj (Option.some.inj h)
    omega

/-- The exponent of a number is read without a dot: it has a letter, a sign and digits. -/
theorem dots_readExponent {cs rest : List Char} {exponent : Option Exponent}
    (h : readExponent cs = some (exponent, rest)) : cs.count '.' = rest.count '.' := by
  unfold readExponent at h
  split at h
  · obtain ⟨-, rfl⟩ := Prod.mk.inj (Option.some.inj h)
    rfl
  · next c back =>
    split at h
    · next hLetter =>
      -- the letter that begins an exponent is none of the dots, and neither is a sign
      have hOther : c ≠ '.' := by
        rintro rfl
        exact absurd hLetter (by decide)
      have hSign : (readSign back).2.count '.' = back.count '.' := by
        unfold readSign
        split <;> simp
      split at h
      · cases h
      · next hRead =>
        obtain ⟨-, rfl⟩ := Prod.mk.inj (Option.some.inj h)
        rw [List.count_cons_of_ne hOther, ← hSign, dots_readDigits hRead]
    · obtain ⟨-, rfl⟩ := Prod.mk.inj (Option.some.inj h)
      rfl

/-- A number without a sign has one dot at most, that of its fraction. -/
theorem dots_readUnsigned {negative : Bool} {cs rest : List Char} {n : Number}
    (h : readUnsigned negative cs = some (n, rest)) : cs.count '.' ≤ rest.count '.' + 1 := by
  unfold readUnsigned at h
  obtain ⟨⟨whole, afterWhole⟩, hWhole, h⟩ := Option.bind_eq_some_iff.mp h
  obtain ⟨⟨fraction, afterFraction⟩, hFraction, h⟩ := Option.bind_eq_some_iff.mp h
  obtain ⟨⟨exponent, afterExponent⟩, hExponent, h⟩ := Option.map_eq_some_iff.mp h
  obtain ⟨-, rfl⟩ := Prod.mk.inj h
  -- of the three parts only the fraction has a dot
  have hPoint := dots_readFraction hFraction
  rw [dots_readWhole hWhole, ← dots_readExponent hExponent]
  exact hPoint

/-- A number has one dot at most, as the sign is none. -/
theorem dots_readNumber {cs rest : List Char} {n : Number} (h : readNumber cs = some (n, rest)) :
    cs.count '.' ≤ rest.count '.' + 1 := by
  rw [readNumber_eq] at h
  split at h
  · next hMinus =>
    obtain ⟨back, rfl⟩ := List.head?_eq_some_iff.mp hMinus
    have hBack := dots_readUnsigned h
    rw [List.count_cons_of_ne (by decide)]
    exact hBack
  · exact dots_readUnsigned h

/-- A value that begins with neither a quote nor an opening bracket has at most one dot. -/
theorem dots_readValueWith {array object : Reader Json} {cs rest : List Char} {v : Json}
    (hPlain : ∀ c ∈ cs, c ≠ '\x22' ∧ c ≠ '[' ∧ c ≠ '\x7b')
    (h : readValueWith array object cs = some (v, rest)) : cs.count '.' ≤ rest.count '.' + 1 := by
  rw [← dots_skipSpace cs]
  -- the three words have no dot, and differ only in their letters
  have hWord : ∀ {word : List Char} {c : Char} {back : List Char} {value : Json},
      '.' ∉ word → c ≠ '.' →
      (readWord word back).map (fun r => (value, r.2)) = some (v, rest) →
      (c :: back).count '.' ≤ rest.count '.' + 1 := by
    intro word c back value hFree hOther hRead
    obtain ⟨⟨⟨⟩, r⟩, hSome, hr⟩ := Option.map_eq_some_iff.mp hRead
    obtain ⟨-, rfl⟩ := Prod.mk.inj hr
    rw [List.count_cons_of_ne hOther, dots_readWord hFree hSome]
    exact Nat.le_succ _
  unfold readValueWith at h
  split at h
  · cases h
  · next c back hSkip =>
    -- what the value begins with is a character of the text, so no quote and no bracket
    have hMem : c ∈ cs := (List.dropWhile_sublist isSpace).subset (by
      rw [show cs.dropWhile isSpace = c :: back from hSkip]
      exact List.mem_cons_self)
    obtain ⟨hQuote, hBracket, hBrace⟩ := hPlain c hMem
    rw [if_neg hQuote, if_neg hBracket, if_neg hBrace] at h
    rw [hSkip]
    split at h
    · next hLetter => exact hWord (by decide) (by rw [hLetter]; decide) h
    split at h
    · next hLetter => exact hWord (by decide) (by rw [hLetter]; decide) h
    split at h
    · next hLetter => exact hWord (by decide) (by rw [hLetter]; decide) h
    · obtain ⟨⟨n, r⟩, hRead, hr⟩ := Option.map_eq_some_iff.mp h
      obtain ⟨-, rfl⟩ := Prod.mk.inj hr
      exact dots_readNumber hRead

/-- **A JSON text without strings, arrays and objects has at most one dot.** -/
theorem dots_of_parse {text : String} {v : Json}
    (hPlain : ∀ c ∈ text.toList, c ≠ '\x22' ∧ c ≠ '[' ∧ c ≠ '\x7b') (h : parse text = some v) :
    text.toList.count '.' ≤ 1 := by
  unfold parse whole at h
  split at h
  · next w rest hRead =>
    split at h
    · next hEnd =>
      have hDots : text.toList.count '.' ≤ rest.count '.' + 1 := dots_readValueWith hPlain hRead
      -- only spaces are left behind the value
      have hNone := dots_skipSpace rest
      rw [hEnd, List.count_nil] at hNone
      omega
    · cases h
  · cases h

/-! ## Compact tokens -/

/-- A character of a compact token: one of the base64url alphabet, a dot, or a tilde. -/
def isTokenChar (c : Char) : Bool :=
  (urlSafe.index? c).isSome || c = '.' || c = Token.separator

/-- A text that is written like a compact token: in its characters, and with two dots at least. -/
structure CompactToken (text : String) : Prop where
  chars : ∀ c ∈ text.toList, isTokenChar c = true
  dots : 2 ≤ text.toList.count '.'

/-- No compact token is a JSON text. -/
theorem parse_compactToken {text : String} (h : CompactToken text) : parse text = none := by
  have hPlain : ∀ c ∈ text.toList, c ≠ '\x22' ∧ c ≠ '[' ∧ c ≠ '\x7b' := by
    intro c hc
    have hChar := h.chars c hc
    -- none of the three is in the alphabet of a token
    refine ⟨?_, ?_, ?_⟩ <;> (rintro rfl; revert hChar; decide)
  rw [Option.eq_none_iff_forall_ne_some]
  intro v hRead
  -- a text that is read has one dot at most, a token two at least
  have hDots := dots_of_parse hPlain hRead
  have hTwo := h.dots
  omega

/-! ## Members of an object -/

section Middle

variable (before after : List (String × Json)) (name : String) (v : Json)

/-- What an object has for a key when one of its members is named: a later member of that key first, then the
named one, then an earlier one. -/
theorem Object.get?_middle (key : String) :
    (ofMembers (before ++ (name, v) :: after)).get? key =
      (after.reverse.lookup key).or (if key = name then some v else before.reverse.lookup key) := by
  -- the last of several members of a name counts, so that the members are looked up from the back
  rw [get?_ofMembers, List.reverse_append, List.reverse_cons, List.append_assoc, List.singleton_append,
    List.lookup_append]
  exact congrArg _ (get?_cons name v before.reverse key)

/-- One member more makes no difference for the members of other names. -/
theorem Object.get?_middle_of_ne {key : String} (h : key ≠ name) :
    (ofMembers (before ++ (name, v) :: after)).get? key = (ofMembers (before ++ after)).get? key := by
  rw [get?_middle, if_neg h, get?_ofMembers, List.reverse_append, List.lookup_append]

/-- A member that no later one replaces is what the object has for its name. -/
theorem Object.get?_middle_self (h : ∀ m ∈ after, m.1 ≠ name) :
    (ofMembers (before ++ (name, v) :: after)).get? name = some v := by
  have hNone : after.reverse.lookup name = none := by
    rw [List.lookup_eq_none_iff]
    intro m hm
    have hOther := h m (List.mem_reverse.mp hm)
    simpa using hOther.symm
  rw [get?_middle, if_pos rfl, hNone, Option.none_or]

end Middle

end Json

namespace Response

/-! ## One parameter more -/

section Pairs

variable (before after : List (String × String)) (name text : String)

/-- The object of a body with one parameter more has one member more, in the same place. -/
theorem objectOfPairs_middle :
    objectOfPairs (before ++ (name, text) :: after) =
      Json.Object.ofMembers (before.map (fun p => (p.1, formValue p.1 p.2)) ++
        (name, formValue name text) :: after.map fun p => (p.1, formValue p.1 p.2)) := by
  rw [objectOfPairs, List.map_append, List.map_cons]

/-- A parameter that is set no more after it has the value that is written there. -/
theorem get?_objectOfPairs_self (h : ∀ p ∈ after, p.1 ≠ name) :
    (objectOfPairs (before ++ (name, text) :: after)).get? name = some (formValue name text) := by
  have hAfter : ∀ m ∈ after.map (fun p => (p.1, formValue p.1 p.2)), m.1 ≠ name := by
    intro m hm
    obtain ⟨p, hp, rfl⟩ := List.mem_map.mp hm
    exact h p hp
  rw [objectOfPairs_middle, Json.Object.get?_middle_self _ _ _ _ hAfter]

theorem get?_objectOfPairs_of_ne {key : String} (h : key ≠ name) :
    (objectOfPairs (before ++ (name, text) :: after)).get? key =
      (objectOfPairs (before ++ after)).get? key := by
  rw [objectOfPairs_middle, Json.Object.get?_middle_of_ne _ _ _ _ h, objectOfPairs, List.map_append]

end Pairs

/-- A parameter that two objects have alike is read alike from both. -/
theorem optional_congr {p : Parameter} {o o' : Json.Object} (h : o.get? p.key = o'.get? p.key) :
    p.optional o = p.optional o' := by
  rw [Parameter.optional, Parameter.optional, Parameter.get?, Parameter.get?, h]

/-- Of two objects that differ in `vp_token` only, one is a response if the other is, with tokens of its
own. -/
theorem ofObject_of_tokens {o o' : Json.Object} {r : Response} {tokens : Option (List VpToken)}
    (hOthers : ∀ p : Parameter, p ≠ .vpToken → o'.get? p.key = o.get? p.key)
    (hTokens : Parameter.vpToken.optional o' = .ok tokens) (h : ofObject o = .ok r) :
    ofObject o' = .ok { r with raw := o', vpToken := tokens } := by
  have hSame : ∀ p : Parameter, p ≠ .vpToken → p.optional o' = p.optional o :=
    fun p hp => optional_congr (hOthers p hp)
  unfold ofObject at h ⊢
  obtain ⟨idToken, hId, h⟩ := bind_eq_ok.mp h
  obtain ⟨_, -, h⟩ := bind_eq_ok.mp h
  obtain ⟨submission, hSubmission, h⟩ := bind_eq_ok.mp h
  obtain ⟨state, hState, h⟩ := bind_eq_ok.mp h
  obtain ⟨error, hError, h⟩ := bind_eq_ok.mp h
  obtain ⟨description, hDescription, h⟩ := bind_eq_ok.mp h
  obtain ⟨uri, hUri, h⟩ := bind_eq_ok.mp h
  obtain rfl := Except.ok.inj h
  -- the six other parameters are what they were
  rw [hSame .idToken (by decide), hSame .presentationSubmission (by decide), hSame .state (by decide),
    hSame .error (by decide), hSame .errorDescription (by decide), hSame .errorUri (by decide), hTokens,
    hId, hSubmission, hState, hError, hDescription, hUri]
  rfl

/-! ## Tokens in a body -/

/-- A text under which a body may present a token: the token as it stands, or a JSON text of the string or
of an array with only that string. -/
def PresentsToken (token text : String) : Prop :=
  text = token ∨ Json.parse text = some (.string token) ∨
    Json.parse text = some (.array [.string token])

theorem presentsToken_quoted (token : String) : PresentsToken token (Json.string token).compact := by
  have hString : Json.Reprintable Json.nestingLimit (.string token) :=
    Json.reprintable_of_scalar (v := .string token) trivial Json.nestingLimit
  exact Or.inr (Or.inl (Json.parse_compact hString))

theorem presentsToken_listed (token : String) :
    PresentsToken token (Json.array [.string token]).compact := by
  have hItems : ∀ v ∈ [Json.string token], Json.Reprintable 126 v := by
    intro v hv
    obtain rfl := List.mem_singleton.mp hv
    exact Json.reprintable_of_scalar (v := .string token) trivial 126
  exact Or.inr (Or.inr (Json.parse_compact (Json.reprintable_array hItems)))

/-- However a token is written, it is the only one that is presented. -/
theorem optional_of_presentsToken {token text : String} (hToken : Json.CompactToken token)
    (h : PresentsToken token text) {o : Json.Object}
    (ho : o.get? Parameter.vpToken.key = some (formValue Parameter.vpToken.key text)) :
    Parameter.vpToken.optional o = .ok (some [.text token]) := by
  have hCarried : jsonInForm.contains Parameter.vpToken.key = true := by decide
  -- the text is tried as JSON first, and a token that stands as it is fails that
  have hValue : formValue Parameter.vpToken.key text = .string token ∨
      formValue Parameter.vpToken.key text = .array [.string token] := by
    rw [formValue, if_pos hCarried]
    rcases h with rfl | hString | hArray
    · rw [Json.parse_compactToken hToken]
      exact Or.inl rfl
    · rw [hString]
      exact Or.inl rfl
    · rw [hArray]
      exact Or.inr rfl
  rw [Parameter.optional, Parameter.get?, ho]
  rcases hValue with hString | hArray
  · rw [hString]
    rfl
  · rw [hArray]
    rfl

/-- A single text is presented as the token that it is taken apart into. -/
theorem present_text (context : Context) (text : String) :
    Run.present context [.text text] =
      let unwrapped := Token.unwrap context.decrypter context.config.maxJweNesting text
      (unwrapped.opened, (unwrapped.result.mapError (·.at .tokenExtraction)).map fun t => [⟨t, []⟩]) := by
  rw [Run.present]
  dsimp only
  cases (Token.unwrap context.decrypter context.config.maxJweNesting text).result with
  | error e => rfl
  | ok t => simp [Run.present, Except.map, Except.mapError]

/-- **A compact token in a body is taken as it stands.** Let the other pairs of a body set no `vp_token` and
be a response. With a compact token, written as it stands or as JSON text, the body is that response with the
token as its only one, and taking its tokens apart is taking apart the token. -/
theorem ofForm_compactToken {token : String} (hToken : Json.CompactToken token)
    {before after : List (String × String)}
    (hOthers : ∀ p ∈ before ++ after, p.1 ≠ Parameter.vpToken.key) {r : Response}
    (hResponse : ofObject (objectOfPairs (before ++ after)) = .ok r) :
    (∀ text, PresentsToken token text → ∀ body,
      Form.decode body = before ++ (Parameter.vpToken.key, text) :: after →
        ofForm body =
          .ok { r with raw := objectOfPairs (Form.decode body), vpToken := some [.text token] }) ∧
    (PresentsToken token token ∧ PresentsToken token (Json.string token).compact ∧
      PresentsToken token (Json.array [.string token]).compact) ∧
    ∀ context : Context, Run.present context [.text token] =
      let unwrapped := Token.unwrap context.decrypter context.config.maxJweNesting token
      (unwrapped.opened, (unwrapped.result.mapError (·.at .tokenExtraction)).map fun t => [⟨t, []⟩]) := by
  have hBodies : ∀ text, PresentsToken token text → ∀ body,
      Form.decode body = before ++ (Parameter.vpToken.key, text) :: after →
        ofForm body =
          .ok { r with raw := objectOfPairs (Form.decode body), vpToken := some [.text token] } := by
    intro text hText body hBody
    have hLast : ∀ p ∈ after, p.1 ≠ Parameter.vpToken.key :=
      fun p hp => hOthers p (List.mem_append_right before hp)
    have hValue : (objectOfPairs (Form.decode body)).get? Parameter.vpToken.key =
        some (formValue Parameter.vpToken.key text) := by
      rw [hBody, get?_objectOfPairs_self before after _ text hLast]
    -- all parameters but the token are those of the body without it
    refine ofObject_of_tokens ?_ (optional_of_presentsToken hToken hText hValue) hResponse
    intro p hp
    have hKey : p.key ≠ Parameter.vpToken.key := fun h => hp (Parameter.key_injective h)
    rw [hBody, get?_objectOfPairs_of_ne before after _ text hKey]
  exact ⟨hBodies, ⟨Or.inl rfl, presentsToken_quoted token, presentsToken_listed token⟩,
    fun context => present_text context token⟩

/-- A token that looks like two numbers, in a body with a state. -/
theorem ofForm_compactToken_digits :
    Json.CompactToken "1.2e5.-3" ∧
      (ofForm (utf8Bytes "state=x&vp_token=1.2e5.-3")).map (fun r => (r.vpToken, r.state)) =
        .ok (some [.text "1.2e5.-3"], some "x") := by
  have hToken : Json.CompactToken "1.2e5.-3" := ⟨List.all_eq_true.mp (by decide), by decide⟩
  have hOthers : ∀ p ∈ [("state", "x")] ++ [], p.1 ≠ Parameter.vpToken.key := by decide
  have hResponse : ofObject (objectOfPairs ([("state", "x")] ++ [])) =
      .ok ⟨[("state", .string "x")], none, none, none, some "x", none, none, none⟩ := by rfl
  have hBody : Form.decode (utf8Bytes "state=x&vp_token=1.2e5.-3") =
      [("state", "x"), ("vp_token", "1.2e5.-3")] := by decide
  obtain ⟨hBodies, -, -⟩ := ofForm_compactToken hToken hOthers hResponse
  refine ⟨hToken, ?_⟩
  rw [hBodies _ (Or.inl rfl) _ hBody]
  rfl

end Response

end PresentationVerifier
