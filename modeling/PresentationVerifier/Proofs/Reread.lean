import Mathlib.Data.List.DropRight
import Mathlib.Data.List.TakeWhile
import PresentationVerifier.Presentation
import PresentationVerifier.Token.Envelope

/-!
# Reading a token again

A presented token is read twice: once as the presentation, from the text that was presented or that came
out of the last envelope, and once as the credential, from the text that the first reading kept. Both
readings give the same token, but for the mark that it came in an envelope.

Main results:

* `ofJws_raw_of_unwrap` — the text of a token that was taken out of its envelopes reads as that token
  without the mark.
* `extract_eq_ok_iff` — what a submission finds in such a token.
-/

namespace PresentationVerifier

/-! ## Results of computations -/

/-- Two computations in a row succeed exactly when the first does and then the second. -/
@[simp] theorem bind_eq_ok {ε α β : Type} {x : Except ε α} {f : α → Except ε β} {b : β} :
    (x >>= f) = .ok b ↔ ∃ a, x = .ok a ∧ f a = .ok b := by
  cases x with
  | error e => simp [bind, Except.bind]
  | ok a => simp [bind, Except.bind]

/-- Two checks in a row pass exactly when both do. -/
@[simp] theorem seq_eq_ok {ε β : Type} {x : Except ε Unit} {y : Except ε β} {b : β} :
    (x >>= fun _ => y) = .ok b ↔ x = .ok () ∧ y = .ok b := by
  rw [bind_eq_ok]
  exact ⟨fun ⟨(), hx, hy⟩ => ⟨hx, hy⟩, fun ⟨hx, hy⟩ => ⟨(), hx, hy⟩⟩

/-- A computation whose result is mapped succeeds exactly when it does itself. -/
@[simp] theorem map_eq_ok {ε α β : Type} {x : Except ε α} {f : α → β} {b : β} :
    x.map f = .ok b ↔ ∃ a, x = .ok a ∧ f a = b := by
  cases x with
  | error e => simp [Except.map]
  | ok a => simp [Except.map]

@[simp] theorem toOption_eq_some {ε α : Type} {x : Except ε α} {a : α} :
    x.toOption = some a ↔ x = .ok a := by
  cases x with
  | error e => simp [Except.toOption]
  | ok b => simp [Except.toOption]

/-- What is known of the result of a computation that succeeds, where it is read off that result. -/
@[simp] theorem toOption_map_eq_some {ε α β : Type} {x : Except ε α} {f : α → β} {b : β} :
    x.toOption.map f = some b ↔ ∃ a, x = .ok a ∧ f a = b := by
  cases x with
  | error e => simp [Except.toOption]
  | ok a => simp [Except.toOption]

/-- Two computations in a row fail exactly when the first does, or the second after it. -/
@[simp] theorem bind_eq_error {ε α β : Type} {x : Except ε α} {f : α → Except ε β} {e : ε} :
    (x >>= f) = .error e ↔ x = .error e ∨ ∃ a, x = .ok a ∧ f a = .error e := by
  cases x with
  | error e' => simp [bind, Except.bind]
  | ok a => simp [bind, Except.bind]

/-! ## Blanks -/

/-- What is left begins with no blank. -/
@[simp] theorem Text.dropWhile_trimBlanks (cs : List Char) :
    (Text.trimBlanks cs).dropWhile Text.isBlank = Text.trimBlanks cs := by
  rw [List.dropWhile_eq_self_iff]
  intro hl hBlank
  -- the first character that is left was not taken off at the front
  have hPrefix : Text.trimBlanks cs <+: cs.dropWhile Text.isBlank := List.rdropWhile_prefix _ _
  have hLength := hPrefix.length_le
  have hHead := List.dropWhile_get_zero_not Text.isBlank cs (by omega)
  rw [List.get_eq_getElem, ← hPrefix.getElem hl] at hHead
  exact hHead hBlank

/-- Blanks are taken off at the front first, and then at the back. -/
theorem Text.trimBlanks_eq (cs : List Char) :
    Text.trimBlanks cs = (cs.dropWhile Text.isBlank).rdropWhile Text.isBlank := rfl

/-- A text that has had its blanks taken off has none to take off. -/
@[simp] theorem Text.trimBlanks_trimBlanks (cs : List Char) :
    Text.trimBlanks (Text.trimBlanks cs) = Text.trimBlanks cs := by
  -- at the front there is none by the lemma above, and at the back taking off is idempotent
  rw [Text.trimBlanks_eq (Text.trimBlanks cs), Text.dropWhile_trimBlanks, Text.trimBlanks_eq cs,
    List.rdropWhile_idempotent]

namespace Token

/-! ## The text that a token keeps -/

/-- The token as it is when its text is read again, without a mark that it came in an envelope. -/
def reread (t : Token) : Token :=
  { t with decrypted := false }

/-- A token keeps the text it is made from, and it is not marked. -/
theorem ofSegments_eq_ok {raw structural header payload signature : List Char}
    {tail : List (List Char)} {t : Token}
    (h : ofSegments raw structural header payload signature tail = .ok t) :
    t.raw = String.ofList raw ∧ t.decrypted = false := by
  -- only the parts can fail, and neither the text nor the mark depends on them
  simp only [ofSegments, bind_eq_ok] at h
  obtain ⟨_, -, _, -, _, -, _, -, hToken⟩ := h
  cases hToken
  exact ⟨rfl, rfl⟩

/-- A signed token keeps the text that was classified, and it is not marked. -/
theorem shape_eq_signed {cs : List Char} {t : Token} (h : shape cs = .ok (.signed t)) :
    t.raw = String.ofList cs ∧ t.decrypted = false := by
  unfold shape at h
  split at h
  · cases h
  · dsimp only at h
    split at h
    · cases h
    · rw [map_eq_ok] at h
      obtain ⟨t', hToken, hShape⟩ := h
      cases hShape
      exact ofSegments_eq_ok hToken
    · cases h
    · cases h

/-- The text that a signed token keeps is read as that token once more. -/
theorem read_raw_of_read {text : String} {t : Token} (h : read text = .ok (.signed t)) :
    read t.raw = .ok (.signed t) := by
  have hRaw := (shape_eq_signed h).1
  -- the text that was kept has no blanks around it, so that taking them off changes nothing
  rw [read, hRaw, String.toList_ofList, Text.trimBlanks_trimBlanks]
  exact h

/-- A text is taken as a signed token exactly when it is read as one: an envelope is refused here. -/
theorem ofJws_eq_ok_iff {text : String} {t : Token} :
    ofJws text = .ok t ↔ read text = .ok (.signed t) := by
  unfold ofJws
  cases h : read text with
  | error e => simp
  | ok s =>
    cases s with
    | signed t' => simp
    | encrypted jwe => simp

theorem reread_of_read {text : String} {t : Token} (h : read text = .ok (.signed t)) :
    t.reread = t := by
  have hMark := (shape_eq_signed h).2
  cases t
  cases hMark
  rfl

/-! ## Envelopes -/

/-- A token is there directly, or it was taken out of what an envelope holds. -/
theorem unwrapWithin_eq_ok {decrypter : Option Decrypter} {limit remaining : Nat} {text : String}
    {t : Token} (h : (unwrapWithin decrypter limit remaining text).result = .ok t) :
    read text = .ok (.signed t) ∨
      ∃ jwe decrypt bytes inner rest t', remaining = rest + 1 ∧ read text = .ok (.encrypted jwe) ∧
        decrypter = some decrypt ∧ decrypt jwe = .ok bytes ∧ Encoding.utf8Text? bytes = some inner ∧
        (unwrapWithin decrypter limit rest inner).result = .ok t' ∧ t = t'.markDecrypted := by
  -- of all the ways in which this can end two give a token
  rw [unwrapWithin.eq_def] at h
  cases hRead : read text with
  | error e => simp [hRead] at h
  | ok s =>
    cases s with
    | signed t' =>
      simp only [hRead, Except.ok.injEq] at h
      exact Or.inl (by rw [h])
    | encrypted jwe =>
      cases remaining with
      | zero => simp [hRead] at h
      | succ rest =>
        cases decrypter with
        | none => simp [hRead] at h
        | some decrypt =>
          cases hDecrypt : decrypt jwe with
          | error cause => simp [hRead, hDecrypt] at h
          | ok bytes =>
            cases hText : Encoding.utf8Text? bytes with
            | none => simp [hRead, hDecrypt, hText] at h
            | some inner =>
              simp only [hRead, hDecrypt, hText, map_eq_ok] at h
              obtain ⟨t', hInner, hMark⟩ := h
              exact Or.inr ⟨jwe, decrypt, bytes, inner, rest, t', rfl, rfl, rfl, hDecrypt, hText,
                hInner, hMark.symm⟩

/-- A signed token is taken as it is, whoever opens envelopes and however many may be opened. -/
theorem unwrapWithin_of_signed {text : String} {t : Token} (h : read text = .ok (.signed t))
    (decrypter : Option Decrypter) (limit remaining : Nat) :
    (unwrapWithin decrypter limit remaining text).result = .ok t := by
  rw [unwrapWithin.eq_def]
  simp only [h]

/-- A token in an envelope is what the text in it gives, marked, at the cost of one level. -/
theorem unwrapWithin_of_encrypted {decrypt : Decrypter} {limit remaining : Nat}
    {text jwe inner : String} {bytes : List UInt8} {t : Token}
    (hRead : read text = .ok (.encrypted jwe)) (hDecrypt : decrypt jwe = .ok bytes)
    (hText : Encoding.utf8Text? bytes = some inner)
    (hInner : (unwrapWithin (some decrypt) limit remaining inner).result = .ok t) :
    (unwrapWithin (some decrypt) limit (remaining + 1) text).result = .ok t.markDecrypted := by
  rw [unwrapWithin.eq_def]
  simp only [hRead, hDecrypt, hText, hInner]
  rfl

/-- A token out of any number of envelopes is what its own text reads as, but for the mark. -/
theorem ofJws_raw_of_unwrapWithin {decrypter : Option Decrypter} {limit remaining : Nat}
    {text : String} {t : Token}
    (h : (unwrapWithin decrypter limit remaining text).result = .ok t) :
    ofJws t.raw = .ok t.reread := by
  -- by induction on the levels that are left, for every text an envelope may hold
  induction remaining generalizing text t with
  | zero =>
    obtain hRead | ⟨_, _, _, _, _, _, hRemaining, _⟩ := unwrapWithin_eq_ok h
    · rw [reread_of_read hRead, ofJws_eq_ok_iff]
      exact read_raw_of_read hRead
    · cases hRemaining
  | succ remaining ih =>
    obtain hRead | ⟨jwe, decrypt, bytes, inner, rest, t', hRemaining, -, -, -, -, hInner, rfl⟩ :=
      unwrapWithin_eq_ok h
    · rw [reread_of_read hRead, ofJws_eq_ok_iff]
      exact read_raw_of_read hRead
    · -- the mark is all that the envelope has left on the token
      obtain rfl : remaining = rest := Nat.succ.inj hRemaining
      show ofJws t'.raw = .ok t'.reread
      exact ih hInner

/-- A token that was taken out of its envelopes is, but for the mark, what its own text reads as. -/
theorem ofJws_raw_of_unwrap {decrypter : Option Decrypter} {limit : Nat} {text : String} {t : Token}
    (h : (unwrap decrypter limit text).result = .ok t) : ofJws t.raw = .ok t.reread :=
  ofJws_raw_of_unwrapWithin h

end Token

/-! ## Extraction -/

/-- A submission has the form that is supported: one descriptor, of a presented token itself, for a
credential of the format that is supported. -/
def Submission.Supported (s : Submission) : Prop :=
  ∃ d, s.descriptors = [d] ∧ d.path = Descriptor.rootPath ∧ d.nested = none ∧ d.format = .vcSdJwt

namespace Presentation

/-- The one descriptor that is supported is found exactly in a submission that has no other, where it is not
nested, points at the token and names the supported format. -/
theorem supportedDescriptor_eq_ok_iff {s : Submission} {d : Descriptor} :
    supportedDescriptor s = .ok d ↔
      s.descriptors = [d] ∧ d.path = Descriptor.rootPath ∧ d.nested = none ∧ d.format = .vcSdJwt := by
  unfold supportedDescriptor
  split
  · next d' hOne =>
    rw [hOne]
    constructor
    -- each of the three refusals rules out what it tests, and what is left is the descriptor
    · intro h
      split at h
      · cases h
      · next hNested =>
        split at h
        · cases h
        · next hPath =>
          split at h
          · cases h
          · next hFormat =>
            obtain rfl := Except.ok.inj h
            simp only [Bool.not_eq_true, Option.isSome_eq_false_iff, Option.isNone_iff_eq_none,
              Bool.not_eq_eq_eq_not, Bool.not_true, Bool.not_eq_false, ne_eq, not_not,
              Descriptor.isRoot, beq_iff_eq] at hNested hPath hFormat
            exact ⟨rfl, hPath, hNested, hFormat⟩
    · rintro ⟨hSame, hPath, hNested, hFormat⟩
      obtain rfl : d' = d := by simpa using hSame
      simp [hNested, hFormat, Descriptor.isRoot, hPath]
  · next hMany =>
    simp only [reduceCtorEq, false_iff]
    rintro ⟨hOne, -⟩
    exact hMany d hOne

/-- What a submission finds in a token that reads again as itself: that token, if the submission is
supported and the header's type metadata is well-formed. -/
theorem extract_eq_ok_iff {s : Submission} {t : Token} (hRaw : Token.ofJws t.raw = .ok t.reread)
    {credentials : List Credential} :
    extract s t = .ok credentials ↔
      s.Supported ∧ ∃ metadata, Credential.typeMetadata? t.header = .ok metadata ∧
        credentials = [⟨.vcSdJwt, t.reread, metadata, []⟩] := by
  -- the type metadata is read from the header, which the mark does not touch
  have hHeader : t.reread.header = t.header := rfl
  unfold extract
  simp only [hRaw, bind_eq_ok, supportedDescriptor_eq_ok_iff, Credential.ofToken, hHeader, pure,
    Except.pure, Except.ok.injEq]
  constructor
  · rintro ⟨d, ⟨hOne, hPath, hNested, hFormat⟩, c, ⟨metadata, hMetadata, rfl⟩, rfl⟩
    exact ⟨⟨d, hOne, hPath, hNested, hFormat⟩, metadata, hMetadata, by rw [hFormat]⟩
  · rintro ⟨⟨d, hOne, hPath, hNested, hFormat⟩, metadata, hMetadata, rfl⟩
    exact ⟨d, ⟨hOne, hPath, hNested, hFormat⟩, _, ⟨metadata, hMetadata, rfl⟩, by rw [hFormat]⟩

end Presentation

end PresentationVerifier
