import PresentationVerifier.Proofs.Binding
import PresentationVerifier.Proofs.Soundness

/-!
# The type of a Key Binding JWT

A Key Binding JWT has a type of its own, so that no other JWT with a signature of the holder can stand in
its place. The check of it only refuses a header whose type is a string, and another one. A JWT without a
type, or with one that is no string, passes like one of the right type (`checkBinding_of_untyped`), and so
does the JWT that a holder signed as a presentation.

Main results:

* `checkBinding_of_untyped`: without a string for its type a JWT is checked as one of the right type.
* `verify_type`: what the header says where holder binding passes.
-/

namespace PresentationVerifier

namespace Token

/-- The token with another type in its header. All else stays, the text that was signed included. -/
def withType (t : Token) (typ : String) : Token :=
  { t with header := t.header.insert "typ" (.string typ) }

theorem type?_withType (t : Token) (typ : String) : (t.withType typ).type? = some typ := by
  -- an inserted member is the one that is found
  rw [type?, withType, Json.Object.get?_insert, if_pos rfl]
  rfl

theorem algorithm?_withType (t : Token) (typ : String) :
    (t.withType typ).algorithm? = t.algorithm? := by
  rw [algorithm?, withType, Json.Object.get?_insert, if_neg (by decide)]
  rfl

end Token

/-- A key verifies a token the same whatever the type is said to be. -/
theorem PublicKey.verifyToken_withType (k : PublicKey) (t : Token) (typ : String) :
    k.verifyToken (t.withType typ) = k.verifyToken t := by
  unfold verifyToken
  rw [Token.algorithm?_withType]
  rfl

namespace HolderBinding

/-- The type is no part of what the signature is verified over. -/
theorem checkSignature_withType (options : Options) (resolver : KeyResolver)
    (credential binding : Token) (typ : String) :
    checkSignature options resolver credential (binding.withType typ) =
      checkSignature options resolver credential binding := by
  unfold checkSignature verifySignature
  simp only [PublicKey.verifyToken_withType]

/-- A JWT without a string for its type is checked as if it had the right one. -/
theorem checkBinding_of_untyped {x : Expectations} {options : Options} {resolver : KeyResolver}
    {credential binding : Token} (h : ∀ typ, binding.header.get? "typ" ≠ some (.string typ)) :
    checkBinding x options resolver credential binding =
      checkBinding x options resolver credential (binding.withType "kb+jwt") := by
  have hNone : binding.type? = none :=
    Option.eq_none_iff_forall_ne_some.mpr fun typ hType => h typ (Token.type?_eq_some_iff.mp hType)
  -- both pass the check of the type, and the checks after it read nothing of the type
  have hUntyped : checkType binding = .ok () := by
    rw [checkType, hNone]
  have hTyped : checkType (binding.withType "kb+jwt") = .ok () := by
    rw [checkType, Token.type?_withType]
    rfl
  unfold checkBinding
  rw [hUntyped, hTyped, checkSignature_withType]
  rfl

/-- A JWT with a string for its type that is not the right one is refused, before its signature is
verified. -/
theorem checkBinding_of_mistyped {x : Expectations} {options : Options} {resolver : KeyResolver}
    {credential binding : Token} {typ : String}
    (h : binding.header.get? "typ" = some (.string typ)) (hOther : typ ≠ "kb+jwt") :
    checkBinding x options resolver credential binding =
      .error (.rejected .holderBinding (.malformedClaim "typ")) := by
  have hMistyped : checkType binding = .error (.malformedClaim "typ") := by
    rw [checkType, Token.type?_eq_some_iff.mpr h]
    exact if_neg hOther
  unfold checkBinding
  rw [hMistyped]
  rfl

/-- **The type of a Key Binding JWT** is the right one wherever holder binding passes and it is a string at
all. Another string is refused; a JWT without one is checked as if its type were right. -/
theorem verify_type {x : Expectations} {options : Options} {resolver : KeyResolver}
    {credential : Token} {text : String} (hBinding : credential.keyBinding = some text) :
    (verify x options resolver credential = .ok () → ∃ binding, Token.ofJws text = .ok binding ∧
      (binding.header.get? "typ" = some (.string "kb+jwt") ↔
        ∃ typ, binding.header.get? "typ" = some (.string typ))) ∧
    ∀ binding, Token.ofJws text = .ok binding →
      ((∀ typ, binding.header.get? "typ" ≠ some (.string typ)) →
        verify x options resolver credential =
          checkBinding x options resolver credential (binding.withType "kb+jwt")) ∧
      ∀ typ, binding.header.get? "typ" = some (.string typ) → typ ≠ "kb+jwt" →
        verify x options resolver credential =
          .error (.rejected .holderBinding (.malformedClaim "typ")) := by
  have hVerify : ∀ {binding}, Token.ofJws text = .ok binding →
      verify x options resolver credential = checkBinding x options resolver credential binding := by
    intro binding hRead
    unfold verify
    simp only [hBinding, hRead]
  -- where it passes, the text was read, and a wrong type would have been refused
  refine ⟨fun hOk => ?_, fun binding hRead => ⟨fun hUntyped => ?_, fun typ hType hOther => ?_⟩⟩
  · cases hRead : Token.ofJws text with
    | error e =>
      unfold verify at hOk
      simp [hBinding, hRead] at hOk
    | ok binding =>
      refine ⟨binding, rfl, fun hRight => ⟨_, hRight⟩, ?_⟩
      rintro ⟨typ, hType⟩
      by_contra hWrong
      have hOther : typ ≠ "kb+jwt" := by
        rintro rfl
        exact hWrong hType
      rw [hVerify hRead, checkBinding_of_mistyped hType hOther] at hOk
      cases hOk
  · rw [hVerify hRead]
    exact checkBinding_of_untyped hUntyped
  · rw [hVerify hRead]
    exact checkBinding_of_mistyped hType hOther

/-- A type that is `null` is checked as the right one. -/
theorem verify_type_null :
    ∃ t binding, Token.ofJws "e30.e30.AQ~eyJ0eXAiOm51bGx9.e30.Ag" = .ok t ∧
      t.keyBinding = some "eyJ0eXAiOm51bGx9.e30.Ag" ∧
      Token.ofJws "eyJ0eXAiOm51bGx9.e30.Ag" = .ok binding ∧
      ∀ x options resolver, verify x options resolver t =
        checkBinding x options resolver t (binding.withType "kb+jwt") := by
  have hCredential : (Token.ofJws "e30.e30.AQ~eyJ0eXAiOm51bGx9.e30.Ag").toOption.map Token.keyBinding =
      some (some "eyJ0eXAiOm51bGx9.e30.Ag") := by
    decide +kernel
  have hJwt : (Token.ofJws "eyJ0eXAiOm51bGx9.e30.Ag").toOption.map Token.type? = some none := by
    decide +kernel
  obtain ⟨t, hToken, hBinding⟩ := toOption_map_eq_some.mp hCredential
  obtain ⟨binding, hRead, hType⟩ := toOption_map_eq_some.mp hJwt
  refine ⟨t, binding, hToken, hBinding, hRead, fun x options resolver => ?_⟩
  obtain ⟨-, hChecked⟩ := verify_type (x := x) hBinding
  refine (hChecked binding hRead).1 fun typ hSome => ?_
  rw [Token.type?_eq_some_iff.mpr hSome] at hType
  cases hType

/-- The holder of the base key signed a presentation; behind a credential that is bound to this key it
passes as a Key Binding JWT, with no check left out. -/
theorem verify_of_presentation :
    ∃ t binding, Token.ofJws ("e30.e30.AQ~" ++ Run.signedText) = .ok t ∧
      t.keyBinding = some Run.signedText ∧ Token.ofJws Run.signedText = .ok binding ∧
      verify ⟨none, none, ⟨0, 0⟩⟩ {} { Run.baseContext.resolver with boundKey := fun _ => .ok Run.baseKey }
        t = .ok () ∧
      binding.header.get? "typ" = none := by
  have hCredential : (Token.ofJws ("e30.e30.AQ~" ++ Run.signedText)).toOption.map Token.keyBinding =
      some (some Run.signedText) := by
    decide +kernel
  obtain ⟨t, hToken, hBinding⟩ := toOption_map_eq_some.mp hCredential
  -- the presentation that is known to be signed, with no type in its header
  obtain ⟨binding, hRead, hSigned, hUntyped, hEmpty⟩ := Run.ofJws_signedText
  refine ⟨t, binding, hToken, hBinding, hRead, ?_, hUntyped⟩
  refine verify_eq_ok_iff.mpr (.inr ⟨_, binding, hBinding, hRead, ?_⟩)
  -- nothing is expected of the payload, which is empty: all that is left is the signature
  exact
    { type := fun typ hType => by
        rw [Token.type?_eq_some_iff, hUntyped] at hType
        cases hType
      signed := fun _ => hSigned
      issued := by
        rw [hEmpty]
        rfl
      audience := fun _ e hExpected => by cases hExpected
      nonce := fun _ n hExpected => by cases hExpected
      sdHash := fun v hHash => by
        rw [hEmpty] at hHash
        cases hHash }

end HolderBinding

end PresentationVerifier
