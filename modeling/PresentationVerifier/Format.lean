import PresentationVerifier.Json.Basic

/-!
# Credential formats

The format of a presentation or credential, by its registered name. A form body that was not escaped
properly turns the plus sign of `vc+sd-jwt` into a space, so that spelling is read as the same format.
-/

namespace PresentationVerifier

/-- The format of a presentation or credential. -/
inductive CredentialFormat where
  | jwt
  | jwtVc
  | jwtVp
  | ldp
  | ldpVc
  | ldpVp
  | acVc
  | acVp
  | msoMdoc
  | sdJwt
  | vcSdJwt
  /-- A format without a registered name. -/
  | other (name : String)
deriving DecidableEq, Repr

namespace CredentialFormat

/-- The formats with a registered name. -/
def registered : List CredentialFormat :=
  [jwt, jwtVc, jwtVp, ldp, ldpVc, ldpVp, acVc, acVp, msoMdoc, sdJwt, vcSdJwt]

/-- The name of a format. -/
def name : CredentialFormat → String
  | jwt => "jwt"
  | jwtVc => "jwt_vc"
  | jwtVp => "jwt_vp"
  | ldp => "ldp"
  | ldpVc => "ldp_vc"
  | ldpVp => "ldp_vp"
  | acVc => "ac_vc"
  | acVp => "ac_vp"
  | msoMdoc => "mso_mdoc"
  | sdJwt => "sd_jwt"
  | vcSdJwt => "vc+sd-jwt"
  | other name => name

/-- The name of the format `vcSdJwt` after its plus sign was taken for a space. -/
def unescapedName : String := "vc sd-jwt"

/-- The format of a name. -/
def ofName (s : String) : CredentialFormat :=
  if s = unescapedName then vcSdJwt
  else (registered.find? fun f => f.name == s).getD (other s)

/-- A registered format is found by its name. -/
theorem ofName_name {f : CredentialFormat} (h : f ∈ registered) : ofName f.name = f := by
  simp only [registered, List.mem_cons, List.not_mem_nil, or_false] at h
  rcases h with rfl | rfl | rfl | rfl | rfl | rfl | rfl | rfl | rfl | rfl | rfl <;> decide +kernel

/-- A format as a JSON value. -/
def toJson (f : CredentialFormat) : Json :=
  .string f.name

/-- The format of a JSON value. -/
def ofJson? (v : Json) : Option CredentialFormat :=
  v.asString?.map ofName

end CredentialFormat

end PresentationVerifier
