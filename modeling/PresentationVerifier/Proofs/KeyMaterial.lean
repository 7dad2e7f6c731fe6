import PresentationVerifier.Proofs.Soundness

/-!
# Keys and their metadata

A JSON Web Key says which point it is, and it may say more: an identifier, a purpose, certificates. The
point is read from its own members only (`Jwk.material?_congr`). But a key that says anything more than its
point is not taken at all, even where it is the only key there is (`PublicKey.ofJwk_of_annotated`): neither
as the key of a holder nor as the key that a credential is bound to. A member that is `null` says nothing.

Main results:

* `PublicKey.ofJwk_eq_ok_iff`: the keys that are taken.
* `Jwk.bare_iff`: which objects have no metadata.
* `PublicKey.ofJwk_material`: keys with the same point and other metadata.
-/

namespace PresentationVerifier

/-! ## Points -/

/-- Numbers are the coordinates of a key as they are, not reduced by the order of the field. -/
theorem PublicKey.ofCoordinates?_eq_some_iff {x y : Nat} {key : PublicKey} :
    ofCoordinates? x y = some key ↔ x = key.x.val ∧ y = key.y.val := by
  constructor
  · intro h
    unfold ofCoordinates? at h
    split at h
    · next hBounds =>
      dsimp only at h
      split at h
      · obtain rfl := Option.some.inj h
        exact ⟨(Nat.mod_eq_of_lt hBounds.1).symm, (Nat.mod_eq_of_lt hBounds.2).symm⟩
      · cases h
    · cases h
  -- the coordinates of a key are below the order of the field already
  · rintro ⟨rfl, rfl⟩
    have hx : Fin.ofNat P256.fieldOrder key.x.val = key.x := Fin.ext (Nat.mod_eq_of_lt key.x.isLt)
    have hy : Fin.ofNat P256.fieldOrder key.y.val = key.y := Fin.ext (Nat.mod_eq_of_lt key.y.isLt)
    unfold ofCoordinates?
    rw [if_pos ⟨key.x.isLt, key.y.isLt⟩]
    simp only [hx, hy, dif_pos key.onCurve]

/-- The members of a key's type say that it is this key: an elliptic curve key on P-256, with the two
coordinates in full length. -/
def Jwk.Material.Describes (m : Jwk.Material) (key : PublicKey) : Prop :=
  ∃ x y privatePart, m = .ellipticCurve (some "P-256") (some x) (some y) privatePart ∧
    x.length = 32 ∧ y.length = 32 ∧ Hash.bigEndian x = key.x.val ∧ Hash.bigEndian y = key.y.val

namespace PublicKey

/-! ## Which keys are taken -/

/-- A key with metadata is not taken, whatever its point is. -/
theorem ofJwk_of_annotated {k : Jwk} (h : k.metadata ≠ .empty) :
    ofJwk k = .error .unsupportedJwk := by
  unfold ofJwk
  -- the other branch is the one for a key without metadata
  split
  · next hNone _ => exact absurd hNone h
  · rfl

/-- A key without metadata that describes a point is taken as the key with that point. -/
theorem ofJwk_of_describes {k : Jwk} {key : PublicKey} (hBare : k.metadata = .empty)
    (hKey : k.material.Describes key) : ofJwk k = .ok key := by
  obtain ⟨x, y, privatePart, hMaterial, hx, hy, hPoint⟩ := hKey
  have hCoordinates := ofCoordinates?_eq_some_iff.mpr hPoint
  rw [Jwk.Metadata.empty] at hBare
  unfold ofJwk
  rw [hBare, hMaterial]
  simp only [if_pos (And.intro hx hy), hCoordinates]

/-- The keys that are taken are those without metadata that describe a point. -/
theorem ofJwk_eq_ok_iff {k : Jwk} {key : PublicKey} :
    ofJwk k = .ok key ↔ k.metadata = .empty ∧ k.material.Describes key := by
  constructor
  · intro h
    -- it has no metadata, coordinates of full length, and they give a point
    unfold ofJwk at h
    split at h
    · next x y privatePart hBare hMaterial =>
      split at h
      · next hLengths =>
        split at h
        · next found hFound =>
          obtain rfl := Except.ok.inj h
          have hPoint := ofCoordinates?_eq_some_iff.mp hFound
          exact ⟨hBare, x, y, privatePart, hMaterial, hLengths.1, hLengths.2, hPoint⟩
        · cases h
      · cases h
    · cases h
  · rintro ⟨hBare, hKey⟩
    exact ofJwk_of_describes hBare hKey

end PublicKey

namespace Jwk

/-! ## Members -/

/-- There is no member of the name, or it is `null`. -/
def Absent (o : Json.Object) (name : String) : Prop :=
  o.get? name = none ∨ o.get? name = some .null

/-- The object of a key that says nothing but which key it is. -/
def Bare (o : Json.Object) : Prop :=
  ∀ name ∈ metadataNames, Absent o name

/-- An optional member says nothing when there is none, or it is `null`. -/
theorem optional_eq_none_iff {α : Type} {o : Json.Object} {name : String} {read : Json → Option α} :
    optional o name read = some none ↔ Absent o name := by
  unfold optional Absent
  cases o.get? name with
  | none => simp
  | some v => cases v <;> simp [Json.nullable]

/-- An optional member that could be read is missing from the key just when the object has none. -/
theorem eq_none_iff_of_optional {α : Type} {o : Json.Object} {name : String} {read : Json → Option α}
    {a : Option α} (h : optional o name read = some a) : a = none ↔ Absent o name := by
  constructor
  · rintro rfl
    exact optional_eq_none_iff.mp h
  · intro hAbsent
    have hNone : optional o name read = some none := optional_eq_none_iff.mpr hAbsent
    rw [hNone] at h
    exact (Option.some.inj h).symm

/-- A key has no metadata just when its object has none. -/
theorem bare_iff {o : Json.Object} {k : Jwk} (h : ofJson? (.object o) = some k) :
    k.metadata = .empty ↔ Bare o := by
  obtain ⟨metadata, hMetadata, hRest⟩ := Option.bind_eq_some_iff.mp h
  have hSame : k.metadata = metadata := by
    split at hRest
    · cases hRest
    · obtain ⟨material, -, hk⟩ := Option.bind_eq_some_iff.mp hRest
      rw [← Option.some.inj hk]
  -- one member after the other is read, and each is missing just when the object has none
  unfold metadata? at hMetadata
  obtain ⟨usage, hUsage, hMetadata⟩ := Option.bind_eq_some_iff.mp hMetadata
  obtain ⟨operations, hOperations, hMetadata⟩ := Option.bind_eq_some_iff.mp hMetadata
  obtain ⟨algorithm, hAlgorithm, hMetadata⟩ := Option.bind_eq_some_iff.mp hMetadata
  obtain ⟨keyId, hKeyId, hMetadata⟩ := Option.bind_eq_some_iff.mp hMetadata
  obtain ⟨url, hUrl, hMetadata⟩ := Option.bind_eq_some_iff.mp hMetadata
  obtain ⟨chain, hChain, hMetadata⟩ := Option.bind_eq_some_iff.mp hMetadata
  obtain ⟨sha1, hSha1, hMetadata⟩ := Option.bind_eq_some_iff.mp hMetadata
  obtain ⟨sha256, hSha256, hMetadata⟩ := Option.bind_eq_some_iff.mp hMetadata
  rw [hSame, ← Option.some.inj hMetadata, Metadata.empty, Metadata.mk.injEq,
    eq_none_iff_of_optional hUsage, eq_none_iff_of_optional hOperations,
    eq_none_iff_of_optional hAlgorithm, eq_none_iff_of_optional hKeyId, eq_none_iff_of_optional hUrl,
    eq_none_iff_of_optional hChain, eq_none_iff_of_optional hSha1, eq_none_iff_of_optional hSha256]
  simp only [Bare, metadataNames, List.forall_mem_cons, List.not_mem_nil, false_imp_iff, implies_true,
    and_true]

/-- Objects with the same members but for those of the metadata. -/
def AgreeOnMaterial (o o' : Json.Object) : Prop :=
  ∀ name, name ∉ metadataNames → o.get? name = o'.get? name

theorem agreeOnMaterial_insert (o : Json.Object) {name : String} (h : name ∈ metadataNames) (v : Json) :
    AgreeOnMaterial o (o.insert name v) := by
  intro other hOther
  rw [Json.Object.get?_insert, if_neg]
  rintro rfl
  exact hOther h

/-- The key itself is read from its own members. -/
theorem material?_congr {o o' : Json.Object} (h : AgreeOnMaterial o o') :
    material? o = material? o' := by
  -- each member that is read of it is none of the metadata
  have hOptional : ∀ {α : Type} (name : String) (read : Json → Option α), name ∉ metadataNames →
      optional o name read = optional o' name read := by
    intro α name read hName
    rw [optional, optional, h name hName]
  have hRequired : ∀ {α : Type} (name : String) (read : Json → Option α), name ∉ metadataNames →
      required o name read = required o' name read := by
    intro α name read hName
    rw [required, required, h name hName]
  unfold material?
  simp (disch := decide) only [hOptional, hRequired, List.mapM_cons, List.mapM_nil]

/-- The key in an object is what the members of its type say. -/
theorem material?_of_ofJson? {o : Json.Object} {k : Jwk} (h : ofJson? (.object o) = some k) :
    material? o = some k.material := by
  obtain ⟨metadata, -, hRest⟩ := Option.bind_eq_some_iff.mp h
  split at hRest
  · cases hRest
  · obtain ⟨material, hMaterial, hk⟩ := Option.bind_eq_some_iff.mp hRest
    rw [hMaterial, ← Option.some.inj hk]

/-- Keys whose objects differ in metadata only are the same key. -/
theorem material_eq_of_agree {o o' : Json.Object} (h : AgreeOnMaterial o o') {k k' : Jwk}
    (hk : ofJson? (.object o) = some k) (hk' : ofJson? (.object o') = some k') :
    k.material = k'.material := by
  have hSame := material?_congr h
  rw [material?_of_ofJson? hk, material?_of_ofJson? hk'] at hSame
  exact Option.some.inj hSame

end Jwk

/-! ## Where keys are used -/

/-- What comes of a key in JSON wherever it stands: by itself, as the key of all holders, and as the key that
a credential is bound to. -/
structure Resolves (o : Json.Object) (k : Jwk) (answer : Except KeyError PublicKey) : Prop where
  direct : PublicKey.ofJwk k = answer
  held : ∀ presentation, (KeyResolver.static k).holderKey presentation = answer
  bound : ∀ payload cnf, Json.Object.get? payload "cnf" = some cnf →
    cnf.member? "jwk" = some (.object o) → PublicKey.ofConfirmation payload = answer

/-- A key comes to the same wherever it stands. -/
theorem resolves_ofJwk {o : Json.Object} {k : Jwk} (h : Jwk.ofJson? (.object o) = some k) :
    Resolves o k (PublicKey.ofJwk k) where
  direct := rfl
  held _ := rfl
  bound payload cnf hClaim hMember := by
    -- the member `jwk` of the confirmation is this object
    have hFound : ((Json.Object.get? payload "cnf").bind fun cnf => cnf.member? "jwk") =
        some (.object o) := by
      rw [hClaim, Option.bind_some, hMember]
    unfold PublicKey.ofConfirmation
    simp only [hFound, h]

/-- **Keys and their metadata.** Let a value be a key, of which the members of its type describe a point.
Whatever else of its metadata is added, changed or left out, the result is a key with that point: one that is
taken where nothing but the point is said, and that is refused as unsupported where anything more is. -/
theorem PublicKey.ofJwk_material {o : Json.Object} {k : Jwk} {key : PublicKey}
    (hRead : Jwk.ofJson? (.object o) = some k) (hKey : k.material.Describes key) {o' : Json.Object}
    (hAgree : Jwk.AgreeOnMaterial o o') {k' : Jwk} (hRead' : Jwk.ofJson? (.object o') = some k') :
    k'.material.Describes key ∧ (Jwk.Bare o' → Resolves o' k' (.ok key)) ∧
      (¬Jwk.Bare o' → Resolves o' k' (.error .unsupportedJwk)) := by
  have hSame : k'.material.Describes key := by
    rw [← Jwk.material_eq_of_agree hAgree hRead hRead']
    exact hKey
  have hResolves := resolves_ofJwk hRead'
  refine ⟨hSame, fun hBare => ?_, fun hAnnotated => ?_⟩
  · have hNone : k'.metadata = .empty := (Jwk.bare_iff hRead').mpr hBare
    rwa [ofJwk_of_describes hNone hSame] at hResolves
  · have hSome : k'.metadata ≠ .empty := fun hNone => hAnnotated ((Jwk.bare_iff hRead').mp hNone)
    rwa [ofJwk_of_annotated hSome] at hResolves

/-- The base point of the group as a key, with nothing else said of it. -/
def Jwk.baseObject : Json.Object :=
  [("crv", .string "P-256"), ("kty", .string "EC"),
    ("x", .string "axfR8uEsQkf4vOblY6RA8ncDfYEt6zOg9KE5RdiYwpY"),
    ("y", .string "T-NC4v4af5uO5-tKfA-eFivOM1drMV7Oy7ZAaDe_UfU")]

/-- The base point is a key that is taken. -/
theorem Jwk.ofJson?_baseObject :
    ∃ k, ofJson? (.object baseObject) = some k ∧ PublicKey.ofJwk k = .ok Run.baseKey := by
  have hRead : (ofJson? (.object baseObject)).map (fun k => (PublicKey.ofJwk k).toOption) =
      some (some Run.baseKey) := by
    decide +kernel
  obtain ⟨k, hk, hTaken⟩ := Option.map_eq_some_iff.mp hRead
  exact ⟨k, hk, toOption_eq_some.mp hTaken⟩

/-- A purpose that is `null` changes nothing, and with an algorithm, even the one that such keys are for, the
key is refused. -/
theorem PublicKey.ofJwk_material_algorithm :
    ∃ k' k'', Jwk.ofJson? (.object (Json.Object.insert Jwk.baseObject "use" .null)) = some k' ∧
      Resolves (Json.Object.insert Jwk.baseObject "use" .null) k' (.ok Run.baseKey) ∧
      Jwk.ofJson? (.object (Json.Object.insert Jwk.baseObject "alg" (.string "ES256"))) = some k'' ∧
      Resolves (Json.Object.insert Jwk.baseObject "alg" (.string "ES256")) k''
        (.error .unsupportedJwk) := by
  obtain ⟨k, hk, hTaken⟩ := Jwk.ofJson?_baseObject
  have hKey := (ofJwk_eq_ok_iff.mp hTaken).2
  have hUse : Jwk.AgreeOnMaterial Jwk.baseObject (Json.Object.insert Jwk.baseObject "use" .null) :=
    Jwk.agreeOnMaterial_insert Jwk.baseObject (by decide) .null
  have hAlg : Jwk.AgreeOnMaterial Jwk.baseObject
      (Json.Object.insert Jwk.baseObject "alg" (.string "ES256")) :=
    Jwk.agreeOnMaterial_insert Jwk.baseObject (by decide) (.string "ES256")
  obtain ⟨k', hk'⟩ := Option.isSome_iff_exists.mp
    (show (Jwk.ofJson? (.object (Json.Object.insert Jwk.baseObject "use" .null))).isSome = true by
      decide +kernel)
  obtain ⟨k'', hk''⟩ := Option.isSome_iff_exists.mp
    (show (Jwk.ofJson? (.object (Json.Object.insert Jwk.baseObject "alg" (.string "ES256")))).isSome =
        true by
      decide +kernel)
  obtain ⟨-, hBare, -⟩ := ofJwk_material hk hKey hUse hk'
  obtain ⟨-, -, hAnnotated⟩ := ofJwk_material hk hKey hAlg hk''
  refine ⟨k', k'', hk', hBare ?_, hk'', hAnnotated ?_⟩
  · intro name hName
    simp only [Jwk.metadataNames, List.mem_cons, List.not_mem_nil, or_false] at hName
    -- the purpose is `null`, and of the others there is none
    rcases hName with rfl | rfl | rfl | rfl | rfl | rfl | rfl | rfl
    · exact Or.inr rfl
    all_goals exact Or.inl rfl
  · intro hNone
    rcases hNone "alg" (by decide) with hMissing | hNull
    · cases hMissing
    · cases hNull

/-- With an identifier the same key is refused. -/
theorem PublicKey.ofJwk_of_identified :
    ∃ k k', Jwk.ofJson? (.object Jwk.baseObject) = some k ∧ ofJwk k = .ok Run.baseKey ∧
      Jwk.ofJson? (.object (Json.Object.insert Jwk.baseObject "kid" (.string "1"))) = some k' ∧
      k'.material.Describes Run.baseKey ∧ ofJwk k' = .error .unsupportedJwk := by
  obtain ⟨k, hk, hTaken⟩ := Jwk.ofJson?_baseObject
  have hRead : (Jwk.ofJson? (.object (Json.Object.insert Jwk.baseObject "kid" (.string "1")))).map
      (fun k' => k'.metadata.keyId) = some (some "1") := by
    decide +kernel
  obtain ⟨k', hk', hId⟩ := Option.map_eq_some_iff.mp hRead
  have hAgree : Jwk.AgreeOnMaterial Jwk.baseObject
      (Json.Object.insert Jwk.baseObject "kid" (.string "1")) :=
    Jwk.agreeOnMaterial_insert Jwk.baseObject (by decide) (.string "1")
  have hKey : k'.material.Describes Run.baseKey := by
    rw [← Jwk.material_eq_of_agree hAgree hk hk']
    exact (ofJwk_eq_ok_iff.mp hTaken).2
  refine ⟨k, k', hk, hTaken, hk', hKey, ofJwk_of_annotated ?_⟩
  intro hNone
  rw [hNone] at hId
  cases hId

end PresentationVerifier
