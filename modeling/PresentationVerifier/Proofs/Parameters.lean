import PresentationVerifier.Proofs.Nesting
import PresentationVerifier.Record
import PresentationVerifier.Response.Parameter

/-!
# Parameters as lenses

A parameter that is set in an object can be read from it again, and nothing else in the object changes. The
first half asks of each type that its JSON values are read back: a list of presentations is written
without the array if it has one element and read back as a list all the same, and a descriptor is written
without the member for a nested one if it has none. A format is written by its name, so it is read back if it
is the format of some name (`CredentialFormat.ofName_name_ofName`).

A record writes the submission by itself, and writes the same.

Main results:

* `VpToken.listOfJson_listToJson`, `Submission.ofJson?_toJson`: values that are read back.
* `Record.submissionJson_eq`: the submission in a record.
* `Parameter.insert_lens`: setting and reading parameters.
-/

namespace PresentationVerifier

/-- What was written value by value is read back if each value is. -/
theorem mapM_map_of_inverse {m : Type → Type} [Monad m] [LawfulMonad m] {α β : Type} {read : β → m α}
    {write : α → β} {as : List α} (h : ∀ a ∈ as, read (write a) = pure a) :
    (as.map write).mapM read = pure as := by
  -- by induction on the values, since reading stops at the first that fails
  induction as with
  | nil => rfl
  | cons a rest ih =>
    obtain ⟨hFirst, hRest⟩ := List.forall_mem_cons.mp h
    rw [List.map_cons, List.mapM_cons, hFirst, ih hRest, pure_bind, pure_bind]

/-! ## Formats -/

namespace CredentialFormat

/-- The format of a name is the format of its own name, which is another one only for the spelling of
`vc+sd-jwt` with a space. -/
theorem ofName_name_ofName (s : String) : ofName (ofName s).name = ofName s := by
  -- the spelling with a space, a registered name, or any other one
  by_cases hUnescaped : s = unescapedName
  · have hFormat : ofName s = vcSdJwt := by rw [ofName, if_pos hUnescaped]
    rw [hFormat]
    exact ofName_name (by decide)
  · cases hFind : registered.find? fun f => f.name == s with
    | some f =>
      have hFormat : ofName s = f := by
        rw [ofName, if_neg hUnescaped, hFind]
        rfl
      rw [hFormat]
      exact ofName_name (List.mem_of_find?_eq_some hFind)
    | none =>
      have hFormat : ofName s = other s := by
        rw [ofName, if_neg hUnescaped, hFind]
        rfl
      rw [hFormat]
      exact hFormat

/-- A format of a name is read as it was written. -/
theorem ofJson?_toJson {format : CredentialFormat} (h : ∃ name, format = ofName name) :
    ofJson? format.toJson = some format := by
  obtain ⟨name, rfl⟩ := h
  rw [toJson, ofJson?, Json.asString?, Option.map_some, ofName_name_ofName]

end CredentialFormat

/-! ## Presentations -/

namespace VpToken

@[simp] theorem ofJson_toJson (t : VpToken) : ofJson t.toJson = .ok t := by
  cases t with
  | text s => rfl
  | document o => rfl

/-- Presentations are read as they were written, none, one or more. -/
@[simp] theorem listOfJson_listToJson (ts : List VpToken) : listOfJson (listToJson ts) = .ok ts := by
  have hItems : (ts.map toJson).mapM ofJson = .ok ts :=
    mapM_map_of_inverse fun t _ => ofJson_toJson t
  cases ts with
  | nil => exact hItems
  | cons t rest =>
    cases rest with
    | nil =>
      -- a single presentation is written as it is, and it is no array
      cases t with
      | text s => rfl
      | document o => rfl
    | cons u more => exact hItems

/-- Presentations are never written as `null`, which would be read as none being there. -/
theorem listToJson_ne_null (ts : List VpToken) : listToJson ts ≠ .null := by
  intro hNull
  have hRead := listOfJson_listToJson ts
  rw [hNull] at hRead
  cases hRead

end VpToken

/-! ## Submissions -/

namespace Descriptor

/-- At every level the format is the format of some name. -/
def Named (d : Descriptor) : Prop :=
  ∀ e ∈ d.levels, ∃ name, e.format = CredentialFormat.ofName name

/-- What a descriptor is read from: its three members, and the one for a nested descriptor. -/
theorem ofJson?_of_members {members : List (String × Json)} {id path : String}
    {format : CredentialFormat} {nested : Option Descriptor}
    (hFormat : ∃ name, format = CredentialFormat.ofName name)
    (hMembers : Json.Object.get? members "id" = some (.string id) ∧
      Json.Object.get? members "format" = some format.toJson ∧
      Json.Object.get? members "path" = some (.string path))
    (hNested : nestedMember? members = some nested) :
    ofJson? (.object members) = some (mk id format path nested) := by
  obtain ⟨hId, hFormatMember, hPath⟩ := hMembers
  rw [ofJson?_object, hId, hFormatMember, hPath, hNested]
  simp only [Option.bind_some]
  rw [ofFields?, CredentialFormat.ofJson?_toJson hFormat]
  rfl

/-- A descriptor is read as it was written. -/
theorem ofJson?_toJson {d : Descriptor} (h : d.Named) : ofJson? d.toJson = some d := by
  -- on the levels, so that a nested descriptor is read back already
  induction d using levels.induct with
  | case1 id format path =>
    have hFormat := h _ List.mem_cons_self
    rw [toJson]
    refine ofJson?_of_members hFormat ⟨?_, ?_, ?_⟩ ?_
    · rw [Json.Object.get?_ofMembers]; rfl
    · rw [Json.Object.get?_ofMembers]; rfl
    · rw [Json.Object.get?_ofMembers]; rfl
    · rw [nestedMember?_eq, Json.Object.get?_ofMembers]; rfl
  | case2 id format path inner ih =>
    rw [Named, levels, List.forall_mem_cons] at h
    obtain ⟨hFormat, hBelow⟩ := h
    have hInner : Json.nullable ofJson? inner.toJson = some (some inner) := by
      have hRead := ih hBelow
      have hSome : inner.toJson ≠ .null := by
        intro hNull
        rw [hNull] at hRead
        cases hRead
      rw [Json.nullable_of_ne_null hSome, hRead, Option.map_some]
    rw [toJson]
    refine ofJson?_of_members hFormat ⟨?_, ?_, ?_⟩ ?_
    · rw [Json.Object.get?_ofMembers]; rfl
    · rw [Json.Object.get?_ofMembers]; rfl
    · rw [Json.Object.get?_ofMembers]; rfl
    · rw [nestedMember?_eq, Json.Object.get?_ofMembers]
      exact hInner

end Descriptor

namespace Submission

/-- The formats of all descriptors are formats of names. -/
def Named (s : Submission) : Prop :=
  ∀ d ∈ s.descriptors, d.Named

/-- A submission is read as it was written. -/
theorem ofJson?_toJson {s : Submission} (h : s.Named) : ofJson? s.toJson = some s := by
  have hDescriptors : (s.descriptors.map Descriptor.toJson).mapM Descriptor.ofJson? =
      some s.descriptors :=
    mapM_map_of_inverse fun d hd => Descriptor.ofJson?_toJson (h d hd)
  have hFields : ofFields? (.string s.id) (.string s.definitionId)
      (.array (s.descriptors.map Descriptor.toJson)) = some s := by
    rw [ofFields?, Json.asArrayOf?, hDescriptors]
    rfl
  rw [toJson, ofJson?, Json.Object.get?_ofMembers, Json.Object.get?_ofMembers,
    Json.Object.get?_ofMembers]
  exact hFields

end Submission

namespace Record

/-! ## Submissions in records -/

/-- A record writes a descriptor as the parameter does. -/
theorem descriptorJson_eq (d : Descriptor) : descriptorJson d = d.toJson := by
  -- by induction on the levels, as both write a nested descriptor first
  induction d using Descriptor.levels.induct with
  | case1 id format path =>
    rw [descriptorJson, nestedJson?, Descriptor.toJson]
    rfl
  | case2 id format path inner ih =>
    rw [descriptorJson, nestedJson?, Descriptor.toJson, ih]
    rfl

/-- A record writes the submission as the parameter is written. -/
theorem submissionJson_eq (s : Submission) : submissionJson s = s.toJson := by
  have hDescriptors : s.descriptors.map descriptorJson = s.descriptors.map Descriptor.toJson :=
    List.map_congr_left fun d _ => descriptorJson_eq d
  rw [submissionJson, hDescriptors, Submission.toJson]

/-- The submission in the JSON value of a record is the one that the record has. -/
theorem submission_of_toJson (r : Record) :
    r.toJson.member? "presentation_submission" = r.submission.map Submission.toJson := by
  have hSame : r.submission.map submissionJson = r.submission.map Submission.toJson := by
    cases r.submission with
    | none => rfl
    | some s => rw [Option.map_some, submissionJson_eq, Option.map_some]
  rw [toJson, hSame, Json.member?, Json.asObject?, Option.bind_some, Json.Object.ofOptions,
    Json.Object.get?_ofMembers]
  cases r.submission with
  | none => rfl
  | some s => rfl

end Record

/-! ## Setting and reading -/

namespace Parameter

/-- The value can be told by its JSON value: in a submission, the formats are formats of names. -/
def Named : (p : Parameter) → p.Value → Prop
  | presentationSubmission, s => Submission.Named s
  | idToken, _ | vpToken, _ | state, _ | error, _ | errorDescription, _ | errorUri, _ => True

theorem decode_encode {p : Parameter} {t : p.Value} (h : p.Named t) :
    p.decode (p.encode t) = .ok t := by
  cases p with
  | vpToken =>
    rw [encode, decode, VpToken.listOfJson_listToJson]
    rfl
  | presentationSubmission =>
    have hRead : Submission.ofParameter? (Submission.toJson t) = some t := Submission.ofJson?_toJson h
    rw [encode, decode, hRead]
  | idToken | state | error | errorDescription | errorUri => rfl

/-- No value of a parameter is written as `null`. -/
theorem encode_ne_null (p : Parameter) (t : p.Value) : p.encode t ≠ .null := by
  cases p with
  | vpToken => exact VpToken.listToJson_ne_null t
  | presentationSubmission | idToken | state | error | errorDescription | errorUri => exact nofun

/-- A parameter that is set is read as it was set. -/
theorem get?_insert_self {p : Parameter} {t : p.Value} (h : p.Named t) (o : Json.Object) :
    p.get? (p.insert t o) = some (.ok t) := by
  have hMember : Json.Object.get? (p.insert t o) p.key = some (p.encode t) := by
    rw [insert, Json.Object.get?_insert, if_pos rfl]
  rw [get?, hMember]
  -- a `null` would be taken as none, and it is not written
  cases hJson : p.encode t with
  | null => exact absurd hJson (p.encode_ne_null t)
  | bool b | number n | string s | array items | object members =>
    dsimp only
    rw [← hJson, decode_encode h]

theorem isPresent_insert_self (p : Parameter) (t : p.Value) (o : Json.Object) :
    p.isPresent (p.insert t o) = true := by
  rw [isPresent, Json.Object.contains, insert, Json.Object.get?_insert, if_pos rfl]
  rfl

/-- Setting a parameter leaves all members of other names as they are. -/
theorem member_insert_of_ne {p : Parameter} (t : p.Value) (o : Json.Object) {key : String}
    (h : key ≠ p.key) : Json.Object.get? (p.insert t o) key = Json.Object.get? o key := by
  rw [insert, Json.Object.get?_insert, if_neg h]

/-- A parameter that is set in an object, as a lens. -/
structure LensLaws (p : Parameter) (t : p.Value) (o : Json.Object) : Prop where
  present : p.isPresent (p.insert t o) = true
  /-- What is set is read. -/
  reads : p.get? (p.insert t o) = some (.ok t)
  decodes : p.decode (p.encode t) = .ok t
  /-- No other parameter changes, -/
  parameters : ∀ q : Parameter, q ≠ p →
    q.get? (p.insert t o) = q.get? o ∧ q.isPresent (p.insert t o) = q.isPresent o
  /-- and no member of another name. -/
  members : ∀ key, key ≠ p.key → Json.Object.get? (p.insert t o) key = Json.Object.get? o key ∧
    Json.Object.contains (p.insert t o) key = Json.Object.contains o key
  /-- Of two values that are set the later one counts. -/
  overwrites : ∀ u : p.Value, p.insert u (p.insert t o) = p.insert u o
  /-- A record writes a submission as the parameter does. -/
  records : ∀ s : Submission, Record.submissionJson s = presentationSubmission.encode s ∧
    ∀ r : Record, r.submission = some s →
      r.toJson.member? "presentation_submission" = some (presentationSubmission.encode s)

/-- **Parameters as lenses.** A parameter that is set is there and is read as it was set, every other
parameter and every other member stays as it is, and of two values that are set the later one counts. A
submission is the same JSON value whether it is set as a parameter or written in a record. -/
theorem insert_lens {p : Parameter} {t : p.Value} (h : p.Named t) (o : Json.Object) :
    LensLaws p t o where
  present := isPresent_insert_self p t o
  reads := get?_insert_self h o
  decodes := decode_encode h
  parameters q hq := by
    -- other parameters have other keys
    have hKey : q.key ≠ p.key := fun hSame => hq (key_injective hSame)
    have hMember := member_insert_of_ne t o hKey
    exact ⟨by rw [get?, get?, hMember],
      by rw [isPresent, isPresent, Json.Object.contains, Json.Object.contains, hMember]⟩
  members key hKey := by
    have hMember := member_insert_of_ne t o hKey
    exact ⟨hMember, by rw [Json.Object.contains, Json.Object.contains, hMember]⟩
  overwrites u := Json.Object.insert_insert o p.key (p.encode t) (p.encode u)
  records s := by
    refine ⟨Record.submissionJson_eq s, fun r hr => ?_⟩
    rw [Record.submission_of_toJson, hr]
    rfl

/-- A submission with a descriptor in another one, of a format without a registered name. -/
def nestedSubmission : Submission :=
  ⟨"s", "def", [(Descriptor.new "d1" .jwtVp "$").nest (.new "d2" (.other "com.example") "$.a")]⟩

/-- The submission set in place of a `null`, beside a state. -/
theorem insert_lens_nested :
    let o : Json.Object := [("presentation_submission", .null), ("state", .string "x")]
    presentationSubmission.Named nestedSubmission ∧
      presentationSubmission.get? (presentationSubmission.insert nestedSubmission o) =
        some (.ok nestedSubmission) ∧
      state.get? (presentationSubmission.insert nestedSubmission o) = some (.ok "x") := by
  intro o
  have hNamed : presentationSubmission.Named nestedSubmission := by
    intro d hd
    obtain rfl := List.mem_singleton.mp hd
    intro e he
    rw [Descriptor.levels_nest] at he
    -- two levels, one with a registered format and one with another
    rcases List.mem_cons.mp he with rfl | hInner
    · exact ⟨"jwt_vp", by decide +kernel⟩
    · obtain rfl := List.mem_singleton.mp hInner
      exact ⟨"com.example", by decide +kernel⟩
  have hLens := insert_lens hNamed o
  exact ⟨hNamed, hLens.reads, (hLens.parameters state (by decide)).1⟩

end Parameter

end PresentationVerifier
