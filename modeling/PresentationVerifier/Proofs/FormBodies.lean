import PresentationVerifier.Proofs.Printing
import PresentationVerifier.Response

/-!
# Form bodies and JSON objects

A response may come as a JSON object or as a form body. In a body the two parameters that are no strings
stand as JSON text (`jsonInForm`). Written so, an object gives the same response either way: the compact
text of a member's value is read as that value again (`Json.parse_compact`), the pairs of a body come out
as they were written (`Encoding.Form.decode_encode`), and in whatever order the pairs stand, the members
are set in the order of their names.

Main results:

* `objectOfPairs_of_perm`: the object that the pairs of an object give.
* `ofForm_eq_ofJson`: the response of a body.
-/

namespace PresentationVerifier

open Encoding

namespace Json

/-! ## Values within values -/

/-- What nests within a limit does so within a higher one. -/
theorem NestsWithin.succ {limit : Nat} {v : Json} (h : NestsWithin limit v) :
    NestsWithin (limit + 1) v := by
  -- by induction on the limit, as what is in a value has one level less
  induction limit generalizing v with
  | zero =>
    cases v with
    | array items => cases h
    | object members => cases h
    | null | bool b | number n | string s => trivial
  | succ limit ih =>
    cases v with
    | array items => exact fun w hw => ih (h w hw)
    | object members => exact fun m hm => ih (h m hm)
    | null | bool b | number n | string s => trivial

theorem Reprintable.succ {limit : Nat} {v : Json} (h : Reprintable limit v) :
    Reprintable (limit + 1) v :=
  ⟨h.nests.succ, h.ordered, h.numbers, h.names⟩

/-- The value of a member is read again if the object is. -/
theorem parse_compact_member {o : Object} (h : Reprintable nestingLimit (.object o))
    {m : String × Json} (hm : m ∈ o) : parse m.2.compact = some m.2 := by
  -- the member may nest one level less than the object
  have hObject : Reprintable (126 + 1) (.object o) := h
  have hBelow : Reprintable 126 m.2 := hObject.member hm
  exact parse_compact hBelow.succ

end Json

namespace Response

/-! ## The pairs of an object -/

/-- The pair of a form body that stands for a member: JSON text where that is expected, and the string
itself elsewhere. -/
def formPair (m : String × Json) : String × String :=
  (m.1, if jsonInForm.contains m.1 then m.2.compact else m.2.asString?.getD "")

/-- Every member that a body does not carry as JSON text is a string. -/
def StringsElsewhere (o : Json.Object) : Prop :=
  ∀ m ∈ o, m.1 ∉ jsonInForm → ∃ s, m.2 = .string s

/-- The pair of a member is read as the value of that member. -/
theorem formValue_formPair {o : Json.Object} (hStrings : StringsElsewhere o)
    (hReprintable : Json.Reprintable Json.nestingLimit (.object o)) {m : String × Json} (hm : m ∈ o) :
    formValue m.1 (formPair m).2 = m.2 := by
  rw [formPair, formValue]
  -- JSON text is read again, and a string stands for itself
  by_cases hCarried : jsonInForm.contains m.1 = true
  · have hRead := Json.parse_compact_member hReprintable hm
    simp only [if_pos hCarried, hRead, Option.getD_some]
  · have hName : m.1 ∉ jsonInForm := by
      intro hIn
      exact hCarried (List.contains_iff_mem.mpr hIn)
    obtain ⟨s, hs⟩ := hStrings m hm hName
    simp only [if_neg hCarried, hs, Json.asString?, Option.getD_some]

/-- The pairs of an object give that object again, in whatever order they stand. -/
theorem objectOfPairs_of_perm {o : Json.Object} (hStrings : StringsElsewhere o)
    (hReprintable : Json.Reprintable Json.nestingLimit (.object o)) {pairs : List (String × String)}
    (hPairs : pairs.Perm (o.map formPair)) : objectOfPairs pairs = o := by
  -- read again, each pair is the member that it was made of
  have hValues : (o.map formPair).map (fun p => (p.1, formValue p.1 p.2)) = o := by
    rw [List.map_map]
    have hEach : ∀ m ∈ o, ((fun p : String × String => (p.1, formValue p.1 p.2)) ∘ formPair) m = m :=
      fun m hm => Prod.ext rfl (formValue_formPair hStrings hReprintable hm)
    rw [List.map_congr_left hEach, List.map_id']
  have hPerm : (pairs.map fun p => (p.1, formValue p.1 p.2)).Perm o := by
    have hMapped := hPairs.map fun p : String × String => (p.1, formValue p.1 p.2)
    rwa [hValues] at hMapped
  exact Json.Object.ofMembers_eq_of_perm hPerm hReprintable.ordered.1

/-! ## Responses -/

/-- **A form body and a JSON object give the same response.** Of an object that was read from a text let a
body have one pair for each member, in any order. Then the body and the object are responses or not
together: with the same parameters, the same members and so the same object behind them, or with the same
first parameter that is malformed. -/
theorem ofForm_eq_ofJson {text : String} {o : Json.Object} (hText : Json.parse text = some (.object o))
    (hStrings : StringsElsewhere o) (hNames : Json.NoNumberMember (.object o))
    {pairs : List (String × String)} (hPairs : pairs.Perm (o.map formPair)) :
    ofForm (Form.encode pairs) = ofJson (.object o) ∧
      ∀ body, Form.decode body = pairs → ofForm body = ofJson (.object o) := by
  -- both readings begin with the same object
  have hObject : objectOfPairs pairs = o :=
    objectOfPairs_of_perm hStrings (Json.reprintable_of_parse hText hNames) hPairs
  have hBody : ∀ body, Form.decode body = pairs → ofForm body = ofJson (.object o) := by
    intro body hDecoded
    rw [ofForm, hDecoded, hObject, ofJson]
  exact ⟨hBody _ (Form.decode_encode pairs), hBody⟩

/-- The number `1.50e+2`. -/
def oneHundredFifty : Json.Number :=
  ⟨false, ['1'].map Json.Digit.ofChar, ['5', '0'].map Json.Digit.ofChar,
    some ⟨false, ['2'].map Json.Digit.ofChar⟩⟩

/-- An object that holds a state with a space and a plus sign, and presents a string and an object with a
number in it. -/
def mixedObject : Json.Object :=
  [("state", .string "a b+c"),
    ("vp_token", .array [.string "x", .object [("n", .number oneHundredFifty)]])]

/-- The object read from a text with spaces in it, and a body with its pairs in the other order. -/
theorem ofForm_eq_ofJson_mixed :
    Json.parse "\x7b\"state\":\"a b+c\", \"vp_token\":[\"x\", \x7b\"n\":1.50E2\x7d]\x7d" =
        some (.object mixedObject) ∧
      StringsElsewhere mixedObject ∧ Json.NoNumberMember (.object mixedObject) ∧
      ofForm (utf8Bytes "vp_token=%5B%22x%22%2C%7B%22n%22%3A1.50e%2B2%7D%5D&state=a+b%2Bc") =
        ofJson (.object mixedObject) ∧
      (ofJson (.object mixedObject)).map Response.state = .ok (some "a b+c") := by
  have hText : Json.parse "\x7b\"state\":\"a b+c\", \"vp_token\":[\"x\", \x7b\"n\":1.50E2\x7d]\x7d" =
      some (.object mixedObject) := rfl
  have hStrings : StringsElsewhere mixedObject := by
    intro m hm hOther
    simp only [mixedObject, List.mem_cons, List.not_mem_nil, or_false] at hm
    rcases hm with rfl | rfl
    · exact ⟨"a b+c", rfl⟩
    · exact absurd List.mem_cons_self hOther
  have hNames : Json.NoNumberMember (.object mixedObject) := by
    have hNumber : Json.NoNumberMember (.number oneHundredFifty) :=
      Json.noNumberMember_of_scalar (by simp [Json.Scalar, Json.Number.WellFormed, oneHundredFifty])
    have hString : ∀ s, Json.NoNumberMember (.string s) := fun s => Json.noNumberMember_of_scalar trivial
    simp [mixedObject, hNumber, hString, Json.numberMember]
  obtain ⟨-, hBodies⟩ := ofForm_eq_ofJson hText hStrings hNames (List.Perm.swap _ _ [])
  refine ⟨hText, hStrings, hNames, hBodies _ ?_, rfl⟩
  rfl

end Response

end PresentationVerifier
