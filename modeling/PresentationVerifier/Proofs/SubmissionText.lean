import PresentationVerifier.Proofs.Skipping
import PresentationVerifier.Submission.Reader

/-!
# Submissions in text and as values

A submission that is read from the text of a JSON value is the one that the value itself stands for, and
neither exists if the other does not. The reader of the text goes through it field by field and the reader
of the value looks the members up, so the proof goes through both at once: each part of the text is taken
for what the part of the value is decoded as (`Agrees`), over the items of a row and the members of an
object, and by induction over the nested descriptors.

Both kinds of records go by their fields. A row has them in their order (`RowReads`), and in an object each is
found by its name (`RecordTable`); what is said of a field is said once for all of them.

Main results:

* `RowReads.comma`, `RowReads.close`: a row, field by field.
* `RecordTable.Lawful.isField`, `RecordTable.read_readsAs`: the members of an object, by a table of fields.
* `readRecord_agrees`: a record, by the row of its fields or by its members.
* `readDescriptor_agrees`: descriptors, nested ones included.
* `readSubmission_agrees`: submissions.
* `ofParameter?_compact`: the parameter as a text and as a value.
-/

namespace PresentationVerifier

namespace Json

/-! ## Values that have a text -/

/-- A value as the program holds them: members in order, and numbers that the grammar allows. -/
structure Proper (v : Json) : Prop where
  ordered : v.Ordered
  numbers : ∀ n, Part (.number n) v → n.WellFormed

/-- So is every value that a text was read as. -/
theorem proper_of_parse {text : String} {v : Json} (h : parse text = some v) : Proper v where
  ordered := ordered_of_parse h
  numbers _ hPart := wellFormed_of_parse h hPart

theorem Proper.item {items : List Json} (h : Proper (.array items)) {v : Json} (hv : v ∈ items) :
    Proper v where
  ordered := itemsOrdered_iff.mp h.ordered v hv
  numbers n hPart := h.numbers n (.item hv hPart)

theorem Proper.member {members : Object} (h : Proper (.object members)) {m : String × Json}
    (hm : m ∈ members) : Proper m.2 where
  ordered := membersOrdered_iff.mp h.ordered.2 m hm
  numbers n hPart := h.numbers n (.member hm hPart)

theorem Proper.names_nodup {members : Object} (h : Proper (.object members)) :
    (members.map Prod.fst).Nodup :=
  Object.nodup_names h.ordered.1

/-- The first character of a value's text tells which kind of value it is. -/
structure Opens (c : Char) (v : Json) : Prop where
  notSpace : isSpace c = false
  null : c = 'n' ↔ v = .null
  string : c = '\x22' ↔ ∃ s, v = .string s
  array : c = '[' ↔ ∃ items, v = .array items
  object : c = '\x7b' ↔ ∃ members, v = .object members

/-- The text of a value begins with a character that tells its kind. -/
theorem Proper.exists_opens {v : Json} (h : Proper v) : ∃ c cs, v.compactChars = c :: cs ∧ Opens c v := by
  -- each kind has its own first characters, and a number begins with a digit or a minus
  cases v with
  | null => exact ⟨'n', _, by rw [compactChars], by constructor <;> simp [isSpace]⟩
  | bool b =>
    cases b with
    | false => exact ⟨'f', _, by rw [compactChars], by constructor <;> simp [isSpace]⟩
    | true => exact ⟨'t', _, by rw [compactChars], by constructor <;> simp [isSpace]⟩
  | number n =>
    obtain ⟨c, cs, hText, hFirst⟩ := text_first (h.numbers n .self)
    have hOther : ∀ {d : Char}, isDigit d = false → d ≠ '-' → c ≠ d := fun hDigit hMinus =>
      first_ne hFirst hDigit hMinus
    exact ⟨c, cs, by rw [compactChars, hText],
      { notSpace := first_not_space hFirst
        null := by simp [hOther (d := 'n') rfl (by decide)]
        string := by simp [hOther (d := '\x22') rfl (by decide)]
        array := by simp [hOther (d := '[') rfl (by decide)]
        object := by simp [hOther (d := '\x7b') rfl (by decide)] }⟩
  | string s => exact ⟨'\x22', _, by rw [compactChars, quoted], by constructor <;> simp [isSpace]⟩
  | array items => exact ⟨'[', _, by rw [compactChars], by constructor <;> simp [isSpace]⟩
  | object members => exact ⟨'\x7b', _, by rw [compactChars], by constructor <;> simp [isSpace]⟩

theorem Opens.skipSpace {c : Char} {v : Json} (h : Opens c v) (cs : List Char) :
    Json.skipSpace (c :: cs) = c :: cs := by
  simp [Json.skipSpace, h.notSpace]

/-! ## Texts of values -/

section Agrees

variable {α β : Type} {read : Reader α} {decode : Json → Option α} {v : Json}

/-- The reader takes the text of the value for what the value is decoded as, and refuses it if that is
nothing. -/
def Agrees (read : Reader α) (decode : Json → Option α) (v : Json) : Prop :=
  ∀ rest, Ends rest → read (v.compactChars ++ rest) = (decode v).map fun a => (a, rest)

/-- Every value is passed over, whatever it is. -/
theorem skipValue_agrees (h : Proper v) : Agrees skipValue (fun _ => some ()) v :=
  fun _ hEnds => skipValue_compactChars h.numbers hEnds

/-- What agrees wherever a value may stand does so within brackets. -/
theorem Agrees.readsAs (h : Agrees read decode v) {close : Char} (hClose : close = ']' ∨ close = '\x7d') :
    ReadsAs read compactChars close decode v := by
  intro c rest hc
  exact h (c :: rest) (ends_within hClose hc rest)

/-! ### Rows -/

/-- What stands behind a value in a row: the other values, each behind a comma, and the closing bracket. -/
def rowTail : List Json → List Char → List Char
  | [], rest => ']' :: rest
  | v :: more, rest => ',' :: (v.compactChars ++ rowTail more rest)

/-- A row is its first value and what stands behind that. -/
theorem join_row (v : Json) (more : List Json) (rest : List Char) :
    Text.join ',' ((v :: more).map compactChars) ++ ']' :: rest = v.compactChars ++ rowTail more rest := by
  induction more generalizing v with
  | nil => rfl
  | cons w others ih =>
    rw [List.map_cons, Text.join_cons (by simp), List.append_assoc, List.cons_append, ih, rowTail]

theorem ends_rowTail (more : List Json) (rest : List Char) : Ends (rowTail more rest) := by
  cases more with
  | nil => exact ends_cons (Or.inr (Or.inl rfl)) rest
  | cons v others => exact ends_cons (Or.inl rfl) _

end Agrees

end Json

namespace Submission

open Json (Reader Agrees ReadsAs Proper Opens Ends compactChars memberChars rowTail)

/-! ## Fields -/

section Fields

variable {α β : Type} {read : Reader α} {decode : Json → Option α} {v : Json}

/-- A string is read as a string, and other values are refused. -/
theorem readText_agrees (h : Proper v) : Agrees readText Json.asString? v := by
  intro rest _
  obtain ⟨c, cs, hText, hOpens⟩ := h.exists_opens
  -- the opening quote tells a string from other values
  by_cases hString : ∃ s, v = .string s
  · obtain ⟨s, rfl⟩ := hString
    rw [compactChars, Json.quoted_append]
    exact Json.readStringBody_escaped s rest
  · have hQuote : c ≠ '\x22' := fun hc => hString (hOpens.string.mp hc)
    have hNone : v.asString? = none := by
      rw [Option.eq_none_iff_forall_ne_some]
      exact fun s hs => hString ⟨s, Json.asString?_eq_some_iff.mp hs⟩
    rw [hText, List.cons_append, readText, hOpens.skipSpace, hNone, Option.map_none]
    unfold Json.readString
    split
    · next heq => exact absurd (List.cons.inj heq).1 hQuote
    · rfl

/-- A value that may be `null` is read as nothing then, and else as the value. -/
theorem readNullable_agrees (h : Proper v) (hRead : Agrees read decode v) :
    Agrees (readNullable read) (Json.nullable decode) v := by
  intro rest hEnds
  obtain ⟨c, cs, hText, hOpens⟩ := h.exists_opens
  -- the letter tells `null` from other values
  by_cases hNull : v = .null
  · subst hNull
    rw [compactChars]
    rfl
  · have hOther : c ≠ 'n' := fun hc => hNull (hOpens.null.mp hc)
    have hValue := hRead rest hEnds
    rw [hText, List.cons_append] at hValue
    rw [hText, List.cons_append, readNullable, hOpens.skipSpace, Json.nullable_of_ne_null hNull]
    split
    · next heq => exact absurd (List.cons.inj heq).1 hOther
    · rw [hValue, Option.map_map, Option.map_map]
      rfl

/-- A field in a row, the mark behind it, and what is read from there. -/
def readField (read : Reader α) (mark : Char) (next : α → Reader β) : Reader β := fun cs =>
  (read cs).bind fun field => (readMark mark field.2).bind fun marked => next field.1 marked.2

/-- A field with a comma behind it is followed by the next one. -/
theorem readField_comma (h : Agrees read decode v) (next : α → Reader β) (more : List Json)
    (rest : List Char) :
    readField read ',' next (v.compactChars ++ rowTail more rest) =
      (decode v).bind fun a =>
        match more with
        | [] => none
        | w :: others => next a (w.compactChars ++ rowTail others rest) := by
  rw [readField, h _ (Json.ends_rowTail more rest), Option.bind_map]
  congr 1
  funext a
  -- in a row that is too short the bracket stands in place of the comma
  cases more with
  | nil => rfl
  | cons w others => rfl

/-- The last field is followed by the closing bracket. -/
theorem readField_close (h : Agrees read decode v) (next : α → Reader β) (more : List Json)
    (rest : List Char) :
    readField read ']' next (v.compactChars ++ rowTail more rest) =
      (decode v).bind fun a =>
        match more with
        | [] => next a rest
        | _ :: _ => none := by
  rw [readField, h _ (Json.ends_rowTail more rest), Option.bind_map]
  congr 1
  funext a
  -- in a row that is too long the comma stands in place of the bracket
  cases more with
  | nil => rfl
  | cons w others => rfl

end Fields

/-! ## Rows of fields

A row is read field by field, and decoded value by value: each field takes the first value that is left and
hands on the others. -/

section Rows

variable {α β : Type} {fits : Json → Prop} {read : Reader α} {decode : Json → Option α}

/-- Every row of such values, with one value at least, is read as what the values are decoded as. -/
def RowReads (fits : Json → Prop) (row : Reader β) (decode : List Json → Option β) : Prop :=
  ∀ v more, (∀ w ∈ v :: more, fits w) → ∀ rest,
    row (v.compactChars ++ rowTail more rest) = (decode (v :: more)).map fun b => (b, rest)

/-- A field that others follow. -/
def fieldThen (decode : Json → Option α) (next : α → List Json → Option β) : List Json → Option β
  | v :: w :: others => (decode v).bind fun a => next a (w :: others)
  | _ => none

/-- The last field, which none may follow. -/
def fieldLast (decode : Json → Option α) (f : α → β) : List Json → Option β
  | [v] => (decode v).map f
  | _ => none

/-- A field and a comma behind it are read as a field that others follow. -/
theorem RowReads.comma {next : α → Reader β} {decodeNext : α → List Json → Option β}
    (hRead : ∀ v, fits v → Agrees read decode v) (hNext : ∀ a, RowReads fits (next a) (decodeNext a)) :
    RowReads fits (readField read ',' next) (fieldThen decode decodeNext) := by
  intro v more hFits rest
  rw [List.forall_mem_cons] at hFits
  rw [readField_comma (hRead v hFits.1)]
  cases more with
  | nil => cases decode v <;> rfl
  | cons w others =>
    rw [fieldThen, Option.map_bind]
    congr 1
    funext a
    exact hNext a w others hFits.2 rest

/-- A field and the closing bracket behind it are read as the last field. -/
theorem RowReads.close (hRead : ∀ v, fits v → Agrees read decode v) (f : α → β) :
    RowReads fits (readField read ']' fun a rest => some (f a, rest)) (fieldLast decode f) := by
  intro v more hFits rest
  rw [List.forall_mem_cons] at hFits
  rw [readField_close (hRead v hFits.1)]
  cases more with
  | nil =>
    rw [fieldLast, Option.map_map, Option.map_eq_bind]
    rfl
  | cons w others => cases decode v <;> rfl

end Rows

/-! ## Members -/

section Members

variable {α β : Type} {decode : String × Json → Option β} {name : String} {read : Json → Option α}
  {wrap : α → β} {select : β → Option α} {members : Json.Object} {bs : List β}

/-- Members of one name are decoded with a reader of their own, and `select` finds what they give. -/
structure IsField (decode : String × Json → Option β) (name : String) (read : Json → Option α)
    (wrap : α → β) (select : β → Option α) : Prop where
  decodes : ∀ v, decode (name, v) = (read v).map wrap
  selects : ∀ a, select (wrap a) = some a
  others : ∀ m b, m.1 ≠ name → decode m = some b → select b = none

theorem mapM_cons_eq_some_iff {m : String × Json} :
    (m :: members).mapM decode = some bs ↔
      ∃ b bs', decode m = some b ∧ members.mapM decode = some bs' ∧ b :: bs' = bs := by
  simp [List.mapM_cons, Option.bind_eq_some_iff]

/-- Where members are not decoded, one of them is not. -/
theorem exists_of_mapM_eq_none (h : members.mapM decode = none) : ∃ m ∈ members, decode m = none := by
  -- by induction on the members: the first is refused, or the rest is
  induction members with
  | nil => cases h
  | cons m rest ih =>
    cases hFirst : decode m with
    | none => exact ⟨m, List.mem_cons_self, hFirst⟩
    | some b =>
      have hRest : rest.mapM decode = none := by
        cases hBs : rest.mapM decode with
        | none => rfl
        | some bs => simp [List.mapM_cons, hFirst, hBs] at h
      obtain ⟨m', hm', hNone⟩ := ih hRest
      exact ⟨m', List.mem_cons_of_mem m hm', hNone⟩

/-- Members of other names do not give the field. -/
theorem IsField.filterMap_eq_nil (h : IsField decode name read wrap select)
    (hDecode : members.mapM decode = some bs) (hOther : name ∉ members.map Prod.fst) :
    bs.filterMap select = [] := by
  induction members generalizing bs with
  | nil =>
    obtain rfl := Option.some.inj hDecode
    rfl
  | cons m rest ih =>
    obtain ⟨b, bs', hb, hRest, rfl⟩ := mapM_cons_eq_some_iff.mp hDecode
    rw [List.map_cons, List.mem_cons, not_or] at hOther
    rw [List.filterMap_cons_none (h.others m b (Ne.symm hOther.1) hb), ih hRest hOther.2]

/-- An object whose members are decoded has the field, and then once, or does not have it. -/
theorem IsField.cases (h : IsField decode name read wrap select) (hNames : (members.map Prod.fst).Nodup)
    (hDecode : members.mapM decode = some bs) :
    (Json.Object.get? members name = none ∧ bs.filterMap select = []) ∨
      ∃ v a, Json.Object.get? members name = some v ∧ read v = some a ∧ bs.filterMap select = [a] := by
  -- by induction on the members, of which at most one has the name
  induction members generalizing bs with
  | nil =>
    obtain rfl := Option.some.inj hDecode
    exact Or.inl ⟨rfl, rfl⟩
  | cons m rest ih =>
    obtain ⟨b, bs', hb, hRest, rfl⟩ := mapM_cons_eq_some_iff.mp hDecode
    obtain ⟨hNew, hRestNames⟩ := List.nodup_cons.mp hNames
    obtain ⟨key, v⟩ := m
    rw [Json.Object.get?_cons]
    by_cases hKey : name = key
    · subst hKey
      -- no member behind it has the name again
      have hNil := h.filterMap_eq_nil hRest hNew
      obtain ⟨a, ha, rfl⟩ := Option.map_eq_some_iff.mp ((h.decodes v).symm.trans hb)
      exact Or.inr ⟨v, a, if_pos rfl, ha, by rw [List.filterMap_cons_some (h.selects a), hNil]⟩
    · rw [if_neg hKey, List.filterMap_cons_none (h.others (key, v) b (Ne.symm hKey) hb)]
      exact ih hRestNames hRest

end Members

/-! ## Tables of fields

The members of a record's object, field by field: a member is taken by the field of its name, and one that
no field has the name of is passed over. -/

/-- A field of a record: its name, how its value is read from text and decoded as a value, and the part of
the record that a value gives. -/
structure RecordField (β : Type) where
  name : String
  {α : Type}
  read : Reader α
  decode : Json → Option α
  wrap : α → β
  select : β → Option α

/-- The fields of a record, and what a member of another name gives. -/
structure RecordTable (β : Type) where
  fields : List (RecordField β)
  other : β

namespace RecordTable

variable {β : Type} {t : RecordTable β} {f g : RecordField β} {name : String} {m : String × Json}
  {members : Json.Object} {bs : List β}

/-- The field of a name. -/
def field? (t : RecordTable β) (name : String) : Option (RecordField β) :=
  t.fields.find? fun f => name = f.name

/-- A member of an object, read from text. -/
def read (t : RecordTable β) : Reader β := fun cs =>
  (Json.readName cs).bind fun (name, cs) =>
    match t.field? name with
    | some f => (f.read cs).map fun (a, r) => (f.wrap a, r)
    | none => (Json.skipValue cs).map fun (_, r) => (t.other, r)

/-- What a member of an object is decoded as. -/
def decode (t : RecordTable β) (m : String × Json) : Option β :=
  match t.field? m.1 with
  | some f => (f.decode m.2).map f.wrap
  | none => some t.other

/-- No two fields share a name, and what one field gives, or a member of another name, is not taken for what
another field gives. -/
structure Lawful (t : RecordTable β) : Prop where
  names : ∀ f ∈ t.fields, t.field? f.name = some f
  selects : ∀ f ∈ t.fields, ∀ a, f.select (f.wrap a) = some a
  apart : ∀ f ∈ t.fields, ∀ g ∈ t.fields, f.name ≠ g.name → ∀ a, f.select (g.wrap a) = none
  passes : ∀ f ∈ t.fields, f.select t.other = none

/-- The field of a name is a field of that name. -/
theorem of_field?_eq_some (h : t.field? name = some f) : f ∈ t.fields ∧ name = f.name := by
  unfold field? at h
  exact ⟨List.mem_of_find?_eq_some h, by simpa using List.find?_some h⟩

/-- Every field of a table is a field of the object's members. -/
theorem Lawful.isField (h : t.Lawful) (hf : f ∈ t.fields) :
    IsField t.decode f.name f.decode f.wrap f.select where
  decodes v := by rw [decode, h.names f hf]
  selects := h.selects f hf
  others m b hName hDecode := by
    unfold decode at hDecode
    split at hDecode
    · next g hField =>
      obtain ⟨hg, hOwn⟩ := of_field?_eq_some hField
      obtain ⟨a, -, rfl⟩ := Option.map_eq_some_iff.mp hDecode
      exact h.apart f hf g hg (fun hSame => hName (hOwn.trans hSame.symm)) a
    · obtain rfl := Option.some.inj hDecode
      exact h.passes f hf

/-- Where the members of an object are refused, the value of some field is. -/
theorem exists_refused (hNames : (members.map Prod.fst).Nodup) (h : members.mapM t.decode = none) :
    ∃ f ∈ t.fields, ∃ v, Json.Object.get? members f.name = some v ∧ f.decode v = none := by
  obtain ⟨m, hm, hNone⟩ := exists_of_mapM_eq_none h
  unfold decode at hNone
  split at hNone
  · next f hField =>
    obtain ⟨hf, hOwn⟩ := of_field?_eq_some hField
    have hGet := Json.Object.get?_of_mem hNames hm
    rw [hOwn] at hGet
    exact ⟨f, hf, m.2, hGet, Option.map_eq_none_iff.mp hNone⟩
  · cases hNone

/-- The text of a member is read as the member is decoded, if that holds of the value for every field. -/
theorem read_readsAs (hm : Proper m.2) (hFields : ∀ f ∈ t.fields, Agrees f.read f.decode m.2) :
    ReadsAs t.read memberChars '\x7d' t.decode m := by
  intro c rest hc
  rw [memberChars, List.append_assoc, List.cons_append, read, Json.readName_quoted, Option.bind_some, decode]
  dsimp only
  -- the name decides on the reader
  cases hField : t.field? m.1 with
  | some f =>
    have hValue := (hFields f (of_field?_eq_some hField).1).readsAs (Or.inr rfl) c rest hc
    dsimp only
    rw [hValue, Option.map_map, Option.map_map]
    rfl
  | none =>
    have hSkip := (Json.skipValue_agrees hm).readsAs (Or.inr rfl) c rest hc
    dsimp only
    rw [hSkip]
    rfl

end RecordTable

/-! ## Records -/

section Records

variable {α β : Type} {row : Reader α} {member : Reader β} {collect : List β → Option α}
  {decode : Json → Option α} {decodeMember : String × Json → Option β} {v : Json}

/-- A record: behind an opening bracket the row of its fields, behind an opening brace its members. -/
def readRecord (row : Reader α) (member : Reader β) (collect : List β → Option α) : Reader α := fun cs =>
  match Json.skipSpace cs with
  | [] => none
  | c :: rest =>
    if c = '[' then row rest
    else if c = '\x7b' then
      (Json.readSequence member '\x7d' rest).bind fun ms => (collect ms.1).map fun a => (a, ms.2)
    else none

/-- A row is followed by whatever follows the record. -/
def RowAgrees (row : Reader α) (decode : Json → Option α) (items : List Json) : Prop :=
  ∀ rest, row (Text.join ',' (items.map compactChars) ++ ']' :: rest) =
    (decode (.array items)).map fun a => (a, rest)

/-- A row that is read field by field is read as the array of its values is. -/
theorem RowReads.rowAgrees {fits : Json → Prop} {fields : List Json → Option α} (h : RowReads fits row fields)
    (hFields : ∀ items, fields items = decode (.array items))
    (hEmpty : ∀ rest, row (']' :: rest) = (fields []).map fun a => (a, rest)) {items : List Json}
    (hFits : ∀ w ∈ items, fits w) : RowAgrees row decode items := by
  intro rest
  rw [← hFields]
  cases items with
  | nil => exact hEmpty rest
  | cons v more =>
    rw [Json.join_row]
    exact h v more hFits rest

/-- A record agrees with its value if its row does, its members do, and other values stand for no record. -/
theorem readRecord_agrees (hv : Proper v) (hRow : ∀ items, v = .array items → RowAgrees row decode items)
    (hMembers : ∀ members, v = .object members →
      (∀ m ∈ members, ReadsAs member memberChars '\x7d' decodeMember m) ∧
        (members.mapM decodeMember).bind collect = decode v)
    (hOther : (∀ items, v ≠ .array items) → (∀ members, v ≠ .object members) → decode v = none) :
    Agrees (readRecord row member collect) decode v := by
  intro rest hEnds
  -- by the first character: a bracket, a brace, or any other
  by_cases hArray : ∃ items, v = .array items
  · obtain ⟨items, rfl⟩ := hArray
    rw [Json.array_append]
    exact hRow items rfl rest
  by_cases hObject : ∃ members, v = .object members
  · obtain ⟨members, rfl⟩ := hObject
    obtain ⟨hEach, hCollect⟩ := hMembers members rfl
    have hRead := Json.readSequence_mapM (by decide) (fun m _ => Json.memberChars_first m) hEach rest
    rw [Json.object_append, ← hCollect]
    show (Json.readSequence member '\x7d' _).bind _ = _
    rw [hRead, Option.bind_map, Option.map_bind]
    rfl
  · obtain ⟨c, cs, hText, hOpens⟩ := hv.exists_opens
    have hBracket : c ≠ '[' := fun hc => hArray (hOpens.array.mp hc)
    have hBrace : c ≠ '\x7b' := fun hc => hObject (hOpens.object.mp hc)
    have hNone := hOther (fun items h => hArray ⟨items, h⟩) fun members h => hObject ⟨members, h⟩
    rw [hText, List.cons_append, readRecord, hOpens.skipSpace, hNone]
    dsimp only
    rw [if_neg hBracket, if_neg hBrace, Option.map_none]

end Records

/-! ## Descriptors -/

namespace DescriptorMember

/-- The identifier that a member gives. -/
def id? : DescriptorMember → Option String
  | .id s => some s
  | _ => none

/-- The format that a member names. -/
def format? : DescriptorMember → Option String
  | .format s => some s
  | _ => none

/-- The path that a member gives. -/
def path? : DescriptorMember → Option String
  | .path s => some s
  | _ => none

/-- The nested descriptor that a member gives, or that there is none. -/
def nested? : DescriptorMember → Option (Option Descriptor)
  | .nested d => some d
  | _ => none

/-- The fields of a descriptor's object, with a reader for the nested descriptor. -/
def table (inner : Reader Descriptor) : RecordTable DescriptorMember where
  fields :=
    [⟨"id", readText, Json.asString?, .id, id?⟩,
      ⟨"format", readText, Json.asString?, .format, format?⟩,
      ⟨"path", readText, Json.asString?, .path, path?⟩,
      ⟨"path_nested", readNullable inner, Json.nullable Descriptor.ofJson?, .nested, nested?⟩]
  other := .unknown

/-- The four names differ, and so do the members that they give. -/
theorem table_lawful (inner : Reader Descriptor) : (table inner).Lawful := by
  constructor <;> simp [table, RecordTable.field?, id?, format?, path?, nested?]

end DescriptorMember

/-- The choice between the names is the one of the table. -/
theorem readDescriptorMember_eq (inner : Reader Descriptor) :
    readDescriptorMember inner = (DescriptorMember.table inner).read := by
  funext cs
  unfold readDescriptorMember RecordTable.read
  congr 1
  funext member
  obtain ⟨name, value⟩ := member
  dsimp only [RecordTable.field?, DescriptorMember.table]
  -- name by name, as both compare them in this order
  by_cases hId : name = "id"
  · subst hId; rfl
  by_cases hFormat : name = "format"
  · subst hFormat; rfl
  by_cases hPath : name = "path"
  · subst hPath; rfl
  by_cases hNested : name = "path_nested"
  · subst hNested; rfl
  simp [hId, hFormat, hPath, hNested]

/-- A member of a descriptor is read as it is decoded, if the nested descriptor is. -/
theorem readDescriptorMember_readsAs {inner : Reader Descriptor} {m : String × Json} (hm : Proper m.2)
    (hInner : Agrees inner Descriptor.ofJson? m.2) :
    ReadsAs (readDescriptorMember inner) memberChars '\x7d' (DescriptorMember.table inner).decode m := by
  rw [readDescriptorMember_eq]
  refine RecordTable.read_readsAs hm ?_
  simp [DescriptorMember.table, readText_agrees hm, readNullable_agrees hm hInner]

/-- A field that is not of its form leaves no descriptor. -/
theorem ofJson?_eq_none_of_descriptorField {inner : Reader Descriptor} {f : RecordField DescriptorMember}
    (hf : f ∈ (DescriptorMember.table inner).fields) {members : Json.Object} {v : Json}
    (hGet : Json.Object.get? members f.name = some v) (hRefused : f.decode v = none) :
    Descriptor.ofJson? (.object members) = none := by
  rw [Descriptor.ofJson?_object, Descriptor.nestedMember?_eq]
  simp only [DescriptorMember.table, List.mem_cons, List.not_mem_nil, or_false] at hf
  -- whichever field it is, the descriptor asks for it
  rcases hf with rfl | rfl | rfl | rfl <;>
    simp_all [Descriptor.ofFields?, CredentialFormat.ofJson?]

/-- A descriptor is made of the members that give its fields, each of them once. -/
theorem descriptorOfMembers_eq (ms : List DescriptorMember) :
    descriptorOfMembers ms =
      match ms.filterMap DescriptorMember.id?, ms.filterMap DescriptorMember.format?,
        ms.filterMap DescriptorMember.path?, ms.filterMap DescriptorMember.nested? with
      | [id], [format], [path], [] => some (.mk id (CredentialFormat.ofName format) path none)
      | [id], [format], [path], [d] => some (.mk id (CredentialFormat.ofName format) path d)
      | _, _, _, _ => none :=
  rfl

/-- The members of an object give the descriptor that the object stands for. -/
theorem bind_descriptorOfMembers {inner : Reader Descriptor} {members : Json.Object}
    (hNames : (members.map Prod.fst).Nodup) :
    (members.mapM (DescriptorMember.table inner).decode).bind descriptorOfMembers =
      Descriptor.ofJson? (.object members) := by
  cases hDecode : members.mapM (DescriptorMember.table inner).decode with
  | none =>
    obtain ⟨f, hf, v, hGet, hRefused⟩ := RecordTable.exists_refused hNames hDecode
    rw [ofJson?_eq_none_of_descriptorField hf hGet hRefused, Option.bind_none]
  | some ms =>
    have hField := fun f (hf : f ∈ (DescriptorMember.table inner).fields) =>
      ((DescriptorMember.table_lawful inner).isField hf).cases hNames hDecode
    simp only [DescriptorMember.table, List.forall_mem_cons, List.not_mem_nil, false_imp_iff,
      implies_true, and_true] at hField
    obtain ⟨hId, hFormat, hPath, hNested⟩ := hField
    -- field by field: one that is missing among the members is missing in the lists as well
    rw [Option.bind_some, descriptorOfMembers_eq, Descriptor.ofJson?_object, Descriptor.nestedMember?_eq]
    rcases hId with ⟨hGet, hIds⟩ | ⟨v, id, hGet, hId, hIds⟩
    · rw [hGet, hIds]
      rfl
    rw [hGet, hIds]
    rcases hFormat with ⟨hGet, hFormats⟩ | ⟨w, format, hGet, hFormat, hFormats⟩
    · rw [hGet, hFormats]
      rfl
    rw [hGet, hFormats]
    rcases hPath with ⟨hGet, hPaths⟩ | ⟨u, path, hGet, hPath, hPaths⟩
    · rw [hGet, hPaths]
      rfl
    rw [hGet, hPaths]
    rcases hNested with ⟨hGet, hNested⟩ | ⟨x, d, hGet, hInner, hNested⟩
    · rw [hGet, hNested]
      simp [Descriptor.ofFields?, CredentialFormat.ofJson?, hId, hFormat, hPath]
    · rw [hGet, hNested]
      simp [Descriptor.ofFields?, CredentialFormat.ofJson?, hId, hFormat, hPath, hInner]

/-- The fields of a descriptor in a row. -/
def descriptorRow (inner : Reader Descriptor) : Reader Descriptor :=
  readField readText ',' fun id => readField readText ',' fun format => readField readText ',' fun path =>
    readField (readNullable inner) ']' fun nested rest =>
      some (.mk id (CredentialFormat.ofName format) path nested, rest)

/-- With a level left a descriptor is a record, and its nested descriptor has the levels below. -/
theorem readDescriptor_succ (depth : Nat) :
    (fun cs => readDescriptor (depth + 1) cs) =
      readRecord (descriptorRow fun r => readDescriptor depth r)
        (readDescriptorMember fun r => readDescriptor depth r) descriptorOfMembers :=
  rfl

/-- What the values of such a row are decoded as. -/
def descriptorFields : List Json → Option Descriptor :=
  fieldThen Json.asString? fun id => fieldThen Json.asString? fun format =>
    fieldThen Json.asString? fun path =>
      fieldLast (Json.nullable Descriptor.ofJson?) fun nested =>
        .mk id (CredentialFormat.ofName format) path nested

/-- The descriptor of an array is that of its four fields. -/
theorem descriptorFields_eq (items : List Json) :
    descriptorFields items = Descriptor.ofJson? (.array items) := by
  match items with
  | [] | [_] | [_, _] | [_, _, _] | _ :: _ :: _ :: _ :: _ :: _ =>
    rw [Descriptor.ofJson?_array_of_length (by simp)]
    simp [descriptorFields, fieldThen, fieldLast]
  | [id, format, path, nested] =>
    rw [Descriptor.ofJson?_array]
    simp only [descriptorFields, fieldThen, fieldLast, Descriptor.ofFields?, CredentialFormat.ofJson?]
    cases id.asString? with
    | none => simp
    | some id =>
      cases format.asString? with
      | none => simp
      | some format =>
        cases path.asString? with
        | none => simp
        | some path => cases Json.nullable Descriptor.ofJson? nested <;> rfl

/-- The fields of a descriptor in a row are read as the array is. -/
theorem descriptorRow_agrees {inner : Reader Descriptor} {items : List Json} (hItems : ∀ w ∈ items, Proper w)
    (hInner : ∀ w ∈ items, Agrees inner Descriptor.ofJson? w) :
    RowAgrees (descriptorRow inner) Descriptor.ofJson? items := by
  have hText : ∀ w, Proper w ∧ Agrees inner Descriptor.ofJson? w → Agrees readText Json.asString? w :=
    fun w hw => readText_agrees hw.1
  have hNested : ∀ w, Proper w ∧ Agrees inner Descriptor.ofJson? w →
      Agrees (readNullable inner) (Json.nullable Descriptor.ofJson?) w :=
    fun w hw => readNullable_agrees hw.1 hw.2
  have hRow : RowReads (fun w => Proper w ∧ Agrees inner Descriptor.ofJson? w) (descriptorRow inner)
      descriptorFields :=
    .comma hText fun _ => .comma hText fun _ => .comma hText fun _ => .close hNested _
  exact hRow.rowAgrees descriptorFields_eq (fun _ => rfl) fun w hw => ⟨hItems w hw, hInner w hw⟩

/-- **The text of a descriptor is read as the value is**, nested descriptors included. -/
theorem readDescriptor_agrees {depth : Nat} {v : Json} (hv : Proper v) (hNests : v.NestsWithin depth) :
    Agrees (fun r => readDescriptor depth r) Descriptor.ofJson? v := by
  -- on the nesting that is left: a nested descriptor has one level less
  induction depth generalizing v with
  | zero =>
    have hNone : Descriptor.ofJson? v = none := by
      cases v with
      | array items => exact hNests.elim
      | object members => exact hNests.elim
      | null | bool b | number n | string s => simp [Descriptor.ofJson?]
    intro rest _
    rw [hNone]
    rfl
  | succ depth ih =>
    have hMembers : ∀ members, v = .object members →
        (∀ m ∈ members, ReadsAs (readDescriptorMember fun r => readDescriptor depth r) memberChars '\x7d'
          (DescriptorMember.table fun r => readDescriptor depth r).decode m) ∧
        (members.mapM (DescriptorMember.table fun r => readDescriptor depth r).decode).bind
          descriptorOfMembers = Descriptor.ofJson? v := by
      rintro members rfl
      refine ⟨fun m hm => ?_, bind_descriptorOfMembers hv.names_nodup⟩
      exact readDescriptorMember_readsAs (hv.member hm) (ih (hv.member hm) (hNests m hm))
    rw [readDescriptor_succ]
    refine readRecord_agrees hv ?_ hMembers ?_
    · rintro items rfl
      exact descriptorRow_agrees (fun w hw => hv.item hw) fun w hw => ih (hv.item hw) (hNests w hw)
    · intro hArray hObject
      cases v with
      | array items => exact absurd rfl (hArray items)
      | object members => exact absurd rfl (hObject members)
      | null | bool b | number n | string s => simp [Descriptor.ofJson?]

/-! ## Submissions -/

/-- A list of descriptors is read as the array of them is. -/
theorem readDescriptors_agrees {depth : Nat} {v : Json} (hv : Proper v) (hNests : v.NestsWithin (depth + 1)) :
    Agrees (readDescriptors depth) (Json.asArrayOf? Descriptor.ofJson?) v := by
  intro rest _
  by_cases hArray : ∃ items, v = .array items
  · obtain ⟨items, rfl⟩ := hArray
    have hItems : ∀ w ∈ items, ReadsAs (readDescriptor depth) compactChars ']' Descriptor.ofJson? w :=
      fun w hw => (readDescriptor_agrees (hv.item hw) (hNests w hw)).readsAs (Or.inl rfl)
    have hFirst : ∀ w ∈ items, ∃ c cs, w.compactChars = c :: cs ∧ Json.isSpace c = false ∧ c ≠ ']' := by
      intro w hw
      refine Json.compactChars_first ?_
      rintro n rfl
      exact hv.numbers n (.item hw .self)
    rw [Json.array_append]
    exact Json.readSequence_mapM (by decide) hFirst hItems rest
  · obtain ⟨c, cs, hText, hOpens⟩ := hv.exists_opens
    have hBracket : c ≠ '[' := fun hc => hArray (hOpens.array.mp hc)
    have hNone : Json.asArrayOf? Descriptor.ofJson? v = none := by
      cases v with
      | array items => exact absurd ⟨items, rfl⟩ hArray
      | null | bool b | number n | string s | object members => rfl
    rw [hText, List.cons_append, readDescriptors, readMark, hOpens.skipSpace, hNone]
    dsimp only
    rw [if_neg hBracket]
    rfl

namespace Member

/-- The identifier that a member gives. -/
def id? : Member → Option String
  | .id s => some s
  | _ => none

/-- The identifier of the definition that a member gives. -/
def definitionId? : Member → Option String
  | .definitionId s => some s
  | _ => none

/-- The descriptors that a member gives. -/
def descriptors? : Member → Option (List Descriptor)
  | .descriptors ds => some ds
  | _ => none

/-- The fields of a submission's object, with the depth that is left for each descriptor. -/
def table (depth : Nat) : RecordTable Member where
  fields :=
    [⟨"id", readText, Json.asString?, .id, id?⟩,
      ⟨"definition_id", readText, Json.asString?, .definitionId, definitionId?⟩,
      ⟨"descriptor_map", readDescriptors depth, Json.asArrayOf? Descriptor.ofJson?, .descriptors,
        descriptors?⟩]
  other := .unknown

/-- The three names differ, and so do the members that they give. -/
theorem table_lawful (depth : Nat) : (table depth).Lawful := by
  constructor <;> simp [table, RecordTable.field?, id?, definitionId?, descriptors?]

end Member

/-- The choice between the names is the one of the table. -/
theorem readMember_eq (depth : Nat) : readMember depth = (Member.table depth).read := by
  funext cs
  unfold readMember RecordTable.read
  congr 1
  funext member
  obtain ⟨name, value⟩ := member
  dsimp only [RecordTable.field?, Member.table]
  by_cases hId : name = "id"
  · subst hId; rfl
  by_cases hDefinition : name = "definition_id"
  · subst hDefinition; rfl
  by_cases hMap : name = "descriptor_map"
  · subst hMap; rfl
  simp [hId, hDefinition, hMap]

theorem readMember_readsAs {depth : Nat} {m : String × Json} (hm : Proper m.2)
    (hNests : m.2.NestsWithin (depth + 1)) :
    ReadsAs (readMember depth) memberChars '\x7d' (Member.table depth).decode m := by
  rw [readMember_eq]
  refine RecordTable.read_readsAs hm ?_
  simp [Member.table, readText_agrees hm, readDescriptors_agrees hm hNests]

theorem ofJson?_object (members : Json.Object) :
    ofJson? (.object members) =
      (Json.Object.get? members "id").bind fun id =>
      (Json.Object.get? members "definition_id").bind fun definitionId =>
      (Json.Object.get? members "descriptor_map").bind fun descriptors =>
        ofFields? id definitionId descriptors :=
  rfl

/-- A field that is not of its form leaves no submission. -/
theorem ofJson?_eq_none_of_field {depth : Nat} {f : RecordField Member} (hf : f ∈ (Member.table depth).fields)
    {members : Json.Object} {v : Json} (hGet : Json.Object.get? members f.name = some v)
    (hRefused : f.decode v = none) : ofJson? (.object members) = none := by
  rw [ofJson?_object]
  simp only [Member.table, List.mem_cons, List.not_mem_nil, or_false] at hf
  rcases hf with rfl | rfl | rfl <;> simp_all [ofFields?]

/-- A submission is made of the members that give its fields, each of them once. -/
theorem ofMembers_eq (ms : List Member) :
    ofMembers ms =
      match ms.filterMap Member.id?, ms.filterMap Member.definitionId?, ms.filterMap Member.descriptors? with
      | [id], [definitionId], [ds] => some ⟨id, definitionId, ds⟩
      | _, _, _ => none :=
  rfl

/-- The members of an object give the submission that the object stands for. -/
theorem bind_ofMembers {depth : Nat} {members : Json.Object} (hNames : (members.map Prod.fst).Nodup) :
    (members.mapM (Member.table depth).decode).bind ofMembers = ofJson? (.object members) := by
  cases hDecode : members.mapM (Member.table depth).decode with
  | none =>
    obtain ⟨f, hf, v, hGet, hRefused⟩ := RecordTable.exists_refused hNames hDecode
    rw [ofJson?_eq_none_of_field hf hGet hRefused, Option.bind_none]
  | some ms =>
    have hField := fun f (hf : f ∈ (Member.table depth).fields) =>
      ((Member.table_lawful depth).isField hf).cases hNames hDecode
    simp only [Member.table, List.forall_mem_cons, List.not_mem_nil, false_imp_iff, implies_true,
      and_true] at hField
    obtain ⟨hId, hDefinitionId, hMap⟩ := hField
    -- as with descriptors, a field that is missing among the members is missing in the lists
    rw [Option.bind_some, ofMembers_eq, ofJson?_object]
    rcases hId with ⟨hGet, hIds⟩ | ⟨v, id, hGet, hId, hIds⟩
    · rw [hGet, hIds]
      rfl
    rw [hGet, hIds]
    rcases hDefinitionId with ⟨hGet, hDefinitionIds⟩ | ⟨w, definitionId, hGet, hDefinitionId, hDefinitionIds⟩
    · rw [hGet, hDefinitionIds]
      rfl
    rw [hGet, hDefinitionIds]
    rcases hMap with ⟨hGet, hMaps⟩ | ⟨u, ds, hGet, hMap, hMaps⟩
    · rw [hGet, hMaps]
      rfl
    · rw [hGet, hMaps]
      simp [ofFields?, hId, hDefinitionId, hMap]

/-- The fields of a submission in a row. -/
def submissionRow (depth : Nat) : Reader Submission :=
  readField readText ',' fun id => readField readText ',' fun definitionId =>
    readField (readDescriptors depth) ']' fun ds rest => some (⟨id, definitionId, ds⟩, rest)

/-- A submission is a record, and its descriptors stand two levels below it. -/
theorem readSubmission_eq :
    readSubmission =
      readRecord (submissionRow (Json.nestingLimit - 2)) (readMember (Json.nestingLimit - 2)) ofMembers :=
  rfl

/-- What the values of such a row are decoded as. -/
def submissionFields : List Json → Option Submission :=
  fieldThen Json.asString? fun id => fieldThen Json.asString? fun definitionId =>
    fieldLast (Json.asArrayOf? Descriptor.ofJson?) fun ds => ⟨id, definitionId, ds⟩

/-- The submission of an array is that of its three fields. -/
theorem submissionFields_eq (items : List Json) : submissionFields items = ofJson? (.array items) := by
  match items with
  | [] | [_] => rfl
  | [_, _] | _ :: _ :: _ :: _ :: _ => simp [submissionFields, fieldThen, fieldLast, ofJson?]
  | [_, _, _] => rfl

theorem submissionRow_agrees {depth : Nat} {items : List Json} (hItems : ∀ w ∈ items, Proper w)
    (hNests : ∀ w ∈ items, w.NestsWithin (depth + 1)) :
    RowAgrees (submissionRow depth) ofJson? items := by
  have hText : ∀ w, Proper w ∧ w.NestsWithin (depth + 1) → Agrees readText Json.asString? w :=
    fun w hw => readText_agrees hw.1
  have hDescriptors : ∀ w, Proper w ∧ w.NestsWithin (depth + 1) →
      Agrees (readDescriptors depth) (Json.asArrayOf? Descriptor.ofJson?) w :=
    fun w hw => readDescriptors_agrees hw.1 hw.2
  have hRow : RowReads (fun w => Proper w ∧ w.NestsWithin (depth + 1)) (submissionRow depth)
      submissionFields :=
    .comma hText fun _ => .comma hText fun _ => .close hDescriptors _
  exact hRow.rowAgrees submissionFields_eq (fun _ => rfl) fun w hw => ⟨hItems w hw, hNests w hw⟩

/-- **The text of a submission is read as the value is.** -/
theorem readSubmission_agrees {v : Json} (hv : Proper v) (hNests : v.NestsWithin Json.nestingLimit) :
    Agrees readSubmission ofJson? v := by
  -- the submission and the list of its descriptors take two levels of the nesting
  have hLimit : Json.nestingLimit = Json.nestingLimit - 2 + 1 + 1 := by decide
  rw [hLimit] at hNests
  have hMembers : ∀ members, v = .object members →
      (∀ m ∈ members, ReadsAs (readMember (Json.nestingLimit - 2)) memberChars '\x7d'
        (Member.table (Json.nestingLimit - 2)).decode m) ∧
      (members.mapM (Member.table (Json.nestingLimit - 2)).decode).bind ofMembers = ofJson? v := by
    rintro members rfl
    exact ⟨fun m hm => readMember_readsAs (hv.member hm) (hNests m hm), bind_ofMembers hv.names_nodup⟩
  rw [readSubmission_eq]
  refine readRecord_agrees hv ?_ hMembers ?_
  · rintro items rfl
    exact submissionRow_agrees (fun w hw => hv.item hw) fun w hw => hNests w hw
  · intro hArray hObject
    cases v with
    | array items => exact absurd rfl (hArray items)
    | object members => exact absurd rfl (hObject members)
    | null | bool b | number n | string s => rfl

/-- **A submission means the same as a value and as its text.** For every value that is no string and nests
within the limit of the reader, the parameter that holds the text of the value is the submission that the
value stands for, and none if the value stands for none. -/
theorem ofParameter?_compact {v : Json} (hv : Proper v) (hNests : v.NestsWithin Json.nestingLimit)
    (hNoString : ∀ s, v ≠ .string s) : ofParameter? (.string v.compact) = ofParameter? v := by
  have hRead := readSubmission_agrees hv hNests [] Json.ends_nil
  -- a string is read as text, and all other values are decoded
  have hText : ofParameter? (.string v.compact) = ofJson? v := by
    show Json.whole readSubmission v.compact.toList = _
    rw [List.append_nil] at hRead
    rw [Json.compact, String.toList_ofList, Json.whole, hRead]
    cases ofJson? v <;> rfl
  have hValue : ofParameter? v = ofJson? v := by
    cases v with
    | string s => exact absurd rfl (hNoString s)
    | null | bool b | number n | array items | object members => rfl
  rw [hText, hValue]

/-- A submission with a member that no submission has, a number in an object, and with a nested descriptor
that is written as a row. -/
def mixedSubmission : Json :=
  .object
    [("definition_id", .string "p"),
      ("descriptor_map", .array [.object
        [("format", .string "jwt"), ("id", .string "d"), ("path", .string "$"),
          ("path_nested", .array [.string "d", .string "jwt", .string "$.a", .null]),
          ("x", .object [("y", .number ⟨true, ['1'].map Json.Digit.ofChar, [], none⟩)])]]),
      ("id", .string "s")]

set_option maxRecDepth 2000 in
/-- The nested descriptor has the same path in the text and in the value. -/
theorem ofParameter?_compact_mixed :
    mixedSubmission.Proper ∧ mixedSubmission.NestsWithin Json.nestingLimit ∧
      (∀ s, mixedSubmission ≠ .string s) ∧
      ofParameter? (.string mixedSubmission.compact) = ofParameter? mixedSubmission ∧
      (ofParameter? mixedSubmission).map (fun s => s.descriptors.map fun d => d.nested.map Descriptor.path) =
        some [some "$.a"] := by
  have hText : Json.parse mixedSubmission.compact = some mixedSubmission := rfl
  have hProper := Json.proper_of_parse hText
  have hNests := Json.nestsWithin_of_parse hText
  have hNoString : ∀ s, mixedSubmission ≠ .string s := by
    rintro s ⟨⟩
  exact ⟨hProper, hNests, hNoString, ofParameter?_compact hProper hNests hNoString, by decide +kernel⟩

end Submission

end PresentationVerifier
