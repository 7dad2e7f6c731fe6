import PresentationVerifier.Json.Reader

/-!
# What is read from JSON text

Not every value is read from some text. What the reader gives nests within its limit, has the members of
its objects in the order of their names, and its numbers are written as the grammar has them. All three
are shown by one induction (`readValue_induction`): a property has to hold of values without parts, and
of an array and an object if it holds of what they have in them, one level deeper.

Main results:

* `readValue_induction`: what holds of every value that is read.
* `nestsWithin_of_parse`, `ordered_of_parse`, `wellFormed_of_parse`: the three properties.
-/

namespace PresentationVerifier.Json

/-! ## Numbers -/

/-- The digits before the point are at least one, and a zero in front stands alone. -/
theorem whole_of_readWhole {cs rest : List Char} {whole : List Digit}
    (h : readWhole cs = some (whole, rest)) :
    whole ≠ [] ∧ (whole.head? = some 0 → whole.length = 1) := by
  unfold readWhole at h
  split at h
  · cases h
  · next d ds _ _ =>
    split at h
    · cases h
    · next hLeading =>
      obtain ⟨rfl, -⟩ := Prod.mk.inj (Option.some.inj h)
      refine ⟨List.cons_ne_nil d ds, fun hZero => ?_⟩
      -- a zero in front of other digits was refused
      have hValue : d.val = 0 := by
        rw [List.head?_cons, Option.some.injEq] at hZero
        rw [hZero]
        rfl
      cases ds with
      | nil => rfl
      | cons e es => exact absurd ⟨hValue, List.cons_ne_nil e es⟩ hLeading

/-- An exponent that is read has digits. -/
theorem digits_of_readExponent {cs rest : List Char} {exponent : Option Exponent}
    (h : readExponent cs = some (exponent, rest)) : ∀ e ∈ exponent, e.digits ≠ [] := by
  intro e he
  unfold readExponent at h
  -- no letter, one without digits behind it, or an exponent
  split at h
  · obtain ⟨rfl, -⟩ := Prod.mk.inj (Option.some.inj h)
    cases he
  · split at h
    · split at h
      · cases h
      · next ds _ hSome _ =>
        obtain ⟨rfl, -⟩ := Prod.mk.inj (Option.some.inj h)
        obtain rfl := Option.some.inj he
        exact hSome
    · obtain ⟨rfl, -⟩ := Prod.mk.inj (Option.some.inj h)
      cases he

/-- A number that is read is written as the grammar has it. -/
theorem wellFormed_of_readNumber {cs rest : List Char} {n : Number}
    (h : readNumber cs = some (n, rest)) : n.WellFormed := by
  unfold readNumber at h
  obtain ⟨⟨whole, afterWhole⟩, hWhole, h⟩ := Option.bind_eq_some_iff.mp h
  obtain ⟨⟨fraction, afterFraction⟩, -, h⟩ := Option.bind_eq_some_iff.mp h
  obtain ⟨⟨exponent, afterExponent⟩, hExponent, h⟩ := Option.map_eq_some_iff.mp h
  obtain ⟨rfl, -⟩ := Prod.mk.inj h
  obtain ⟨hSome, hLeading⟩ := whole_of_readWhole hWhole
  exact ⟨hSome, hLeading, digits_of_readExponent hExponent⟩

theorem wellFormed_of_numberOf? {s : String} {n : Number} (h : numberOf? s = some n) :
    n.WellFormed := by
  unfold numberOf? at h
  split at h
  · next hRead =>
    obtain rfl := Option.some.inj h
    exact wellFormed_of_readNumber hRead
  · cases h

/-! ## Items and members -/

/-- Every item of a row was read somewhere. -/
theorem mem_of_readItems {α : Type} {item : Reader α} {close : Char} {fuel : Nat} {cs rest : List Char}
    {as : List α} (h : readItems item close fuel cs = some (as, rest)) :
    ∀ a ∈ as, ∃ front back, item front = some (a, back) := by
  -- by induction on the fuel, of which each item takes one unit
  induction fuel generalizing cs as with
  | zero => cases h
  | succ fuel ih =>
    rw [readItems] at h
    cases hFirst : item cs with
    | none => simp [hFirst] at h
    | some first =>
      obtain ⟨a, back⟩ := first
      simp only [hFirst] at h
      split at h
      · cases h
      · split at h
        · -- a comma, and more items behind it
          obtain ⟨⟨more, _⟩, hMore, hAll⟩ := Option.map_eq_some_iff.mp h
          obtain ⟨rfl, rfl⟩ := Prod.mk.inj hAll
          intro b hb
          rcases List.mem_cons.mp hb with rfl | hb
          · exact ⟨cs, back, hFirst⟩
          · exact ih hMore b hb
        · split at h
          · obtain ⟨rfl, -⟩ := Prod.mk.inj (Option.some.inj h)
            intro b hb
            obtain rfl := List.mem_singleton.mp hb
            exact ⟨cs, back, hFirst⟩
          · cases h

theorem mem_of_readSequence {α : Type} {item : Reader α} {close : Char} {cs rest : List Char}
    {as : List α} (h : readSequence item close cs = some (as, rest)) :
    ∀ a ∈ as, ∃ front back, item front = some (a, back) := by
  unfold readSequence at h
  split at h
  · cases h
  · split at h
    · obtain ⟨rfl, -⟩ := Prod.mk.inj (Option.some.inj h)
      simp
    · exact mem_of_readItems h

/-- The value of a member was read behind its name. -/
theorem value_of_readMember {α : Type} {value : Reader α} {cs rest : List Char} {m : String × α}
    (h : readMember value cs = some (m, rest)) : ∃ front back, value front = some (m.2, back) := by
  obtain ⟨⟨name, front⟩, -, hAfter⟩ := Option.bind_eq_some_iff.mp h
  obtain ⟨⟨v, back⟩, hValue, hMember⟩ := Option.map_eq_some_iff.mp hAfter
  obtain ⟨rfl, -⟩ := Prod.mk.inj hMember
  exact ⟨front, back, hValue⟩

/-! ## Objects -/

/-- A member of an object in which one was set is that one, or was there before. -/
theorem Object.mem_of_mem_insert {o : Object} {key : String} {value : Json} {m : String × Json}
    (h : m ∈ o.insert key value) : m = (key, value) ∨ m ∈ o := by
  induction o with
  | nil => exact Or.inl (List.mem_singleton.mp h)
  | cons first rest ih =>
    obtain ⟨k, v⟩ := first
    rw [insert] at h
    -- the name is that of the first member, before it, or behind it
    split at h
    · rcases List.mem_cons.mp h with rfl | h
      · exact Or.inl rfl
      · exact Or.inr (List.mem_cons_of_mem _ h)
    · split at h
      · exact List.mem_cons.mp h
      · rcases List.mem_cons.mp h with rfl | h
        · exact Or.inr List.mem_cons_self
        · rcases ih h with rfl | h
          · exact Or.inl rfl
          · exact Or.inr (List.mem_cons_of_mem _ h)

/-- Of members that are set one after the other none is made up. -/
theorem Object.mem_of_mem_foldl_insert {members : List (String × Json)} {o : Object}
    {m : String × Json} (h : m ∈ members.foldl (fun o m => o.insert m.1 m.2) o) :
    m ∈ o ∨ m ∈ members := by
  induction members generalizing o with
  | nil => exact Or.inl h
  | cons first rest ih =>
    rcases ih h with h | h
    · rcases mem_of_mem_insert h with rfl | h
      · exact Or.inr List.mem_cons_self
      · exact Or.inl h
    · exact Or.inr (List.mem_cons_of_mem _ h)

/-- Of members with one name the last is kept, and none is made up. -/
theorem Object.mem_of_mem_ofMembers {members : List (String × Json)} {m : String × Json}
    (h : m ∈ ofMembers members) : m ∈ members := by
  rcases mem_of_mem_foldl_insert h with hNone | hMember
  · cases hNone
  · exact hMember

/-- A member is set in the place where the order of names puts it. -/
theorem Object.pairwise_insert {o : Object} (h : (o.map Prod.fst).Pairwise (· < ·)) (key : String)
    (value : Json) : ((o.insert key value).map Prod.fst).Pairwise (· < ·) := by
  -- by induction on the members, which are passed until the place is found
  induction o with
  | nil => simp [insert]
  | cons first rest ih =>
    obtain ⟨k, v⟩ := first
    rw [List.map_cons, List.pairwise_cons] at h
    obtain ⟨hFirst, hRest⟩ := h
    rw [insert]
    split
    · next hSame =>
      subst hSame
      exact List.pairwise_cons.mpr ⟨hFirst, hRest⟩
    split
    · next hLess =>
      -- the new name is below the first one, and so below all others
      refine List.pairwise_cons.mpr ⟨?_, List.pairwise_cons.mpr ⟨hFirst, hRest⟩⟩
      intro name hName
      rcases List.mem_cons.mp hName with rfl | hName
      · exact hLess
      · exact String.lt_trans hLess (hFirst name hName)
    · next hOther hNotLess =>
      have hGreater : k < key := by
        rcases Std.lt_trichotomy key k with hLess | hSame | hGreater
        · exact absurd hLess hNotLess
        · exact absurd hSame hOther
        · exact hGreater
      refine List.pairwise_cons.mpr ⟨?_, ih hRest⟩
      intro name hName
      obtain ⟨m, hm, rfl⟩ := List.mem_map.mp hName
      rcases mem_of_mem_insert hm with rfl | hm
      · exact hGreater
      · exact hFirst m.1 (List.mem_map_of_mem hm)

theorem Object.pairwise_ofMembers (members : List (String × Json)) :
    ((ofMembers members).map Prod.fst).Pairwise (· < ·) := by
  -- for any object in order that the members are set in
  have hFold : ∀ o : Object, (o.map Prod.fst).Pairwise (· < ·) →
      ((members.foldl (fun o m => o.insert m.1 m.2) o).map Prod.fst).Pairwise (· < ·) := by
    induction members with
    | nil => exact fun o h => h
    | cons m rest ih => exact fun o h => ih _ (pairwise_insert h m.1 m.2)
  exact hFold [] List.Pairwise.nil

/-- A member of a new name is added to those that there are. -/
theorem Object.perm_insert {o : Object} {key : String} (h : key ∉ o.map Prod.fst) (value : Json) :
    (o.insert key value).Perm ((key, value) :: o) := by
  -- by induction on the members, none of which has the name
  induction o with
  | nil => exact List.Perm.refl _
  | cons first rest ih =>
    obtain ⟨k, v⟩ := first
    rw [List.map_cons, List.mem_cons, not_or] at h
    obtain ⟨hOther, hRest⟩ := h
    rw [insert, if_neg hOther]
    split
    · exact List.Perm.refl _
    · exact ((ih hRest).cons (k, v)).trans (List.Perm.swap (key, value) (k, v) rest)

/-- If no name is set twice, all members are kept. -/
theorem Object.perm_ofMembers {members : List (String × Json)} (h : (members.map Prod.fst).Nodup) :
    (ofMembers members).Perm members := by
  -- for an object that is there already and has none of the names
  have hFold : ∀ o : Object, ((members ++ o).map Prod.fst).Nodup →
      (members.foldl (fun o m => o.insert m.1 m.2) o).Perm (members ++ o) := by
    clear h
    induction members with
    | nil => exact fun o _ => List.Perm.refl o
    | cons m rest ih =>
      intro o hNodup
      rw [List.cons_append, List.map_cons, List.nodup_cons] at hNodup
      obtain ⟨hNew, hRest⟩ := hNodup
      have hNotSet : m.1 ∉ o.map Prod.fst := by
        intro hSet
        exact hNew (by rw [List.map_append]; exact List.mem_append_right _ hSet)
      have hInsert : (o.insert m.1 m.2).Perm (m :: o) := perm_insert hNotSet m.2
      have hMiddle : (rest ++ o.insert m.1 m.2).Perm (m :: (rest ++ o)) :=
        (hInsert.append_left rest).trans List.perm_middle
      have hNames : ((rest ++ o.insert m.1 m.2).map Prod.fst).Nodup := by
        rw [(hMiddle.map Prod.fst).nodup_iff, List.map_cons, List.nodup_cons]
        exact ⟨hNew, hRest⟩
      exact (ih _ hNames).trans hMiddle
  have hAll := hFold [] (by rwa [List.append_nil])
  rwa [List.append_nil] at hAll

/-- In an object no name comes twice. -/
theorem Object.nodup_names {o : Object} (hOrdered : (o.map Prod.fst).Pairwise (· < ·)) :
    (o.map Prod.fst).Nodup := by
  refine hOrdered.imp ?_
  rintro a b hLess rfl
  exact String.lt_irrefl a hLess

/-- The order in which members are set does not matter if no name is set twice. -/
theorem Object.ofMembers_eq_of_perm {members : List (String × Json)} {o : Object}
    (hPerm : members.Perm o) (hOrdered : (o.map Prod.fst).Pairwise (· < ·)) : ofMembers members = o := by
  have hNames : (members.map Prod.fst).Nodup := (hPerm.map Prod.fst).nodup_iff.mpr (nodup_names hOrdered)
  have hSorted := pairwise_ofMembers members
  rw [List.pairwise_map] at hSorted hOrdered
  -- both lists have their names in order, so they are the same list
  refine List.Perm.eq_of_pairwise ?_ hSorted hOrdered ((perm_ofMembers hNames).trans hPerm)
  intro a b _ _ hLess hGreater
  exact absurd (String.lt_trans hLess hGreater) (String.lt_irrefl a.1)

/-! ## Values -/

/-- A value without parts. A number is written as the grammar has it. -/
def Scalar : Json → Prop
  | .array _ => False
  | .object _ => False
  | .number n => n.WellFormed
  | _ => True

/-- Between two braces stands a number or an object of the members. -/
theorem cases_of_ofBraces {members : List (String × Json)} {v : Json} (h : ofBraces members = some v) :
    (∃ n : Number, v = .number n ∧ n.WellFormed) ∨ v = .object (Object.ofMembers members) := by
  unfold ofBraces at h
  -- a number is announced by the name of the first member, and has to be the only one
  split at h
  · exact Or.inr (Option.some.inj h).symm
  · split at h
    · split at h
      · obtain ⟨n, hNumber, rfl⟩ := Option.map_eq_some_iff.mp h
        exact Or.inl ⟨n, rfl, wellFormed_of_numberOf? hNumber⟩
      · cases h
    · exact Or.inr (Option.some.inj h).symm

/-- A value that is read is a scalar, or was read behind an opening bracket or an opening brace. -/
theorem cases_of_readValueWith {array object : Reader Json} {cs rest : List Char} {v : Json}
    (h : readValueWith array object cs = some (v, rest)) :
    Scalar v ∨ (∃ front, array front = some (v, rest)) ∨ ∃ front, object front = some (v, rest) := by
  -- what is read as a scalar is one, whatever is made of it
  have hScalar : ∀ {α : Type} {read : Option (α × List Char)} {f : α → Json},
      (∀ a back, read = some (a, back) → Scalar (f a)) →
      read.map (fun r => (f r.1, r.2)) = some (v, rest) → Scalar v := by
    intro α read f hf hRead
    obtain ⟨⟨a, back⟩, hSome, hr⟩ := Option.map_eq_some_iff.mp hRead
    obtain ⟨rfl, -⟩ := Prod.mk.inj hr
    exact hf a back hSome
  unfold readValueWith at h
  split at h
  · cases h
  split at h
  · exact Or.inl (hScalar (f := .string) (fun _ _ _ => trivial) h)
  split at h
  · exact Or.inr (Or.inl ⟨_, h⟩)
  split at h
  · exact Or.inr (Or.inr ⟨_, h⟩)
  split at h
  · exact Or.inl (hScalar (f := fun _ => .null) (fun _ _ _ => trivial) h)
  split at h
  · exact Or.inl (hScalar (f := fun _ => .bool true) (fun _ _ _ => trivial) h)
  split at h
  · exact Or.inl (hScalar (f := fun _ => .bool false) (fun _ _ _ => trivial) h)
  · exact Or.inl (hScalar (f := .number) (fun _ _ hRead => wellFormed_of_readNumber hRead) h)

/-- **Induction over what is read.** A property of values at a depth holds of every value that is read with
that depth, if it holds of scalars, and of arrays and objects one level around values that have it. -/
theorem readValue_induction {P : Nat → Json → Prop} (scalar : ∀ limit v, Scalar v → P limit v)
    (array : ∀ limit items, (∀ v ∈ items, P limit v) → P (limit + 1) (.array items))
    (object : ∀ limit members, (∀ m ∈ members, P limit m.2) →
      P (limit + 1) (.object (Object.ofMembers members)))
    {limit : Nat} {cs rest : List Char} {v : Json} (h : readValue limit cs = some (v, rest)) :
    P limit v := by
  -- by induction on the nesting that is left, which brackets and braces take up
  induction limit generalizing cs rest v with
  | zero =>
    rcases cases_of_readValueWith h with hScalar | ⟨_, hNone⟩ | ⟨_, hNone⟩
    · exact scalar 0 v hScalar
    · cases hNone
    · cases hNone
  | succ limit ih =>
    rcases cases_of_readValueWith h with hScalar | ⟨front, hArray⟩ | ⟨front, hObject⟩
    · exact scalar _ v hScalar
    · obtain ⟨⟨items, back⟩, hItems, hv⟩ := Option.map_eq_some_iff.mp hArray
      obtain ⟨rfl, -⟩ := Prod.mk.inj hv
      refine array limit items fun w hw => ?_
      obtain ⟨_, _, hRead⟩ := mem_of_readSequence hItems w hw
      exact ih hRead
    · obtain ⟨⟨members, back⟩, hMembers, hBraces⟩ := Option.bind_eq_some_iff.mp hObject
      obtain ⟨v', hv', hv⟩ := Option.map_eq_some_iff.mp hBraces
      obtain ⟨rfl, -⟩ := Prod.mk.inj hv
      rcases cases_of_ofBraces hv' with ⟨n, rfl, hNumber⟩ | rfl
      · exact scalar _ _ hNumber
      · refine object limit members fun m hm => ?_
        obtain ⟨_, _, hRead⟩ := mem_of_readSequence hMembers m hm
        obtain ⟨_, _, hValue⟩ := value_of_readMember hRead
        exact ih hValue

/-- A text that is parsed is read at its front, with the nesting that is allowed. -/
theorem readValue_of_parse {text : String} {v : Json} (h : parse text = some v) :
    ∃ rest, readValue nestingLimit text.toList = some (v, rest) := by
  unfold parse whole at h
  split at h
  · next w rest hRead =>
    split at h
    · obtain rfl := Option.some.inj h
      exact ⟨rest, hRead⟩
    · cases h
  · cases h

/-! ## Nesting -/

/-- Around no value in the tree stand more than that many arrays and objects, itself included. -/
def NestsWithin : Nat → Json → Prop
  | 0, .array _ => False
  | 0, .object _ => False
  | limit + 1, .array items => ∀ v ∈ items, NestsWithin limit v
  | limit + 1, .object members => ∀ m ∈ members, NestsWithin limit m.2
  | _, _ => True

theorem nestsWithin_of_scalar {v : Json} (h : Scalar v) (limit : Nat) : NestsWithin limit v := by
  cases v with
  | array items => cases h
  | object members => cases h
  | null | bool b | number n | string s => cases limit <;> trivial

/-- A text that is read nests within the limit of the reader. -/
theorem nestsWithin_of_parse {text : String} {v : Json} (h : parse text = some v) :
    NestsWithin nestingLimit v := by
  obtain ⟨rest, hRead⟩ := readValue_of_parse h
  refine readValue_induction (P := NestsWithin) (fun limit v hScalar => ?_) (fun limit items hItems => ?_)
    (fun limit members hMembers => ?_) hRead
  · exact nestsWithin_of_scalar hScalar limit
  · exact hItems
  · exact fun m hm => hMembers m (Object.mem_of_mem_ofMembers hm)

/-! ## Order of members -/

/-- Items are in order if each of them is. -/
@[simp] theorem itemsOrdered_iff {items : List Json} : ItemsOrdered items ↔ ∀ v ∈ items, v.Ordered := by
  induction items with
  | nil => simp [ItemsOrdered]
  | cons v rest ih => rw [ItemsOrdered, ih, List.forall_mem_cons]

@[simp] theorem membersOrdered_iff {members : List (String × Json)} :
    MembersOrdered members ↔ ∀ m ∈ members, m.2.Ordered := by
  induction members with
  | nil => simp [MembersOrdered]
  | cons m rest ih =>
    obtain ⟨name, v⟩ := m
    rw [MembersOrdered, ih, List.forall_mem_cons]

/-- In what is read all members are in order. -/
theorem ordered_of_parse {text : String} {v : Json} (h : parse text = some v) : v.Ordered := by
  obtain ⟨rest, hRead⟩ := readValue_of_parse h
  refine readValue_induction (P := fun _ v => v.Ordered) (fun limit v hScalar => ?_)
    (fun limit items hItems => ?_) (fun limit members hMembers => ?_) hRead
  · cases v with
    | array items => cases hScalar
    | object members => cases hScalar
    | null | bool b | number n | string s => trivial
  · exact itemsOrdered_iff.mpr hItems
  · refine ⟨Object.pairwise_ofMembers members, membersOrdered_iff.mpr fun m hm => ?_⟩
    exact hMembers m (Object.mem_of_mem_ofMembers hm)

/-! ## Parts -/

/-- A value is in the tree of another, or is the other. -/
inductive Part (u : Json) : Json → Prop where
  | self : Part u u
  | item {items : List Json} {v : Json} (hItem : v ∈ items) (hPart : Part u v) : Part u (.array items)
  | member {members : Object} {m : String × Json} (hMember : m ∈ members) (hPart : Part u m.2) :
      Part u (.object members)

/-- In what is read all numbers are written as the grammar has them. -/
theorem wellFormed_of_parse {text : String} {v : Json} (h : parse text = some v) {n : Number}
    (hPart : Part (.number n) v) : n.WellFormed := by
  obtain ⟨rest, hRead⟩ := readValue_of_parse h
  revert hPart
  refine readValue_induction (P := fun _ v => Part (.number n) v → n.WellFormed)
    (fun limit v hScalar hPart => ?_) (fun limit items hItems hPart => ?_)
    (fun limit members hMembers hPart => ?_) hRead
  · -- a scalar has no part but itself
    cases hPart with
    | self => exact hScalar
    | item => cases hScalar
    | member => cases hScalar
  · cases hPart with
    | item hItem hBelow => exact hItems _ hItem hBelow
  · cases hPart with
    | member hMember hBelow => exact hMembers _ (Object.mem_of_mem_ofMembers hMember) hBelow

end PresentationVerifier.Json
