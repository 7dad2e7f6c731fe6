import PresentationVerifier.Json.Number

/-!
# JSON values

A JSON value is a tree. The members of an object are kept in the order of their names, each name
once; `Object.insert` and `Object.ofMembers` keep that order, and `Json.Ordered` states it for a
whole tree.
-/

namespace PresentationVerifier

/-- A JSON value. -/
inductive Json where
  | null
  | bool (b : Bool)
  | number (n : Json.Number)
  | string (s : String)
  | array (items : List Json)
  | object (members : List (String × Json))
deriving Inhabited

namespace Json

/-- The members of an object, in the order of their names. -/
abbrev Object := List (String × Json)

namespace Object

/-- The value of the member with the given name. -/
def get? (o : Object) (key : String) : Option Json :=
  o.lookup key

/-- The object has a member with the given name. -/
def contains (o : Object) (key : String) : Bool :=
  (o.get? key).isSome

/-- Sets a member, in the place where the order of names puts it. -/
def insert (o : Object) (key : String) (value : Json) : Object :=
  match o with
  | [] => [(key, value)]
  | (k, v) :: rest =>
    if key = k then (key, value) :: rest
    else if key < k then (key, value) :: (k, v) :: rest
    else (k, v) :: insert rest key value

/-- The object that results when members are set one after the other, so that of two with the same
name the later one stays. -/
def ofMembers (members : List (String × Json)) : Object :=
  members.foldl (fun o m => o.insert m.1 m.2) []

/-- The object of the members that have a value. -/
def ofOptions (members : List (String × Option Json)) : Object :=
  ofMembers (members.filterMap fun m => m.2.map fun v => (m.1, v))

/-- What an object has for a name is its first member, if that is of the name, or what the others have. -/
@[simp] theorem get?_cons (name : String) (v : Json) (rest : Object) (key : String) :
    get? ((name, v) :: rest) key = if key = name then some v else get? rest key := by
  by_cases h : key = name
  · simp [get?, h]
  · have hb : (key == name) = false := by simpa using h
    rw [get?, List.lookup_cons, hb, if_neg h]
    rfl

/-- Setting a member changes that member only. -/
@[simp] theorem get?_insert (o : Object) (key : String) (value : Json) (k : String) :
    (o.insert key value).get? k = if k = key then some value else o.get? k := by
  induction o with
  | nil => simp [insert]
  | cons m rest ih =>
    obtain ⟨name, v⟩ := m
    by_cases hn : key = name
    · subst hn
      by_cases hk : k = key <;> simp [insert, hk]
    · by_cases hlt : key < name
      · simp [insert, hn, hlt]
      · by_cases hk : k = name
        · subst hk
          simp [insert, hn, hlt, Ne.symm hn]
        · simp [insert, hn, hlt, hk, ih]

/-- A member that is set twice has the later value. -/
@[simp] theorem insert_insert (o : Object) (key : String) (v w : Json) :
    (o.insert key v).insert key w = o.insert key w := by
  induction o with
  | nil => simp [insert]
  | cons m rest ih =>
    obtain ⟨name, u⟩ := m
    by_cases hn : key = name
    · simp [insert, hn]
    · by_cases hlt : key < name
      · simp [insert, hn, hlt]
      · simp [insert, hn, hlt, ih]

/-- If no name comes twice, every member is found by its name. -/
theorem get?_of_mem {o : Object} (hNames : (o.map Prod.fst).Nodup) {m : String × Json} (hm : m ∈ o) :
    o.get? m.1 = some m.2 := by
  induction o with
  | nil => cases hm
  | cons first rest ih =>
    obtain ⟨hNew, hRest⟩ := List.nodup_cons.mp hNames
    rw [get?_cons]
    rcases List.mem_cons.mp hm with rfl | hMore
    · exact if_pos rfl
    · have hOther : m.1 ≠ first.1 := by
        intro hSame
        exact hNew (hSame ▸ List.mem_map_of_mem hMore)
      rw [if_neg hOther, ih hRest hMore]

/-- The last member of a name is the one that counts. -/
@[simp] theorem get?_ofMembers (members : List (String × Json)) (key : String) :
    (ofMembers members).get? key = members.reverse.lookup key := by
  -- the last member stands in front once the members are reversed, and the induction takes it off
  have hReverse : ∀ members : List (String × Json),
      (ofMembers members.reverse).get? key = members.lookup key := by
    intro members
    induction members with
    | nil => rfl
    | cons m rest ih =>
      have hSet : ofMembers (m :: rest).reverse = (ofMembers rest.reverse).insert m.1 m.2 := by
        rw [ofMembers, List.reverse_cons, List.foldl_append]
        rfl
      rw [hSet, get?_insert, ih]
      exact (get?_cons m.1 m.2 rest key).symm
  have hMembers := hReverse members.reverse
  rwa [List.reverse_reverse] at hMembers

end Object

/-! ## Views of values -/

/-- The text of a string value. -/
def asString? : Json → Option String
  | .string s => some s
  | _ => none

@[simp] theorem asString?_eq_some_iff {v : Json} {s : String} : v.asString? = some s ↔ v = .string s := by
  cases v <;> simp [asString?]

/-- The members of an object value. -/
def asObject? : Json → Option Object
  | .object o => some o
  | _ => none

/-- A member of an object value; other values have no members. -/
def member? (v : Json) (key : String) : Option Json :=
  v.asObject?.bind fun o => o.get? key

/-! ## Order of members -/

mutual

/-- Every object in the tree has its members in strictly increasing order of names. -/
def Ordered : Json → Prop
  | .array items => ItemsOrdered items
  | .object members => (members.map Prod.fst).Pairwise (· < ·) ∧ MembersOrdered members
  | _ => True

/-- Every value of the list is ordered. -/
def ItemsOrdered : List Json → Prop
  | [] => True
  | v :: rest => v.Ordered ∧ ItemsOrdered rest

/-- Every member's value is ordered. -/
def MembersOrdered : List (String × Json) → Prop
  | [] => True
  | (_, v) :: rest => v.Ordered ∧ MembersOrdered rest

end

/-! ## Integers -/

/-- An integer value. -/
def ofInt (i : Int) : Json :=
  .number (Number.ofInt i)

/-- A natural number as a value. -/
def ofNat (n : Nat) : Json :=
  ofInt n

end Json

end PresentationVerifier
