import PresentationVerifier.Proofs.Disclosures
import PresentationVerifier.Proofs.Grammar
import PresentationVerifier.Proofs.Reading

/-!
# The walk through a payload

`Commitments.Visited` says which values the walk for commitments comes to, and at which depth: the
members of the payload at depth one, what is in a value one deeper than the value, and nothing that is or
is in an array of digests. The walk fails exactly when a visited value is too deep; else it has found the
digests that stand in an object it came to.

JSON text cannot nest deeper than the reader allows, which bounds the depth of every value in the payload
of a token. So a walk with at least that limit never fails on a token that was read.

Main results:

* `ofValue_eq_none_iff`: when the walk through a value goes too deep.
* `commits_iff_visited`: where the digests stand that a value commits to.
* `collect_decided`: the walk as a whole.
-/

namespace PresentationVerifier

namespace Commitments

/-! ## Visited values -/

/-- From a value the walk goes on into what is in it, but not into an array of digests. -/
inductive Enters : Json → Json → Prop where
  | member {members : Json.Object} {name : String} {v : Json} (hMember : (name, v) ∈ members)
      (hEntered : ∀ items, v = .array items → name ≠ arrayName) : Enters (.object members) v
  | item {items : List Json} {v : Json} (hItem : v ∈ items) : Enters (.array items) v

/-- The walk comes to a value, that far below the one where it starts. -/
inductive Visited (start : Json) : Nat → Json → Prop where
  | start : Visited start 0 start
  | enter {depth : Nat} {u v : Json} (hVisited : Visited start depth u) (hEnters : Enters u v) :
      Visited start (depth + 1) v

@[simp] theorem enters_array_iff {items : List Json} {v : Json} : Enters (.array items) v ↔ v ∈ items := by
  constructor
  · intro h
    cases h with
    | item hItem => exact hItem
  · exact .item

/-- What is entered of an object: its first member, unless that is an array of digests, and what is
entered of the others. -/
@[simp] theorem enters_object_cons_iff {name : String} {v w : Json} {rest : Json.Object} :
    Enters (.object ((name, v) :: rest)) w ↔
      (w = v ∧ ∀ items, v = .array items → name ≠ arrayName) ∨ Enters (.object rest) w := by
  constructor
  · intro h
    cases h with
    | member hMember hEntered =>
      rcases List.mem_cons.mp hMember with hFirst | hRest
      · obtain ⟨rfl, rfl⟩ := Prod.mk.inj hFirst
        exact Or.inl ⟨rfl, hEntered⟩
      · exact Or.inr (.member hRest hEntered)
  · rintro (⟨rfl, hEntered⟩ | h)
    · exact .member List.mem_cons_self hEntered
    · cases h with
      | member hMember hEntered => exact .member (List.mem_cons_of_mem _ hMember) hEntered

/-- A way through the tree has no step, or a first one. -/
theorem visited_iff {u w : Json} {depth : Nat} :
    Visited u depth w ↔
      (depth = 0 ∧ w = u) ∨ ∃ v below, Enters u v ∧ Visited v below w ∧ depth = below + 1 := by
  constructor
  · intro h
    -- the first step stays, and the way behind it grows
    induction h with
    | start => exact Or.inl ⟨rfl, rfl⟩
    | enter _ hEnters ih =>
      right
      rcases ih with ⟨rfl, rfl⟩ | ⟨v, below, hFirst, hBelow, rfl⟩
      · exact ⟨_, 0, hEnters, .start, rfl⟩
      · exact ⟨v, below + 1, hFirst, .enter hBelow hEnters, rfl⟩
  · rintro (⟨rfl, rfl⟩ | ⟨v, below, hFirst, hBelow, rfl⟩)
    · exact .start
    · induction hBelow with
      | start => exact .enter .start hFirst
      | enter _ hEnters ih => exact .enter ih hEnters

/-! ## How deep the walk goes -/

/-- In a walk that comes to a value at some depth, a value in it is deeper than the limit. -/
def Exceeds (limit depth : Nat) (v : Json) : Prop :=
  ∃ below w, Visited v below w ∧ limit < depth + below

/-- A walk is too deep in a value exactly when it is at the value itself, or in one that it enters from
there. -/
theorem exceeds_iff {limit depth : Nat} {v : Json} :
    Exceeds limit depth v ↔ limit < depth ∨ ∃ u, Enters v u ∧ Exceeds limit (depth + 1) u := by
  constructor
  · rintro ⟨below, w, hVisited, hDeep⟩
    rcases visited_iff.mp hVisited with ⟨rfl, -⟩ | ⟨u, rest, hEnters, hRest, rfl⟩
    · exact Or.inl hDeep
    · exact Or.inr ⟨u, hEnters, rest, w, hRest, by omega⟩
  · rintro (hDeep | ⟨u, hEnters, rest, w, hRest, hDeep⟩)
    · exact ⟨0, v, .start, hDeep⟩
    · exact ⟨rest + 1, w, visited_iff.mpr (Or.inr ⟨u, rest, hEnters, hRest, rfl⟩), by omega⟩

/-- An array of digests is taken as it is. -/
theorem ofMembers_cons_array (limit depth : Nat) (digests : List Json) (rest : Json.Object) :
    ofMembers limit depth ((arrayName, .array digests) :: rest) =
      (ofMembers limit depth rest).map fun more => digests.filterMap Json.asString? ++ more := by
  rw [ofMembers.eq_def]
  simp

/-- Any other member is walked. -/
theorem ofMembers_cons_of_entered {limit depth : Nat} {name : String} {v : Json} {rest : Json.Object}
    (hEntered : ∀ items, v = .array items → name ≠ arrayName) :
    ofMembers limit depth ((name, v) :: rest) =
      (ofValue limit (depth + 1) v).bind fun found =>
        (ofMembers limit depth rest).map fun more => found ++ more := by
  rw [ofMembers.eq_def]
  dsimp only
  -- the other branch is the one for an array of digests, which this member is not
  split
  · next digests hName => exact absurd (by simpa using hName) (hEntered digests rfl)
  · rfl

mutual

/-- The walk through a value gives up exactly when a value in it is too deep. -/
theorem ofValue_eq_none_iff {limit depth : Nat} {v : Json} :
    ofValue limit depth v = none ↔ Exceeds limit depth v := by
  rw [ofValue.eq_def, exceeds_iff]
  -- a value beyond the limit is not opened, any other one is taken apart by its constructor
  by_cases hDeep : limit < depth
  · simp [hDeep]
  · rw [if_neg hDeep]
    cases v with
    | object members => simp [hDeep, ofMembers_eq_none_iff]
    | array items => simp [hDeep, ofItems_eq_none_iff]
    | null | bool b | number n | string s =>
      -- a scalar has nothing in it
      refine ⟨fun h => (by cases h), ?_⟩
      rintro (h | ⟨u, hEnters, -⟩)
      · exact absurd h hDeep
      · cases hEnters

theorem ofItems_eq_none_iff {limit depth : Nat} {items : List Json} :
    ofItems limit depth items = none ↔ ∃ v ∈ items, Exceeds limit depth v := by
  match items with
  | [] => simp [ofItems]
  | v :: rest =>
    -- the first item gives up or the rest does
    rw [List.exists_mem_cons_iff, ← ofValue_eq_none_iff, ← ofItems_eq_none_iff, ofItems]
    cases ofValue limit depth v with
    | none => simp
    | some found => simp

/-- The walk through the members of an object gives up exactly when it does in one that it enters. -/
theorem ofMembers_eq_none_iff {limit depth : Nat} {members : Json.Object} :
    ofMembers limit depth members = none ↔
      ∃ v, Enters (.object members) v ∧ Exceeds limit (depth + 1) v := by
  match members with
  | [] =>
    refine ⟨fun h => (by simp [ofMembers] at h), ?_⟩
    rintro ⟨v, hEnters, -⟩
    cases hEnters with
    | member hMember _ => cases hMember
  | (name, v) :: rest =>
    simp only [enters_object_cons_iff, or_and_right, exists_or, ← ofMembers_eq_none_iff]
    -- the first member is walked, unless it is an array of digests
    by_cases hEntered : ∀ items, v = .array items → name ≠ arrayName
    · rw [ofMembers_cons_of_entered hEntered]
      have hFirst : (∃ w, (w = v ∧ ∀ items, v = .array items → name ≠ arrayName) ∧
          Exceeds limit (depth + 1) w) ↔ ofValue limit (depth + 1) v = none := by
        rw [ofValue_eq_none_iff]
        exact ⟨fun ⟨w, ⟨hw, _⟩, hDeep⟩ => hw ▸ hDeep, fun hDeep => ⟨v, ⟨rfl, hEntered⟩, hDeep⟩⟩
      rw [hFirst]
      cases ofValue limit (depth + 1) v with
      | none => simp
      | some found => simp
    · -- an array of digests is never too deep
      obtain ⟨digests, rfl, rfl⟩ : ∃ digests, v = .array digests ∧ name = arrayName := by
        simpa using hEntered
      rw [ofMembers_cons_array]
      simp

end

/-! ## Where the digests stand -/

/-- A digest that a value commits to stands in a visited object, in its array of digests. -/
theorem commits_iff_visited {start : Json} {digest : String} :
    Commits start digest ↔ ∃ depth members digests, Visited start depth (.object members) ∧
      (arrayName, .array digests) ∈ members ∧ .string digest ∈ digests := by
  constructor
  · intro h
    -- the way down to the object grows at its top, by the step that the constructor takes
    induction h with
    | digest hMember hDigest => exact ⟨0, _, _, .start, hMember, hDigest⟩
    | member hMember hEntered _ ih =>
      obtain ⟨below, members, digests, hVisited, hArray⟩ := ih
      have hFirst := Enters.member hMember hEntered
      exact ⟨_, members, digests, visited_iff.mpr (Or.inr ⟨_, _, hFirst, hVisited, rfl⟩), hArray⟩
    | item hItem _ ih =>
      obtain ⟨below, members, digests, hVisited, hArray⟩ := ih
      have hFirst := Enters.item hItem
      exact ⟨_, members, digests, visited_iff.mpr (Or.inr ⟨_, _, hFirst, hVisited, rfl⟩), hArray⟩
  · rintro ⟨depth, members, digests, hVisited, hArray, hDigest⟩
    -- what a visited value commits to, all values on the way to it commit to
    have hUp : ∀ {v : Json} {n : Nat}, Visited start n v → Commits v digest → Commits start digest := by
      intro v n hv
      induction hv with
      | start => exact id
      | enter _ hEnters ih =>
        intro hCommits
        cases hEnters with
        | member hMember hEntered => exact ih (.member hMember hEntered hCommits)
        | item hItem => exact ih (.item hItem hCommits)
    exact hUp hVisited (.digest hArray hDigest)

/-! ## The walk -/

/-- A value that is entered nests one level less deep than the one it is in. -/
theorem nestsWithin_of_enters {limit : Nat} {u v : Json} (h : Json.NestsWithin limit u)
    (hEnters : Enters u v) : ∃ left, limit = left + 1 ∧ Json.NestsWithin left v := by
  -- what nests in no level has nothing in it
  cases limit with
  | zero => cases hEnters <;> cases h
  | succ left =>
    cases hEnters with
    | member hMember _ => exact ⟨left, rfl, h _ hMember⟩
    | item hItem => exact ⟨left, rfl, h _ hItem⟩

/-- The walk comes no deeper into a value than the value nests. -/
theorem Visited.depth_le {limit depth : Nat} {u v : Json} (h : Visited u depth v)
    (hNests : Json.NestsWithin limit u) : depth ≤ limit := by
  -- the depth of a visited value and the levels that it may still have make up the limit
  have hLeft : ∃ left, limit = depth + left ∧ Json.NestsWithin left v := by
    induction h with
    | start => exact ⟨limit, by omega, hNests⟩
    | enter _ hEnters ih =>
      obtain ⟨left, rfl, hParent⟩ := ih
      obtain ⟨less, rfl, hv⟩ := nestsWithin_of_enters hParent hEnters
      exact ⟨less, by omega, hv⟩
  obtain ⟨left, rfl, -⟩ := hLeft
  omega

/-- The payload of a token was read from JSON text, so that it nests no deeper than the reader allows. -/
theorem nestsWithin_payload {text : String} {t : Token} (h : Token.ofJws text = .ok t) :
    Json.NestsWithin Json.nestingLimit (.object t.payload) := by
  obtain ⟨structural, segments, tail, hDivided⟩ := Token.exists_divided text
  obtain ⟨_, _, _, -, -, ⟨json, -, hJson⟩, -⟩ := ((Token.ofJws_eq_ok_iff_writes hDivided).mp h).segments
  exact Json.nestsWithin_of_parse hJson

/-- The walk goes too deep exactly when it comes to a value that is deeper than its limit. -/
theorem collect_eq_error_iff {limit : Nat} {payload : Json.Object} {e : Error} :
    collect limit payload = .error e ↔ e = .claimNestingTooDeep limit ∧
      ∃ depth v, Visited (.object payload) depth v ∧ limit < depth := by
  -- the walk begins inside the payload, at depth zero, so that the payload itself is no limit
  have hWalk : ofMembers limit 0 payload = none ↔
      ∃ depth v, Visited (.object payload) depth v ∧ limit < depth := by
    have hDeep : ofValue limit 0 (.object payload) = none ↔ Exceeds limit 0 (.object payload) :=
      ofValue_eq_none_iff
    rw [ofValue.eq_def, if_neg (Nat.not_lt_zero limit)] at hDeep
    simpa [Exceeds] using hDeep
  rw [← hWalk, collect]
  cases ofMembers limit 0 payload with
  | none => simp [eq_comm]
  | some found => simp

/-- A walk that succeeds has come to no value beyond its limit. -/
theorem depth_le_of_collect {limit : Nat} {payload : Json.Object} {found : List String}
    (h : collect limit payload = .ok found) {depth : Nat} {v : Json}
    (hVisited : Visited (.object payload) depth v) : depth ≤ limit := by
  by_contra hDeep
  have hError := collect_eq_error_iff.mpr ⟨rfl, depth, v, hVisited, Nat.lt_of_not_le hDeep⟩
  rw [h] at hError
  cases hError

theorem exists_collect_of_depth_le {limit : Nat} {payload : Json.Object}
    (h : ∀ depth v, Visited (.object payload) depth v → depth ≤ limit) :
    ∃ found, collect limit payload = .ok found := by
  cases hWalk : collect limit payload with
  | ok found => exact ⟨found, rfl⟩
  | error e =>
    obtain ⟨-, depth, v, hVisited, hDeep⟩ := collect_eq_error_iff.mp hWalk
    exact absurd (h depth v hVisited) (by omega)

/-- **The bounded walk**: it fails exactly when a visited value is too deep, and else finds the digests in
the arrays of visited objects and no others. On the payload of a token that was read from a text it never
fails with a limit from which on the text could not have been read. -/
theorem collect_decided (limit : Nat) (payload : Json.Object) :
    (∀ e, collect limit payload = .error e ↔ e = .claimNestingTooDeep limit ∧
      ∃ depth v, Visited (.object payload) depth v ∧ limit < depth) ∧
    ((∀ depth v, Visited (.object payload) depth v → depth ≤ limit) →
      ∃ found, collect limit payload = .ok found ∧ ∀ digest, digest ∈ found ↔
        ∃ depth members digests, Visited (.object payload) depth (.object members) ∧
          ("_sd", .array digests) ∈ members ∧ .string digest ∈ digests) ∧
    (127 ≤ limit → ∀ text t, Token.ofJws text = .ok t → t.payload = payload →
      ∃ found, collect limit payload = .ok found) := by
  refine ⟨fun e => collect_eq_error_iff, ?_, ?_⟩
  · intro hDepth
    obtain ⟨found, hFound⟩ := exists_collect_of_depth_le hDepth
    refine ⟨found, hFound, fun digest => ?_⟩
    rw [mem_collect_iff hFound, commits_iff_visited, arrayName]
  · rintro hLimit text t hRead rfl
    -- what was read nests within the limit of the reader, which is 127
    have hNests := nestsWithin_payload hRead
    refine exists_collect_of_depth_le fun depth v hVisited => ?_
    exact Nat.le_trans (hVisited.depth_le hNests) hLimit

/-- The payload of this token has a digest in itself and one in an object that is at depth two. -/
theorem collect_decided_nested :
    ∃ t, Token.ofJws "e30.eyJfc2QiOlsiYSIsMV0sIngiOlt7Il9zZCI6WyJiIl19XX0.AQ" = .ok t ∧
      (∀ depth v, Visited (.object t.payload) depth v → depth ≤ 2) ∧
      (∃ depth members digests, Visited (.object t.payload) depth (.object members) ∧
        ("_sd", .array digests) ∈ members ∧ .string "b" ∈ digests) ∧
      ∃ found, collect 127 t.payload = .ok found := by
  have hParts : (Token.ofJws "e30.eyJfc2QiOlsiYSIsMV0sIngiOlt7Il9zZCI6WyJiIl19XX0.AQ").toOption.map
      (fun t => (collect 2 t.payload).toOption) = some (some ["a", "b"]) := by
    decide +kernel
  -- a walk that succeeds also says how deep it came
  obtain ⟨t, hToken, hWalk⟩ := toOption_map_eq_some.mp hParts
  have hFound : collect 2 t.payload = .ok ["a", "b"] := toOption_eq_some.mp hWalk
  have hDepth : ∀ depth v, Visited (.object t.payload) depth v → depth ≤ 2 :=
    fun depth v hVisited => depth_le_of_collect hFound hVisited
  obtain ⟨-, hDigests, -⟩ := collect_decided 2 t.payload
  obtain ⟨-, -, hNever⟩ := collect_decided 127 t.payload
  obtain ⟨found, hOk, hStands⟩ := hDigests hDepth
  obtain rfl := Except.ok.inj (hFound.symm.trans hOk)
  exact ⟨t, hToken, hDepth, (hStands "b").mp (by decide), hNever (by decide) _ t hToken rfl⟩

end Commitments

end PresentationVerifier
