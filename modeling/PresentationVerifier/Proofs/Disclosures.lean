import Mathlib.Data.List.Forall2
import PresentationVerifier.Proofs.Reread

/-!
# Disclosures and commitments

What the disclosures of a credential are when they pass: each is the decoding of a presented text, its
digest is among the commitments in the payload, and no text was presented twice. A commitment stands in an
array `_sd` of the payload or of an object in it (`Commits`); the walk that collects commitments finds
these and no others.

Main results:

* `mem_collect_iff` — the walk collects the digests that the payload commits to.
* `validate_eq_ok_iff` — when the disclosures of a credential pass.
-/

namespace PresentationVerifier

/-! ## Commitments -/

namespace Commitments

/-- An object in the value has the digest in its array `_sd`. Such an array holds digests only, nothing
in it is an object of the value. -/
inductive Commits : Json → String → Prop where
  | digest {members : Json.Object} {digests : List Json} {digest : String}
      (hMember : (arrayName, .array digests) ∈ members) (hDigest : .string digest ∈ digests) :
      Commits (.object members) digest
  | member {members : Json.Object} {name : String} {v : Json} {digest : String}
      (hMember : (name, v) ∈ members) (hEntered : ∀ items, v = .array items → name ≠ arrayName)
      (hCommits : Commits v digest) : Commits (.object members) digest
  | item {items : List Json} {v : Json} {digest : String} (hItem : v ∈ items)
      (hCommits : Commits v digest) : Commits (.array items) digest

/-- A member of an object has the digest: as one of its digests, or inside of its value. -/
def MemberCommits (name : String) (v : Json) (digest : String) : Prop :=
  (name = arrayName ∧ ∃ digests, v = .array digests ∧ .string digest ∈ digests) ∨
    ((∀ items, v = .array items → name ≠ arrayName) ∧ Commits v digest)

/-- An object commits to what one of its members does. -/
theorem commits_object_iff {members : Json.Object} {digest : String} :
    Commits (.object members) digest ↔ ∃ m ∈ members, MemberCommits m.1 m.2 digest := by
  constructor
  · intro h
    cases h with
    | digest hMember hDigest => exact ⟨_, hMember, Or.inl ⟨rfl, _, rfl, hDigest⟩⟩
    | member hMember hEntered hCommits => exact ⟨_, hMember, Or.inr ⟨hEntered, hCommits⟩⟩
  · rintro ⟨⟨name, v⟩, hMember, ⟨rfl, digests, rfl, hDigest⟩ | ⟨hEntered, hCommits⟩⟩
    · exact .digest hMember hDigest
    · exact .member hMember hEntered hCommits

/-- An array commits to what one of its items does. -/
theorem commits_array_iff {items : List Json} {digest : String} :
    Commits (.array items) digest ↔ ∃ v ∈ items, Commits v digest := by
  constructor
  · intro h
    cases h with
    | item hItem hCommits => exact ⟨_, hItem, hCommits⟩
  · rintro ⟨v, hItem, hCommits⟩
    exact .item hItem hCommits

mutual

/-- The walk through a value that comes to an end has found its commitments. -/
theorem mem_ofValue_iff {limit depth : Nat} {v : Json} {found : List String}
    (h : ofValue limit depth v = some found) {digest : String} :
    digest ∈ found ↔ Commits v digest := by
  -- the depth decides whether there is a result, and nothing about what it is
  rw [ofValue.eq_def] at h
  split at h
  · cases h
  · cases v with
    | object members => rw [mem_ofMembers_iff h, commits_object_iff]
    | array items => rw [mem_ofItems_iff h, commits_array_iff]
    -- a value without parts has no commitments, and none were found
    | null | bool b | number n | string s =>
      obtain rfl := Option.some.inj h
      exact ⟨fun hMem => by simp at hMem, fun hCommits => by cases hCommits⟩

/-- The same of the items of an array, one after the other. -/
theorem mem_ofItems_iff {limit depth : Nat} {items : List Json} {found : List String}
    (h : ofItems limit depth items = some found) {digest : String} :
    digest ∈ found ↔ ∃ v ∈ items, Commits v digest := by
  match items with
  | [] =>
    obtain rfl : [] = found := by simpa [ofItems] using h
    simp
  | v :: rest =>
    simp only [ofItems, Option.bind_eq_some_iff, Option.map_eq_some_iff] at h
    obtain ⟨here, hHere, there, hThere, rfl⟩ := h
    -- what is found in the first item stands before what is found in the others
    rw [List.mem_append, mem_ofValue_iff hHere, mem_ofItems_iff hThere, List.exists_mem_cons_iff]

/-- The same of the members of an object, of which `_sd` is read in another way. -/
theorem mem_ofMembers_iff {limit depth : Nat} {members : Json.Object} {found : List String}
    (h : ofMembers limit depth members = some found) {digest : String} :
    digest ∈ found ↔ ∃ m ∈ members, MemberCommits m.1 m.2 digest := by
  match members with
  | [] =>
    obtain rfl : [] = found := by simpa [ofMembers] using h
    simp
  | (name, v) :: rest =>
    rw [ofMembers.eq_def] at h
    simp only [Option.bind_eq_some_iff, Option.map_eq_some_iff] at h
    obtain ⟨here, hHere, there, hThere, rfl⟩ := h
    -- an array of digests is taken as it is, any other value is walked
    have hMember : digest ∈ here ↔ MemberCommits name v digest := by
      split at hHere
      · next digests hName =>
        obtain rfl := Option.some.inj hHere
        have hIs : name = arrayName := by simpa using hName
        simp [MemberCommits, hIs, List.mem_filterMap]
      · next v _ _ hOther =>
        have hEntered : ∀ items, v = .array items → name ≠ arrayName := by
          intro items hv hName
          exact hOther items (by simp [hName]) hv
        rw [mem_ofValue_iff hHere, MemberCommits]
        constructor
        · intro hCommits
          exact Or.inr ⟨hEntered, hCommits⟩
        -- the first case is that of `_sd` with an array, which this member is not
        · rintro (⟨hName, digests, hv, -⟩ | ⟨-, hCommits⟩)
          · exact absurd hName (hEntered digests hv)
          · exact hCommits
    rw [List.mem_append, hMember, mem_ofMembers_iff hThere, List.exists_mem_cons_iff]

end

/-- **The walk collects the commitments** of the payload, and nothing else. -/
theorem mem_collect_iff {limit : Nat} {payload : Json.Object} {found : List String}
    (h : collect limit payload = .ok found) {digest : String} :
    digest ∈ found ↔ Commits (.object payload) digest := by
  unfold collect at h
  split at h
  · next digests hWalk =>
    obtain rfl := Except.ok.inj h
    rw [mem_ofMembers_iff hWalk, commits_object_iff]
  · cases h

end Commitments

/-! ## Disclosures -/

namespace Disclosure

/-- A disclosure passes when its digest is committed to and its text can be decoded. -/
theorem check_eq_ok_iff {algorithm : HashAlgorithm} {commitments : List String} {encoded : String}
    {d : Disclosure} :
    check algorithm commitments encoded = .ok d ↔
      algorithm.hash (Encoding.utf8Bytes encoded) ∈ commitments ∧ decode encoded = .ok d := by
  rw [check, bind_eq_ok]
  by_cases hCommitted : algorithm.hash (Encoding.utf8Bytes encoded) ∈ commitments
  · simp [hCommitted]
  · simp [hCommitted]

/-- Disclosures are checked one by one, and each comes once. -/
theorem checkAll_eq_ok_iff {algorithm : HashAlgorithm} {commitments seen encoded : List String}
    {ds : List Disclosure} :
    checkAll algorithm commitments seen encoded = .ok ds ↔
      List.Forall₂ (fun text d => check algorithm commitments text = .ok d) encoded ds ∧
        encoded.Nodup ∧ ∀ text ∈ encoded, text ∉ seen := by
  -- on the texts, for any texts that were seen before them
  induction encoded generalizing seen ds with
  | nil =>
    rw [checkAll, List.forall₂_nil_left_iff, Except.ok.injEq, eq_comm]
    simp
  | cons text rest ih =>
    rw [checkAll, bind_eq_ok, List.forall₂_cons_left_iff, List.nodup_cons, List.forall_mem_cons]
    by_cases hSeen : text ∈ seen
    -- a text that was seen is refused on one side, and excluded on the other
    · simp [hSeen]
    · simp only [List.contains_eq_mem, hSeen, decide_false, Bool.false_eq_true, if_false, bind_eq_ok,
        ih, Except.ok.injEq, List.mem_cons, not_or, not_false_eq_true, true_and]
      -- not to be seen again later is the same as not to have been seen before
      constructor
      · rintro ⟨d, hCheck, ds', ⟨hEach, hNodup, hFresh⟩, rfl⟩
        exact ⟨⟨d, ds', hCheck, hEach, rfl⟩, ⟨fun hMem => (hFresh text hMem).1 rfl, hNodup⟩,
          fun u hu => (hFresh u hu).2⟩
      · rintro ⟨⟨d, ds', hCheck, hEach, rfl⟩, ⟨hNotMem, hNodup⟩, hFresh⟩
        refine ⟨d, hCheck, ds', ⟨hEach, hNodup, fun u hu => ⟨?_, hFresh u hu⟩⟩, rfl⟩
        rintro rfl
        exact hNotMem hu

/-- The disclosures of a token pass as `ds`: these are what the presented texts encode, the payload
commits to each, and none comes twice. -/
structure Passes (limit : Nat) (t : Token) (ds : List Disclosure) : Prop where
  decoded : List.Forall₂ (fun text d => decode text = .ok d) t.disclosures ds
  distinct : t.disclosures.Nodup
  committed : t.disclosures ≠ [] → ∃ algorithm found,
    sdAlgorithm t.payload = .ok (some algorithm) ∧ Commitments.collect limit t.payload = .ok found ∧
      ∀ text ∈ t.disclosures,
        Commitments.Commits (.object t.payload) (algorithm.hash (Encoding.utf8Bytes text))

/-- **Disclosures pass** as what they are decoded to, when all of them are committed to and differ. -/
theorem validate_eq_ok_iff {limit : Nat} {t : Token} {ds : List Disclosure} :
    validate limit t = .ok ds ↔ Passes limit t ds := by
  unfold validate
  -- without disclosures the payload is not asked for an algorithm
  by_cases hNone : t.disclosures = []
  · rw [if_pos hNone]
    constructor
    · intro h
      obtain rfl := Except.ok.inj h
      exact ⟨by rw [hNone]; exact .nil, by simp [hNone], fun hSome => absurd hNone hSome⟩
    -- the algorithm and the digests are those that the structure speaks of
    · intro h
      have hEach := h.decoded
      rw [hNone, List.forall₂_nil_left_iff] at hEach
      rw [hEach]
  · rw [if_neg hNone, bind_eq_ok]
    constructor
    · rintro ⟨named, hNamed, h⟩
      cases named with
      -- disclosures without an algorithm do not pass
      | none => cases h
      | some algorithm =>
        rw [bind_eq_ok] at h
        obtain ⟨found, hFound, h⟩ := h
        simp only [checkAll_eq_ok_iff, check_eq_ok_iff, List.forall₂_and_left,
          Commitments.mem_collect_iff hFound] at h
        obtain ⟨⟨hCommitted, hDecoded⟩, hDistinct, -⟩ := h
        exact ⟨hDecoded, hDistinct, fun _ => ⟨algorithm, found, hNamed, hFound, hCommitted⟩⟩
    · intro h
      obtain ⟨algorithm, found, hNamed, hFound, hCommitted⟩ := h.committed hNone
      refine ⟨some algorithm, hNamed, ?_⟩
      rw [bind_eq_ok]
      refine ⟨found, hFound, ?_⟩
      simp only [checkAll_eq_ok_iff, check_eq_ok_iff, List.forall₂_and_left,
        Commitments.mem_collect_iff hFound]
      exact ⟨⟨hCommitted, h.decoded⟩, h.distinct, fun _ _ => List.not_mem_nil⟩

end Disclosure

end PresentationVerifier
