/-!
# Splitting a text at a separator

Three ways to cut a list at a separator: at every occurrence, at the first one, after the last one.
`join` puts the pieces back together, so that each cut can be undone.
-/

namespace PresentationVerifier.Text

variable {α : Type} [DecidableEq α]

/-- The pieces between the occurrences of `sep`; there is one piece more than there are
occurrences. -/
def splitAt (sep : α) : List α → List (List α)
  | [] => [[]]
  | a :: rest =>
    if a = sep then [] :: splitAt sep rest
    else
      match splitAt sep rest with
      | [] => [[a]]
      | piece :: pieces => (a :: piece) :: pieces

/-- The pieces with `sep` between each two of them. -/
def join (sep : α) : List (List α) → List α
  | [] => []
  | [piece] => piece
  | piece :: pieces => piece ++ sep :: join sep pieces

/-- What stands before and after the first `sep`. -/
def splitFirst (sep : α) : List α → Option (List α × List α)
  | [] => none
  | a :: rest =>
    if a = sep then some ([], rest)
    else (splitFirst sep rest).map fun halves => (a :: halves.1, halves.2)

/-- What stands before and after the last `sep`. -/
def splitLast (sep : α) (as : List α) : Option (List α × List α) :=
  (splitFirst sep as.reverse).map fun halves => (halves.2.reverse, halves.1.reverse)

/-- Everything up to the last `sep` and that `sep` itself; the whole list if there is none. -/
def throughLast (sep : α) (as : List α) : List α :=
  match splitLast sep as with
  | some (before, _) => before ++ [sep]
  | none => as

/-- The pieces between the occurrences of the character `sep` in a text. -/
def pieces (sep : Char) (s : String) : List String :=
  (splitAt sep s.toList).map String.ofList

/-- A split never comes back empty: a list without `sep` is one piece. -/
@[simp] theorem splitAt_ne_nil (sep : α) (as : List α) : splitAt sep as ≠ [] := by
  cases as with
  | nil => simp [splitAt]
  | cons a rest =>
    rw [splitAt]
    split
    · simp
    · split <;> simp

/-- Joining the pieces of a split gives the list back. -/
@[simp] theorem join_splitAt (sep : α) (as : List α) : join sep (splitAt sep as) = as := by
  induction as with
  | nil => rfl
  | cons a rest ih =>
    rw [splitAt]
    split
    · next h =>
      subst h
      have hne := splitAt_ne_nil a rest
      cases hs : splitAt a rest with
      | nil => exact absurd hs hne
      | cons p ps => rw [join, ← hs, ih]; simp; simp
    · split
      · next hs => exact absurd hs (splitAt_ne_nil sep rest)
      · next p ps hs =>
        rw [hs] at ih
        cases ps with
        | nil => simpa [join] using ih
        | cons q qs => simpa [join] using ih

/-! ## Pieces -/

/-- A list without the separator is a single piece. -/
theorem splitAt_of_not_mem {sep : α} {as : List α} (h : sep ∉ as) : splitAt sep as = [as] := by
  induction as with
  | nil => rfl
  | cons a rest ih =>
    rw [List.mem_cons, not_or] at h
    rw [splitAt, if_neg (Ne.symm h.1), ih h.2]

/-- What stands before the first separator is the first piece. -/
theorem splitAt_append {sep : α} {piece : List α} (h : sep ∉ piece) (rest : List α) :
    splitAt sep (piece ++ sep :: rest) = piece :: splitAt sep rest := by
  induction piece with
  | nil => rw [List.nil_append, splitAt, if_pos rfl]
  | cons a piece ih =>
    rw [List.mem_cons, not_or] at h
    rw [List.cons_append, splitAt, if_neg (Ne.symm h.1), ih h.2]

/-- What a list is split into: pieces without the separator that give the list when they are joined. -/
structure Pieces (sep : α) (as : List α) (pieces : List (List α)) : Prop where
  nonempty : pieces ≠ []
  free : ∀ piece ∈ pieces, sep ∉ piece
  joined : join sep pieces = as

/-- There is no separator in a piece. -/
theorem not_mem_of_mem_splitAt {sep : α} {as piece : List α} (h : piece ∈ splitAt sep as) :
    sep ∉ piece := by
  induction as generalizing piece with
  | nil =>
    obtain rfl := List.mem_singleton.mp h
    exact List.not_mem_nil
  | cons a rest ih =>
    rw [splitAt] at h
    split at h
    · rcases List.mem_cons.mp h with rfl | hRest
      · exact List.not_mem_nil
      · exact ih hRest
    · next hOther =>
      split at h
      · next hs => exact absurd hs (splitAt_ne_nil sep rest)
      · next first others hs =>
        -- the character goes to the first piece of the rest
        rcases List.mem_cons.mp h with rfl | hOthers
        · have hFirst := ih (hs ▸ List.mem_cons_self)
          simp [Ne.symm hOther, hFirst]
        · exact ih (hs ▸ List.mem_cons_of_mem _ hOthers)

/-- A list has only one row of pieces, and splitting finds it. -/
theorem splitAt_eq_iff {sep : α} {as : List α} {pieces : List (List α)} :
    splitAt sep as = pieces ↔ Pieces sep as pieces := by
  constructor
  · rintro rfl
    exact ⟨splitAt_ne_nil sep as, fun piece h => not_mem_of_mem_splitAt h, join_splitAt sep as⟩
  · rintro ⟨hNonempty, hFree, rfl⟩
    -- by induction on the pieces, the first of which is what splitting finds first
    induction pieces with
    | nil => exact absurd rfl hNonempty
    | cons piece rest ih =>
      rw [List.forall_mem_cons] at hFree
      cases rest with
      | nil => exact splitAt_of_not_mem hFree.1
      | cons next others => rw [join, splitAt_append hFree.1, ih (by simp) hFree.2]; simp

/-! ## Joining -/

omit [DecidableEq α] in
/-- A piece in front of others is followed by the separator. -/
theorem join_cons {sep : α} {pieces : List (List α)} (h : pieces ≠ []) (piece : List α) :
    join sep (piece :: pieces) = piece ++ sep :: join sep pieces := by
  cases pieces with
  | nil => exact absurd rfl h
  | cons next others => rw [join]; simp

omit [DecidableEq α] in
/-- A piece behind others follows the separator. -/
theorem join_append_singleton (sep : α) {pieces : List (List α)} (h : pieces ≠ []) (last : List α) :
    join sep (pieces ++ [last]) = join sep pieces ++ sep :: last := by
  induction pieces with
  | nil => exact absurd rfl h
  | cons piece rest ih =>
    cases rest with
    | nil => rfl
    | cons next others =>
      have hRest := ih (List.cons_ne_nil next others)
      have hSome : (next :: others) ++ [last] ≠ [] := by simp
      rw [List.cons_append, join_cons hSome, hRest, join_cons (List.cons_ne_nil next others),
        List.append_assoc, List.cons_append]

omit [DecidableEq α] in
/-- There are separators between the pieces, and so no more pieces than elements and one. -/
theorem length_le_join (sep : α) (pieces : List (List α)) :
    pieces.length ≤ (join sep pieces).length + 1 := by
  induction pieces with
  | nil => exact Nat.zero_le _
  | cons piece more ih =>
    cases more with
    | nil => rw [List.length_singleton]; omega
    | cons next others =>
      rw [join_cons (List.cons_ne_nil next others)]
      simp only [List.length_cons, List.length_append] at ih ⊢
      omega

omit [DecidableEq α] in
/-- No piece is longer than what the pieces are joined to. -/
theorem length_le_join_of_mem (sep : α) {pieces : List (List α)} {piece : List α} (h : piece ∈ pieces) :
    piece.length ≤ (join sep pieces).length := by
  induction pieces with
  | nil => cases h
  | cons first more ih =>
    cases more with
    | nil =>
      obtain rfl := List.mem_singleton.mp h
      exact Nat.le_refl _
    | cons next others =>
      rw [join_cons (List.cons_ne_nil next others), List.length_append, List.length_cons]
      rcases List.mem_cons.mp h with rfl | hMore
      · omega
      · have hRest := ih hMore
        omega

/-! ## The first and the last separator -/

/-- A list cannot be split when it has no separator. -/
@[simp] theorem splitFirst_eq_none_iff {sep : α} {as : List α} : splitFirst sep as = none ↔ sep ∉ as := by
  induction as with
  | nil => simp [splitFirst]
  | cons a rest ih =>
    rw [splitFirst]
    by_cases h : a = sep
    · simp [h]
    · simp [h, ih, Ne.symm h]

/-- The first separator is the one without another before it. -/
@[simp] theorem splitFirst_eq_some_iff {sep : α} {as before after : List α} :
    splitFirst sep as = some (before, after) ↔ as = before ++ sep :: after ∧ sep ∉ before := by
  -- by induction on the list: its first element is the separator, or stands before it
  induction as generalizing before with
  | nil => simp [splitFirst]
  | cons a rest ih =>
    rw [splitFirst]
    by_cases h : a = sep
    · subst h
      cases before with
      | nil => simp
      | cons b before =>
        simp only [if_pos, Option.some.injEq, Prod.mk.injEq, List.cons_append, List.cons.injEq,
          List.mem_cons, not_or]
        constructor
        · rintro ⟨hNil, -⟩
          cases hNil
        · rintro ⟨⟨hSame, -⟩, hOther, -⟩
          exact absurd hSame hOther
    · simp only [if_neg h, Option.map_eq_some_iff, Prod.exists, Prod.mk.injEq]
      constructor
      · rintro ⟨before', after', hRest, rfl, rfl⟩
        obtain ⟨rfl, hFree⟩ := ih.mp hRest
        exact ⟨rfl, by simp [Ne.symm h, hFree]⟩
      · rintro ⟨hSplit, hFree⟩
        cases before with
        | nil =>
          obtain ⟨hSame, -⟩ := List.cons.inj hSplit
          exact absurd hSame h
        | cons b before =>
          obtain ⟨rfl, hRest⟩ := List.cons.inj hSplit
          rw [List.mem_cons, not_or] at hFree
          exact ⟨before, after, ih.mpr ⟨hRest, hFree.2⟩, rfl, rfl⟩

/-- The last separator is the one without another after it. -/
@[simp] theorem splitLast_eq_some_iff {sep : α} {as before after : List α} :
    splitLast sep as = some (before, after) ↔ as = before ++ sep :: after ∧ sep ∉ after := by
  -- the last separator is the first one of the list in reverse
  simp only [splitLast, Option.map_eq_some_iff, Prod.exists, Prod.mk.injEq, splitFirst_eq_some_iff]
  constructor
  · rintro ⟨after', before', ⟨hSplit, hFree⟩, rfl, rfl⟩
    refine ⟨?_, by simpa using hFree⟩
    rw [← List.reverse_reverse as, hSplit]
    simp
  · rintro ⟨rfl, hFree⟩
    exact ⟨after.reverse, before.reverse, ⟨by simp, by simpa using hFree⟩, by simp, by simp⟩

/-- Up to the last separator a list ends with it. -/
theorem throughLast_append {sep : α} {after : List α} (h : sep ∉ after) (before : List α) :
    throughLast sep (before ++ sep :: after) = before ++ [sep] := by
  rw [throughLast, splitLast_eq_some_iff.mpr ⟨rfl, h⟩]

end PresentationVerifier.Text
