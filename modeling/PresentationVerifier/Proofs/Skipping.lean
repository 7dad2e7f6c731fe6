import PresentationVerifier.Json.Skip
import PresentationVerifier.Proofs.Printing

/-!
# Passing over printed values

The compact text of a value is passed over up to its end. It does not matter how deep the value nests, nor
which names its members have: the depth that `skipWithin` recurses on is no limit, as no value nests deeper
than its text is long.

Main results:

* `skipStringFrom_escaped`: a string.
* `skipWithin_compactChars`, `skipValue_compactChars`: a value.
-/

namespace PresentationVerifier.Json

/-! ## Strings -/

/-- A character is passed over as it was printed, with an escape or without. -/
theorem skipStringFrom_escapeChar (c : Char) (rest : List Char) :
    skipStringFrom .nothing (escapeChar c ++ rest) = skipStringFrom .nothing rest := by
  have hForm := escapeChar_form c
  generalize escapeChar c = text at hForm ⊢
  cases hForm with
  | @letter letter hLetter hOther =>
    show skipStringFrom .escape (letter :: rest) = _
    rw [skipStringFrom, Skipping.step, if_neg hOther, hLetter]
    rfl
  | @code high low _ _ hHigh hLow _ _ =>
    -- of the four digits two are left
    show skipStringFrom (.hex 2) (high :: low :: rest) = _
    rw [skipStringFrom, Skipping.step, hHigh, Option.map_some, if_neg (by omega)]
    dsimp only
    rw [skipStringFrom, Skipping.step, hLow, Option.map_some, if_pos (by omega)]
  | plain hQuote hBackslash hControl =>
    rw [List.singleton_append, skipStringFrom, Skipping.step, if_neg hQuote, if_neg hBackslash,
      if_neg hControl]

/-- The characters of a string, up to its closing quote. -/
theorem skipStringFrom_escaped (s : String) (rest : List Char) :
    skipStringFrom .nothing (s.toList.flatMap escapeChar ++ '\x22' :: rest) = some ((), rest) := by
  -- by induction on the characters
  induction s.toList with
  | nil => rfl
  | cons c cs ih => rw [List.flatMap_cons, List.append_assoc, skipStringFrom_escapeChar, ih]

/-! ## Members and values -/

/-- A member is passed over if its value is. -/
theorem skipMember_memberChars {value : Reader Unit} {m : String × Json} {rest : List Char}
    (hValue : value (m.2.compactChars ++ rest) = some ((), rest)) :
    skipMember value (memberChars m ++ rest) = some ((), rest) := by
  have hChars : memberChars m ++ rest =
      '\x22' :: (m.1.toList.flatMap escapeChar ++ '\x22' :: ':' :: (m.2.compactChars ++ rest)) := by
    rw [memberChars, List.append_assoc, List.cons_append, quoted_append]
  rw [hChars]
  show (skipStringFrom .nothing _).bind _ = _
  rw [skipStringFrom_escaped, Option.bind_some]
  exact hValue

/-- A value without parts is passed over at any depth. -/
theorem skipWithin_scalar (depth : Nat) {v : Json} (hv : Scalar v) {rest : List Char} (hEnds : Ends rest) :
    skipWithin (depth + 1) (v.compactChars ++ rest) = some ((), rest) := by
  -- a number is passed over by reading it, the others by their first character
  cases v with
  | null =>
    rw [compactChars]
    rfl
  | bool b =>
    cases b with
    | false => rw [compactChars]; rfl
    | true => rw [compactChars]; rfl
  | number n =>
    have hNumber := readNumber_text (show n.WellFormed from hv) hEnds
    obtain ⟨c, cs, hText, hFirst⟩ := text_first (show n.WellFormed from hv)
    have hSkip : skipSpace (c :: (cs ++ rest)) = c :: (cs ++ rest) := by
      simp [skipSpace, first_not_space hFirst]
    rw [hText, List.cons_append] at hNumber
    rw [compactChars, hText, List.cons_append, skipWithin, hSkip]
    dsimp only
    rw [if_neg (first_ne hFirst rfl (by decide)), if_neg (first_ne hFirst rfl (by decide)),
      if_neg (first_ne hFirst rfl (by decide)), if_neg (first_ne hFirst rfl (by decide)),
      if_neg (first_ne hFirst rfl (by decide)), if_neg (first_ne hFirst rfl (by decide)), hNumber,
      Option.map_some]
  | string s =>
    rw [compactChars, quoted_append]
    exact skipStringFrom_escaped s rest
  | array items => cases hv
  | object members => cases hv

/-! The brackets make the text of an array or object longer than that of each value in it. -/

/-- An item is shorter than its array. -/
theorem length_lt_of_mem_items {items : List Json} {w : Json} (hw : w ∈ items) :
    w.compactChars.length < (Json.array items).compactChars.length := by
  have hPiece := Text.length_le_join_of_mem ',' (List.mem_map_of_mem (f := compactChars) hw)
  rw [compactChars, itemsChars_eq, List.length_cons, List.length_append]
  omega

theorem length_lt_of_mem_members {members : Object} {m : String × Json} (hm : m ∈ members) :
    m.2.compactChars.length < (Json.object members).compactChars.length := by
  have hPiece := Text.length_le_join_of_mem ',' (List.mem_map_of_mem (f := memberChars) hm)
  rw [memberChars, List.length_append, List.length_cons] at hPiece
  rw [compactChars, membersChars_eq, List.length_cons, List.length_append]
  omega

/-- Nothing is kept of what is passed over, for any number of items. -/
theorem mapM_skip {α : Type} (as : List α) : as.mapM (fun _ => some ()) = some (as.map fun _ => ()) :=
  List.mapM_pure

/-- **The text of a value is passed over**, with any text behind it that may follow a value. -/
theorem skipWithin_compactChars {depth : Nat} {v : Json} (hNumbers : ∀ n, Part (.number n) v → n.WellFormed)
    (hDepth : v.compactChars.length < depth) {rest : List Char} (hEnds : Ends rest) :
    skipWithin depth (v.compactChars ++ rest) = some ((), rest) := by
  -- on the depth: the text of each part is shorter by at least the two brackets
  induction depth generalizing v rest with
  | zero => cases hDepth
  | succ depth ih =>
    have hWithin : ∀ {close : Char}, close = ']' ∨ close = '\x7d' → ∀ {w : Json},
        (∀ n, Part (.number n) w → n.WellFormed) → w.compactChars.length < depth →
        ReadsAs (fun r => skipWithin depth r) compactChars close (fun _ => some ()) w := by
      intro close hClose w hw hLength c back hc
      exact ih hw hLength (ends_within hClose hc back)
    cases v with
    | null => exact skipWithin_scalar (v := .null) depth trivial hEnds
    | bool b => exact skipWithin_scalar (v := .bool b) depth trivial hEnds
    | string s => exact skipWithin_scalar (v := .string s) depth trivial hEnds
    | number n => exact skipWithin_scalar (v := .number n) depth (hNumbers n .self) hEnds
    | array items =>
      have hItems : ∀ w ∈ items,
          ReadsAs (fun r => skipWithin depth r) compactChars ']' (fun _ => some ()) w := by
        intro w hw
        have hLength := length_lt_of_mem_items hw
        exact hWithin (Or.inl rfl) (fun n hPart => hNumbers n (.item hw hPart)) (by omega)
      have hFirst : ∀ w ∈ items, ∃ c cs, w.compactChars = c :: cs ∧ isSpace c = false ∧ c ≠ ']' := by
        intro w hw
        refine compactChars_first ?_
        rintro n rfl
        exact hNumbers n (.item hw .self)
      have hRead := readSequence_mapM (by decide) hFirst hItems rest
      rw [array_append]
      show (readSequence (fun r => skipWithin depth r) ']' _).map _ = _
      rw [hRead, mapM_skip]
      rfl
    | object members =>
      have hMembers : ∀ m ∈ members,
          ReadsAs (skipMember fun r => skipWithin depth r) memberChars '\x7d' (fun _ => some ()) m := by
        intro m hm c back hc
        have hLength := length_lt_of_mem_members hm
        have hNumbersWithin : ∀ n, Part (.number n) m.2 → n.WellFormed :=
          fun n hPart => hNumbers n (.member hm hPart)
        exact skipMember_memberChars (hWithin (Or.inr rfl) hNumbersWithin (by omega) c back hc)
      have hRead := readSequence_mapM (by decide) (fun m _ => memberChars_first m) hMembers rest
      rw [object_append]
      show (readSequence (skipMember fun r => skipWithin depth r) '\x7d' _).map _ = _
      rw [hRead, mapM_skip]
      rfl

/-- A value is passed over up to its end, however deep it nests. -/
theorem skipValue_compactChars {v : Json} (hNumbers : ∀ n, Part (.number n) v → n.WellFormed)
    {rest : List Char} (hEnds : Ends rest) : skipValue (v.compactChars ++ rest) = some ((), rest) := by
  refine skipWithin_compactChars hNumbers ?_ hEnds
  rw [List.length_append]
  omega

end PresentationVerifier.Json
