import PresentationVerifier.Proofs.Checks

/-!
# Demands in their order

A check passes or gives one error. What it checks can be said as a row of demands, each with the error
where it is not met: the check passes exactly when all are met, and else it gives the error of the first
that is not. `Decides` says that of a check and a row; the lemmas below follow the way in which checks
are put together, so that the row of a whole check is made of the rows of its parts.

Main results:

* `Decides.ok_iff`, `Decides.error_iff`: when a decided check passes, and which error it gives.
* `Decides.single`: the two cases of a check with one demand.
* `Decides.bind`, `Decides.unless`, `Decides.rejectAt`: checks one after the other, left out by an
  option, and turned into errors of a step.
-/

namespace PresentationVerifier

/-- Something that is demanded, and the error where it is not met. -/
structure Demand (ε : Type) where
  met : Prop
  error : ε

/-- The result is decided by the demands: the first that is not met gives the error, and if there is
none the result is no error. -/
def Decides {ε α : Type} : List (Demand ε) → Except ε α → Prop
  | [], result => ∃ a, result = .ok a
  | d :: rest, result => (d.met ∧ Decides rest result) ∨ (¬d.met ∧ result = .error d.error)

/-- A demand that is first in its row and met. -/
theorem Decides.cons_of_met {ε α : Type} {d : Demand ε} {rest : List (Demand ε)}
    {result : Except ε α} (hMet : d.met) (h : Decides rest result) : Decides (d :: rest) result :=
  Or.inl ⟨hMet, h⟩

/-- A demand that is first in its row and not met. -/
theorem Decides.cons_of_unmet {ε α : Type} {d : Demand ε} {rest : List (Demand ε)}
    {result : Except ε α} (hUnmet : ¬d.met) (h : result = .error d.error) :
    Decides (d :: rest) result :=
  Or.inr ⟨hUnmet, h⟩

section Meaning

variable {ε α : Type} {demands : List (Demand ε)} {result : Except ε α}

/-- A decided check passes exactly when all demands are met. -/
theorem Decides.ok_iff (h : Decides demands result) :
    (∃ a, result = .ok a) ↔ ∀ d ∈ demands, d.met := by
  -- by induction on the row, as a first demand that is not met settles both sides
  induction demands with
  | nil => exact ⟨fun _ d hd => absurd hd List.not_mem_nil, fun _ => h⟩
  | cons d rest ih =>
    rw [List.forall_mem_cons]
    rcases h with ⟨hMet, hRest⟩ | ⟨hUnmet, rfl⟩
    · rw [ih hRest]
      exact ⟨fun hAll => ⟨hMet, hAll⟩, fun hAll => hAll.2⟩
    · constructor
      · rintro ⟨a, ha⟩
        cases ha
      · intro hAll
        exact absurd hAll.1 hUnmet

/-- The error is that of the first demand that is not met. -/
theorem Decides.error_iff (h : Decides demands result) {e : ε} :
    result = .error e ↔ ∃ before d after, demands = before ++ d :: after ∧
      (∀ b ∈ before, b.met) ∧ ¬d.met ∧ d.error = e := by
  induction demands with
  | nil =>
    -- an empty row has no first demand that is not met
    obtain ⟨a, rfl⟩ := h
    constructor
    · intro hError
      cases hError
    · rintro ⟨before, d, after, hSplit, -⟩
      simp at hSplit
  | cons first rest ih =>
    rcases h with ⟨hMet, hRest⟩ | ⟨hUnmet, rfl⟩
    · rw [ih hRest]
      constructor
      · rintro ⟨before, d, after, rfl, hBefore, hd, hError⟩
        exact ⟨first :: before, d, after, rfl, List.forall_mem_cons.mpr ⟨hMet, hBefore⟩, hd, hError⟩
      · rintro ⟨before, d, after, hSplit, hBefore, hd, hError⟩
        cases before with
        | nil =>
          -- the first demand is met, so it is not the one
          obtain ⟨rfl, -⟩ := List.cons.inj hSplit
          exact absurd hMet hd
        | cons b before =>
          obtain ⟨rfl, rfl⟩ := List.cons.inj hSplit
          exact ⟨before, d, after, rfl, (List.forall_mem_cons.mp hBefore).2, hd, hError⟩
    · -- the first demand is not met, so that it gives the error
      constructor
      · intro hError
        exact ⟨[], first, rest, rfl, by simp, hUnmet, Except.error.inj hError⟩
      · rintro ⟨before, d, after, hSplit, hBefore, hd, rfl⟩
        cases before with
        | nil =>
          obtain ⟨rfl, -⟩ := List.cons.inj hSplit
          rfl
        | cons b before =>
          obtain ⟨rfl, -⟩ := List.cons.inj hSplit
          exact absurd (List.forall_mem_cons.mp hBefore).1 hUnmet

/-- A check with a single demand. -/
theorem Decides.single {d : Demand ε} {check : Except ε Unit} (h : Decides [d] check) :
    (d.met → check = .ok ()) ∧ (¬d.met → check = .error d.error) := by
  rcases h with ⟨hMet, ⟨⟩, hPasses⟩ | ⟨hUnmet, hFails⟩
  · exact ⟨fun _ => hPasses, fun hUnmet => absurd hMet hUnmet⟩
  · exact ⟨fun hMet => absurd hMet hUnmet, fun _ => hFails⟩

/-- Two checks with one demand each and the same error agree, if both demands are met or none is. -/
theorem Decides.single_eq {d d' : Demand ε} {check check' : Except ε Unit} (h : Decides [d] check)
    (h' : Decides [d'] check') (hMet : d.met ↔ d'.met) (hError : d.error = d'.error) :
    check = check' := by
  by_cases hFirst : d.met
  · rw [h.single.1 hFirst, h'.single.1 (hMet.mp hFirst)]
  · rw [h.single.2 hFirst, h'.single.2 (mt hMet.mpr hFirst), hError]

end Meaning

/-! ## Checks put together -/

section Combined

variable {ε α β : Type} {demands more : List (Demand ε)}

/-- The demands of two checks in a row are those of the first and then those of the second. -/
theorem Decides.bind {x : Except ε α} {f : α → Except ε β} (hx : Decides demands x)
    (hf : ∀ a, x = .ok a → Decides more (f a)) : Decides (demands ++ more) (x >>= f) := by
  -- by induction on the row of the first check: it is met to its end, or its error is that of both
  induction demands with
  | nil =>
    obtain ⟨a, rfl⟩ := hx
    exact hf a rfl
  | cons d rest ih =>
    rcases hx with ⟨hMet, hRest⟩ | ⟨hUnmet, rfl⟩
    · exact .cons_of_met hMet (ih hRest)
    · exact .cons_of_unmet hUnmet rfl

/-- What is demanded by a check that an option leaves out. -/
def unlessSkipped (skip : Bool) (demands : List (Demand ε)) : List (Demand ε) :=
  if skip then [] else demands

/-- An option that leaves out a check leaves out its demands. -/
theorem Decides.unless {skip : Bool} {x : Except ε Unit} (hx : Decides demands x) :
    Decides (unlessSkipped skip demands) (if skip then .ok () else x) := by
  cases skip with
  | true => exact ⟨(), rfl⟩
  | false => exact hx

/-- What is demanded where there is an expectation. -/
def whereExpected (expected : Option β) (demands : β → List (Demand ε)) : List (Demand ε) :=
  match expected with
  | none => []
  | some e => demands e

/-- A check of one condition. -/
theorem decides_ite (condition : Prop) [Decidable condition] (e : ε) :
    Decides [⟨condition, e⟩] (if condition then .ok () else .error e : Except ε Unit) := by
  by_cases h : condition
  · rw [if_pos h]
    exact .cons_of_met h ⟨(), rfl⟩
  · rw [if_neg h]
    exact .cons_of_unmet h rfl

end Combined

/-- The demand as one of a step, whose error is a rejection. -/
def Demand.rejectedAt (step : Step) (d : Demand Reason) : Demand Error :=
  ⟨d.met, .rejected step d.error⟩

/-- As errors of a step the demands keep their order. -/
theorem Decides.rejectAt {α : Type} {demands : List (Demand Reason)} {x : Except Reason α}
    (step : Step) (hx : Decides demands x) :
    Decides (demands.map (Demand.rejectedAt step)) (rejectAt step x) := by
  induction demands with
  | nil =>
    obtain ⟨a, rfl⟩ := hx
    exact ⟨a, rfl⟩
  | cons d rest ih =>
    rcases hx with ⟨hMet, hRest⟩ | ⟨hUnmet, rfl⟩
    · exact .cons_of_met hMet (ih hRest)
    · exact .cons_of_unmet hUnmet rfl

end PresentationVerifier
