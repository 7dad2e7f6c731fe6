import Mathlib.Data.List.Forall2
import Mathlib.Data.Prod.Lex
import PresentationVerifier.Run.Stage

/-!
# Stages that deal with one presentation at a time

Most stages of a run do the same to each presentation and look at no other one while they do. Such a
stage is a `SoloStage`, described by what it does to one presentation; `SoloStage.onEach` is the stage
of a run that it makes. A `journey` takes one presentation through a row of solo stages.

A run goes stage by stage, a journey presentation by presentation. The two orders meet in the errors: of
all journeys that end in an error, the run reports the one that ends at the earliest stage, and of several
that end there, the first.

Main results:

* `advance_onEach_none_iff` — a row of solo stages passes exactly when every journey does.
* `advance_onEach_fst` — then it leaves the presentations as their journeys leave them.
* `advance_onEach_foremost` — else it reports the error of the journey that is `Foremost`.
-/

namespace PresentationVerifier

/-! ## The order of stages -/

/-- The place of a stage in the order in which runs pass them. Nothing but this order matters here. -/
def Stage.rank : Stage → Nat
  | initial => 0
  | errorChecked => 1
  | stateChecked => 2
  | submissionPresent => 3
  | tokensExtracted => 4
  | vpsIntegrityChecked => 5
  | vcsExtracted => 6
  | extractedOnly => 7
  | vcsIntegrityChecked => 8
  | selectiveDisclosuresChecked => 9
  | holderBindingChecked => 10
  | done => 11

/-! ## Rows of stages -/

/-- A row in two parts is the first part, and the second one if nothing stops the first. -/
@[simp] theorem advance_append (first second : List StageAction) (p : Progress) :
    advance (first ++ second) p =
      match advance first p with
      | (q, some e) => (q, some e)
      | (q, none) => advance second q := by
  -- on the first part: either its first stage stops both sides, or it comes off both
  induction first generalizing p with
  | nil => rfl
  | cons s rest ih =>
    simp only [List.cons_append, advance]
    split
    · rfl
    · rw [ih]

/-! ## Lists -/

section Lists

variable {α β ε : Type}

/-- The error of an update is the first that comes up. -/
theorem updateEach_snd (f : α → α × Option ε) (as : List α) :
    (updateEach f as).2 = as.findSome? fun a => (f a).2 := by
  induction as with
  | nil => rfl
  | cons a rest ih =>
    rw [updateEach, List.findSome?_cons]
    split
    -- the first item has an error, and the others are not reached
    · next h => simp [h]
    · next h => simp [h, ih]

/-- An update without an error has updated all items. -/
theorem updateEach_fst {f : α → α × Option ε} {as : List α} (h : (updateEach f as).2 = none) :
    (updateEach f as).1 = as.map fun a => (f a).1 := by
  induction as with
  | nil => rfl
  | cons a rest ih =>
    rw [updateEach] at h ⊢
    split at h
    -- an error of the first item would be one of the update
    · simp at h
    · next hf => simp [hf, ih h]

/-- The error of an update is that of one of the items. -/
theorem mem_of_updateEach {f : α → α × Option ε} {as : List α} {e : ε}
    (h : (updateEach f as).2 = some e) : ∃ a ∈ as, (f a).2 = some e := by
  rw [updateEach_snd] at h
  exact List.exists_of_findSome?_eq_some h

/-- What the update of any item keeps holds of all items afterwards, however far the update gets. -/
theorem forall_updateEach {f : α → α × Option ε} {P : α → Prop} (hKeeps : ∀ a, P a → P (f a).1)
    {as : List α} (h : ∀ a ∈ as, P a) : ∀ a ∈ (updateEach f as).1, P a := by
  induction as with
  | nil => exact h
  | cons a rest ih =>
    rw [List.forall_mem_cons] at h
    obtain ⟨ha, hRest⟩ := h
    have hUpdated := hKeeps a ha
    rw [updateEach]
    split
    · next hf =>
      -- the rest was not reached
      rw [hf] at hUpdated
      exact List.forall_mem_cons.mpr ⟨hUpdated, hRest⟩
    · next hf =>
      rw [hf] at hUpdated
      exact List.forall_mem_cons.mpr ⟨hUpdated, ih hRest⟩

/-- A view of the items that no update changes is the same afterwards. -/
theorem map_updateEach {f : α → α × Option ε} {view : α → β}
    (hKeeps : ∀ a, view (f a).1 = view a) (as : List α) :
    (updateEach f as).1.map view = as.map view := by
  induction as with
  | nil => rfl
  | cons a rest ih =>
    have hUpdated := hKeeps a
    rw [updateEach]
    split
    -- the update stops here, and the rest keeps its items anyway
    · next hf =>
      rw [hf] at hUpdated
      rw [List.map_cons, List.map_cons, hUpdated]
    · next hf =>
      rw [hf] at hUpdated
      rw [List.map_cons, List.map_cons, hUpdated, ih]

/-- An update that gets through is the same for a function that does the same to each item it passes. -/
theorem updateEach_of_none {f g : α → α × Option ε} (hSame : ∀ a a', f a = (a', none) → g a = (a', none))
    {as as' : List α} (h : updateEach f as = (as', none)) : updateEach g as = (as', none) := by
  induction as generalizing as' with
  | nil => exact h
  | cons a rest ih =>
    rw [updateEach] at h ⊢
    cases hf : f a with
    | mk a' e =>
      cases e with
      -- an error would have kept the first update from getting through
      | some e => simp [hf] at h
      | none =>
        cases hRest : updateEach f rest with
        | mk rest' e =>
          simp only [hf, hRest, Prod.mk.injEq] at h
          obtain ⟨rfl, rfl⟩ := h
          simp only [hSame a a' hf, ih hRest]

/-- Items pass together when each of them does. -/
theorem firstError_eq_ok_iff {check : α → Except ε Unit} {as : List α} :
    firstError check as = .ok () ↔ ∀ a ∈ as, check a = .ok () := by
  induction as with
  | nil => simp [firstError]
  | cons a rest ih =>
    rw [firstError, List.forall_mem_cons]
    split
    · next h => rw [ih]; simp [h]
    · next h => simp [h]

/-- The error of a check of several items is that of one of them. -/
theorem mem_of_firstError {check : α → Except ε Unit} {as : List α} {e : ε}
    (h : firstError check as = .error e) : ∃ a ∈ as, check a = .error e := by
  induction as with
  | nil => cases h
  | cons a rest ih =>
    rw [firstError] at h
    split at h
    -- the first item passes, so the error is one of the rest
    · obtain ⟨b, hb, hError⟩ := ih h
      exact ⟨b, List.mem_cons_of_mem a hb, hError⟩
    · next hError =>
      cases h
      exact ⟨a, List.mem_cons_self, hError⟩

/-- Of two lists the second is checked if the first passes. -/
@[simp] theorem firstError_append (check : α → Except ε Unit) (as bs : List α) :
    firstError check (as ++ bs) =
      match firstError check as with
      | .ok () => firstError check bs
      | .error e => .error e := by
  induction as with
  | nil => rfl
  | cons a rest ih =>
    simp only [List.cons_append, firstError]
    split
    · exact ih
    · rfl

/-- Items that are parts of others are checked with the ones that they are parts of. -/
theorem firstError_flatMap (check : β → Except ε Unit) (parts : α → List β) (as : List α) :
    firstError check (as.flatMap parts) = firstError (fun a => firstError check (parts a)) as := by
  induction as with
  | nil => rfl
  | cons a rest ih =>
    -- the parts of the first item stand in front
    rw [List.flatMap_cons, firstError_append, ih]
    rfl

end Lists

/-! ## Solo stages -/

/-- A stage that deals with one presentation at a time. -/
structure SoloStage where
  reached : Stage
  act : Presentation → Presentation × Option Error

namespace SoloStage

/-- A solo stage that only checks. -/
def check (reached : Stage) (test : Presentation → Except Error Unit) : SoloStage where
  reached := reached
  act vp :=
    match test vp with
    | .ok () => (vp, none)
    | .error e => (vp, some e)

/-- The stage of a run that deals so with each presentation. -/
def onEach (s : SoloStage) : StageAction where
  reached := s.reached
  act p :=
    let (presentations, e) := updateEach s.act p.presentations
    ({ p with presentations := presentations }, e)

/-- A solo stage that checks is a check of all presentations. -/
theorem onEach_check (reached : Stage) (test : Presentation → Except Error Unit) :
    (check reached test).onEach =
      StageAction.check reached fun p => firstError test p.presentations := by
  have hEach : ∀ vps : List Presentation, updateEach (check reached test).act vps =
      match firstError test vps with
      | .ok () => (vps, none)
      | .error e => (vps, some e) := by
    intro vps
    -- a check changes nothing, so the presentations before and after the first error are as they were
    induction vps with
    | nil => rfl
    | cons vp rest ih =>
      rw [updateEach, firstError]
      cases h : test vp with
      | error e => simp [check, h]
      | ok _ =>
        simp only [check, h] at ih ⊢
        rw [ih]
        cases firstError test rest <;> rfl
  -- so both stages do the same to the progress
  simp only [onEach, StageAction.check, StageAction.mk.injEq]
  refine ⟨rfl, ?_⟩
  funext p
  rw [hEach]
  cases firstError test p.presentations <;> rfl

end SoloStage

/-! ## Journeys -/

/-- Where a journey ends. -/
structure JourneyEnd where
  /-- The last stage that was passed. -/
  stage : Stage
  presentation : Presentation
  error : Option Error

/-- Takes a presentation, which has passed a stage already, through a row of solo stages. -/
def journey : List SoloStage → Stage → Presentation → JourneyEnd
  | [], passed, vp => ⟨passed, vp, none⟩
  | s :: rest, passed, vp =>
    match s.act vp with
    | (vp', some e) => ⟨passed, vp', some e⟩
    | (vp', none) => journey rest s.reached vp'

/-- The stages of a row come in the order of stages, after one that was passed before. -/
def InOrder (passed : Stage) (row : List SoloStage) : Prop :=
  (passed :: row.map SoloStage.reached).Pairwise fun a b => a.rank < b.rank

theorem InOrder.tail {passed : Stage} {s : SoloStage} {row : List SoloStage}
    (h : InOrder passed (s :: row)) : InOrder s.reached row :=
  (List.pairwise_cons.mp h).2

theorem InOrder.lt {passed : Stage} {s : SoloStage} {row : List SoloStage}
    (h : InOrder passed (s :: row)) : passed.rank < s.reached.rank :=
  (List.pairwise_cons.mp h).1 _ (by simp)

/-- A journey ends no earlier than it begins. -/
theorem rank_le_journey {passed : Stage} {row : List SoloStage} (h : InOrder passed row)
    (vp : Presentation) : passed.rank ≤ (journey row passed vp).stage.rank := by
  -- each stage that lets the presentation on is later than the one before
  induction row generalizing passed vp with
  | nil => exact Nat.le_refl _
  | cons s rest ih =>
    rw [journey]
    split
    · exact Nat.le_refl _
    · exact Nat.le_trans (Nat.le_of_lt h.lt) (ih h.tail _)

/-- A stage that lets the presentation on leaves it to the rest of the row. -/
theorem journey_cons_of_none {s : SoloStage} {vp : Presentation} (h : (s.act vp).2 = none)
    (rest : List SoloStage) (passed : Stage) :
    journey (s :: rest) passed vp = journey rest s.reached (s.act vp).1 := by
  rw [journey]
  split
  · next h' => simp [h'] at h
  · next h' => rw [h']

/-- A stage that stops the presentation ends the journey at the stage before. -/
theorem journey_cons_of_some {s : SoloStage} {vp : Presentation} {e : Error}
    (h : (s.act vp).2 = some e) (rest : List SoloStage) (passed : Stage) :
    journey (s :: rest) passed vp = ⟨passed, (s.act vp).1, some e⟩ := by
  rw [journey]
  split
  · next h' => simpa [h'] using h
  · next h' => simp [h'] at h

/-! ## The foremost error -/

/-- The last stage that something passes, and the error that stops it there, if one does. -/
abbrev Fate := Stage × Option Error

/-- The fate of a presentation on its journey. -/
def journeyFate (row : List SoloStage) (passed : Stage) (vp : Presentation) : Fate :=
  ((journey row passed vp).stage, (journey row passed vp).error)

/-- Of several things with their fates, the one at `i` is stopped at the earliest stage, and it is the
first of those that are stopped there. -/
def Foremost (fates : List Fate) (i : Nat) (passed : Stage) (e : Error) : Prop :=
  fates[i]? = some (passed, some e) ∧
    ∀ j passed' e', fates[j]? = some (passed', some e') →
      toLex (passed.rank, i) ≤ toLex (passed'.rank, j)

/-- If all have passed a stage, the first that is stopped right after it is the foremost. -/
theorem foremost_of_findSome {α : Type} {fate : α → Fate} {stop : α → Option Error}
    {passed : Stage} {as : List α} {e : Error} (h : as.findSome? stop = some e)
    (hStopped : ∀ a e, stop a = some e → fate a = (passed, some e))
    (hPassed : ∀ a, stop a = none → passed.rank < (fate a).1.rank) :
    ∃ i, Foremost (as.map fate) i passed e := by
  obtain ⟨before, a, after, rfl, hStop, hBefore⟩ := List.findSome?_eq_some_iff.mp h
  -- its place is the number of those that stand before it
  refine ⟨before.length, by simp [hStopped a e hStop], ?_⟩
  intro j passed' e' hj
  rw [List.getElem?_map] at hj
  obtain ⟨b, hb, hFate⟩ := Option.map_eq_some_iff.mp hj
  rw [Prod.Lex.toLex_le_toLex]
  cases hs : stop b with
  | none =>
    -- it is stopped only later, so it comes after whatever its place is
    have hLt := hPassed b hs
    rw [hFate] at hLt
    exact Or.inl hLt
  | some e'' =>
    rw [hStopped b e'' hs, Prod.mk.injEq] at hFate
    refine Or.inr ⟨by rw [hFate.1], Nat.le_of_not_lt fun hlt => ?_⟩
    -- what stands before the first that is stopped is not stopped
    have hMem : b ∈ before := by
      rw [List.getElem?_append_left hlt] at hb
      exact List.mem_of_getElem? hb
    simp [hBefore b hMem] at hs

/-! ## Rows of solo stages -/

/-- A stage that lets all presentations on leaves them to the rest of the row. -/
theorem advance_onEach_cons_of_none {s : SoloStage} {p : Progress}
    (h : ∀ vp ∈ p.presentations, (s.act vp).2 = none) (rest : List SoloStage) :
    advance ((s :: rest).map SoloStage.onEach) p =
      advance (rest.map SoloStage.onEach)
        { p with stage := s.reached, presentations := p.presentations.map fun vp => (s.act vp).1 } := by
  -- no item has an error, so all are updated
  have hNone : (updateEach s.act p.presentations).2 = none := by
    rw [updateEach_snd, List.findSome?_eq_none_iff]
    exact h
  have hFst := updateEach_fst hNone
  simp only [List.map_cons, advance, SoloStage.onEach]
  rw [hNone, hFst]

/-- A stage that stops one of them stops the run with the first error, at the stage before. -/
theorem advance_onEach_cons_of_some {s : SoloStage} {p : Progress} {e : Error}
    (h : (p.presentations.findSome? fun vp => (s.act vp).2) = some e) (rest : List SoloStage) :
    ∃ vps, advance ((s :: rest).map SoloStage.onEach) p =
      ({ p with presentations := vps }, some e) := by
  rw [← updateEach_snd] at h
  refine ⟨(updateEach s.act p.presentations).1, ?_⟩
  simp only [List.map_cons, advance, SoloStage.onEach]
  rw [h]

/-- A row passes exactly when the journeys of all presentations do. -/
theorem advance_onEach_none_iff {row : List SoloStage} {p : Progress} :
    (advance (row.map SoloStage.onEach) p).2 = none ↔
      ∀ vp ∈ p.presentations, (journey row p.stage vp).error = none := by
  -- the first stage stops some presentation, or it takes all of them to the rest of the row
  induction row generalizing p with
  | nil => simp [advance, journey]
  | cons s rest ih =>
    cases hf : p.presentations.findSome? fun vp => (s.act vp).2 with
    | none =>
      rw [List.findSome?_eq_none_iff] at hf
      rw [advance_onEach_cons_of_none hf, ih]
      simp only [List.forall_mem_map]
      refine forall₂_congr fun vp hvp => ?_
      rw [journey_cons_of_none (hf vp hvp)]
    | some e =>
      obtain ⟨vps, hAdvance⟩ := advance_onEach_cons_of_some hf rest
      rw [hAdvance]
      obtain ⟨before, vp, after, hSplit, hStop, -⟩ := List.findSome?_eq_some_iff.mp hf
      -- the run is stopped, and so is the journey of the one that is first stopped
      refine ⟨fun h => by simp at h, fun h => ?_⟩
      have := h vp (by simp [hSplit])
      simp [journey_cons_of_some hStop] at this

/-- A row that passes leaves each presentation as its journey does. -/
theorem advance_onEach_fst {row : List SoloStage} {p : Progress}
    (h : (advance (row.map SoloStage.onEach) p).2 = none) :
    (advance (row.map SoloStage.onEach) p).1.presentations =
      p.presentations.map fun vp => (journey row p.stage vp).presentation := by
  -- what one stage leaves is what the rest of the row starts from
  induction row generalizing p with
  | nil => simp [advance, journey]
  | cons s rest ih =>
    cases hf : p.presentations.findSome? fun vp => (s.act vp).2 with
    | none =>
      rw [List.findSome?_eq_none_iff] at hf
      rw [advance_onEach_cons_of_none hf] at h ⊢
      rw [ih h, List.map_map]
      refine List.map_congr_left fun vp hvp => ?_
      rw [journey_cons_of_none (hf vp hvp)]
      rfl
    | some e =>
      obtain ⟨vps, hAdvance⟩ := advance_onEach_cons_of_some hf rest
      -- a row that passes is not stopped by its first stage
      rw [hAdvance] at h
      simp at h

/-- A row that only one presentation goes through has the fate of its journey. -/
theorem advance_onEach_single {row : List SoloStage} {p : Progress} {vp : Presentation}
    (h : p.presentations = [vp]) :
    ((advance (row.map SoloStage.onEach) p).1.stage, (advance (row.map SoloStage.onEach) p).2) =
      journeyFate row p.stage vp := by
  induction row generalizing p vp with
  | nil => rfl
  | cons s rest ih =>
    cases hs : (s.act vp).2 with
    -- the only presentation is let on, and is the only one in the rest of the row
    | none =>
      have hAll : ∀ vp' ∈ p.presentations, (s.act vp').2 = none := by simpa [h] using hs
      have hLeft : (p.presentations.map fun vp' => (s.act vp').1) = [(s.act vp).1] := by simp [h]
      rw [advance_onEach_cons_of_none hAll, ih hLeft, journeyFate, journeyFate,
        journey_cons_of_none hs]
    -- it is stopped here, by the journey and by the row alike
    | some e =>
      have hFirst : (p.presentations.findSome? fun vp' => (s.act vp').2) = some e := by simp [h, hs]
      obtain ⟨vps, hAdvance⟩ := advance_onEach_cons_of_some hFirst rest
      rw [hAdvance, journeyFate, journey_cons_of_some hs]

/-- A row that does not pass reports the error of the foremost journey, at the stage where that ends. -/
theorem advance_onEach_foremost {row : List SoloStage} {p : Progress} (hOrder : InOrder p.stage row)
    {e : Error} (h : (advance (row.map SoloStage.onEach) p).2 = some e) :
    ∃ i, Foremost (p.presentations.map (journeyFate row p.stage)) i
      (advance (row.map SoloStage.onEach) p).1.stage e := by
  -- on the row, from whatever stage the presentations have come to together
  induction row generalizing p with
  | nil => simp [advance] at h
  | cons s rest ih =>
    cases hf : p.presentations.findSome? fun vp => (s.act vp).2 with
    | none =>
      -- all go on from the same later stage, and none has a new place
      rw [List.findSome?_eq_none_iff] at hf
      rw [advance_onEach_cons_of_none hf] at h ⊢
      have hSame : p.presentations.map (journeyFate (s :: rest) p.stage) =
          (p.presentations.map fun vp => (s.act vp).1).map (journeyFate rest s.reached) := by
        rw [List.map_map]
        refine List.map_congr_left fun vp hvp => ?_
        rw [journeyFate, journey_cons_of_none (hf vp hvp)]
        rfl
      rw [hSame]
      exact ih hOrder.tail h
    | some e' =>
      obtain ⟨vps, hAdvance⟩ := advance_onEach_cons_of_some hf rest
      rw [hAdvance] at h ⊢
      obtain rfl : e' = e := by simpa using h
      -- those that this stage does not stop get further than it
      refine foremost_of_findSome hf ?_ ?_
      · intro vp e'' hStop
        rw [journeyFate, journey_cons_of_some hStop]
      · intro vp hStop
        rw [journeyFate, journey_cons_of_none hStop]
        exact Nat.lt_of_lt_of_le hOrder.lt (rank_le_journey hOrder.tail _)

end PresentationVerifier
