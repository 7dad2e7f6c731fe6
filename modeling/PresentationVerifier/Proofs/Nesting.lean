import PresentationVerifier.Submission

/-!
# Identifiers of nested descriptors

Nesting a descriptor in another one gives it the other's identifier. It does so for the descriptor that is
nested and not for those that are nested in it already: they keep the identifiers that they have. So in what
is built by nesting, the first two levels always have one identifier, and each level below has the
identifier that the level around it was made with.

Main results:

* `levels_nest`: what nesting makes of the levels.
* `Construction.ids_of_nesting`: the identifiers of all levels of what is built, and when they are one.
-/

namespace PresentationVerifier.Descriptor

/-! ## Levels -/

/-- A descriptor and those that are reached from it through nesting, from the outside in. -/
def levels : Descriptor → List Descriptor
  | mk id format path none => [mk id format path none]
  | mk id format path (some inner) => mk id format path (some inner) :: inner.levels

/-- Every level has the identifier of the outermost one. -/
def SameId (d : Descriptor) : Prop :=
  ∀ e ∈ d.levels, e.id = d.id

/-- Another identifier on the outside leaves everything below as it is. -/
@[simp] theorem levels_withId (d : Descriptor) (id : String) :
    (d.withId id).levels = d.withId id :: d.levels.tail := by
  obtain ⟨id', format, path, _ | inner⟩ := d
  · rfl
  · show (mk id format path (some inner)).levels = _
    rw [levels, levels, List.tail_cons]
    rfl

/-- What was nested in the outer descriptor is replaced; of the inner one only the first level changes. -/
@[simp] theorem levels_nest (d inner : Descriptor) :
    (d.nest inner).levels = d.nest inner :: inner.withId d.id :: inner.levels.tail := by
  show (mk d.id d.format d.path (some (inner.withId d.id))).levels = _
  rw [levels, levels_withId]
  rfl

/-! ## Constructions -/

/-- A way to build a descriptor: a new one, or one descriptor nested in another, both of them built. -/
inductive Construction where
  | new (id : String) (format : CredentialFormat) (path : String)
  | nest (outer inner : Construction)

namespace Construction

/-- The descriptor that is built. -/
def build : Construction → Descriptor
  | new id format path => Descriptor.new id format path
  | nest outer inner => outer.build.nest inner.build

/-- The identifier that the outermost level was made with. -/
def outerId : Construction → String
  | new id _ _ => id
  | nest outer _ => outer.outerId

/-- The identifiers that the levels were made with, from the outside in. -/
def givenIds : Construction → List String
  | new id _ _ => [id]
  | nest outer inner => outer.outerId :: inner.givenIds

/-- The outermost level keeps its identifier. -/
theorem id_build (c : Construction) : c.build.id = c.outerId := by
  -- by induction on how it was built: nesting leaves the outer identifier alone
  induction c with
  | new id format path => rfl
  | nest outer inner ih _ => exact ih

/-- The first of the given identifiers is that of the outermost level. -/
theorem givenIds_eq_cons (c : Construction) : c.givenIds = c.outerId :: c.givenIds.tail := by
  cases c with
  | new id format path => rfl
  | nest outer inner => rfl

/-- Each level has the identifier that the level around it was made with, the outermost its own. -/
theorem ids_build (c : Construction) :
    c.build.levels.map Descriptor.id = c.outerId :: c.givenIds.dropLast := by
  induction c with
  | new id format path => rfl
  | nest outer inner _ ih =>
    -- the first level of the inner descriptor is renamed, and what is below it stays
    have hBelow : inner.build.levels.tail.map Descriptor.id = inner.givenIds.dropLast := by
      rw [List.map_tail, ih, List.tail_cons]
    have hLevels : (nest outer inner).build.levels.map Descriptor.id =
        outer.build.id :: outer.build.id :: inner.build.levels.tail.map Descriptor.id := by
      rw [build, levels_nest]
      rfl
    have hSome : inner.givenIds ≠ [] := by
      rw [givenIds_eq_cons]
      exact List.cons_ne_nil _ _
    rw [hLevels, hBelow, id_build, givenIds, List.dropLast_cons_of_ne_nil hSome]
    rfl

/-- All levels have one identifier just when all but the innermost were made with the outermost one. -/
theorem sameId_iff (c : Construction) :
    SameId c.build ↔ ∀ id ∈ c.givenIds.dropLast, id = c.outerId := by
  -- as a statement on the identifiers alone, which are known
  have hLevels : SameId c.build ↔ ∀ id ∈ c.build.levels.map Descriptor.id, id = c.build.id := by
    rw [SameId, List.forall_mem_map]
  rw [hLevels, ids_build, id_build, List.forall_mem_cons]
  exact ⟨fun h => h.2, fun h => ⟨rfl, h⟩⟩

/-- With a single nesting no level is left that could have another identifier. -/
theorem sameId_of_length_le (c : Construction) (h : c.build.levels.length ≤ 2) : SameId c.build := by
  rw [sameId_iff]
  intro id hId
  -- there is at most one identifier to pass down, and it is the outermost one
  have hLength : c.givenIds.dropLast.length ≤ 1 := by
    have hIds := congrArg List.length c.ids_build
    rw [List.length_map, List.length_cons] at hIds
    omega
  obtain ⟨i, hi, hAt⟩ := List.mem_iff_getElem.mp hId
  have hZero : i = 0 := by omega
  subst hZero
  have hFirst : c.givenIds[0]? = some c.outerId := by
    rw [givenIds_eq_cons]
    rfl
  obtain ⟨_, hOuter⟩ := List.getElem?_eq_some_iff.mp hFirst
  rw [← hAt, List.getElem_dropLast, hOuter]

/-- **The identifiers of what is built by nesting.** Each level has the identifier that the level around it
was made with, so all levels have one identifier just when all but the innermost were made with it. Of two
levels that always holds. -/
theorem ids_of_nesting (c : Construction) :
    c.build.levels.map Descriptor.id = c.outerId :: c.givenIds.dropLast ∧
      (SameId c.build ↔ ∀ id ∈ c.givenIds.dropLast, id = c.outerId) ∧
      (c.build.levels.length ≤ 2 → SameId c.build) :=
  ⟨c.ids_build, c.sameId_iff, c.sameId_of_length_le⟩

/-- Three levels, built from the inside out. -/
def threeLevels : Construction :=
  nest (new "d1" .jwtVp "$") (nest (new "d2" .jwtVc "$.a") (new "d3" .ldp "$.b"))

/-- The innermost of three levels has the identifier that the middle one was made with. -/
theorem not_sameId_threeLevels :
    ¬SameId threeLevels.build ∧ threeLevels.build.levels.map Descriptor.id = ["d1", "d1", "d2"] := by
  have hIds : threeLevels.build.levels.map Descriptor.id = ["d1", "d1", "d2"] := by decide
  refine ⟨fun hSame => ?_, hIds⟩
  rw [sameId_iff] at hSame
  exact absurd (hSame "d2" (by decide)) (by decide)

end Construction

end PresentationVerifier.Descriptor
