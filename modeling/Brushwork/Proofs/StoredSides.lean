import Brushwork.Proofs.Cursor
import Brushwork.Proofs.Merging

/-!
# The sides stored for a brush

A brush that does not say where its sides are has them directly after those of the brush
stored before it : `storedSides` counts through the stored brushes. What it is built from
is where the cursor is, and the cursor counts through the brushes that are built
(`cursorAt`), in the order of the entities. `recover_storedSides` says for every build of
every level when the two agree (`InStep`). They do if the stored brushes are built in order
(`inStep_of_inOrder`) and, as long as there are sides, only then (`inOrder_of_inStep`), but
nothing makes entities refer to models in order : in `crossed` the sides of two brushes are
exchanged.
-/

namespace Brushwork

namespace Level

variable (level : Level) (settings : Settings)

/-- The stored brushes that are built, in order. -/
def uses : List BrushUse :=
  level.usesOf level.entities.toList

/-- The stored brushes that are built, in order, with the positions of their sides. -/
def builds : List (BrushUse × Span) :=
  level.buildsOf 0 level.entities.toList

/-- Where the sides of a stored brush start : behind those of the brushes stored before
it. -/
def storedStart (position : Nat) : Nat :=
  takenBy (level.brushes.toList.take position)

/-- The positions of the sides stored for a brush. -/
def storedSides (use : BrushUse) : Span :=
  (Run.mk (level.storedStart use.position) use.brush.sides.taken).clamp level.brushSides.size

/-- Where the cursor is when the `k`-th brush is built : behind the sides of the brushes
built before it, up to the largest position it reaches. -/
def cursorAt (k : Nat) : Nat :=
  min (takenBy ((level.uses.take k).map (·.brush))) maxCursor

/-- The cursor is at the sides stored for the `k`-th brush that is built, or no sides can be
read in either place. -/
def InStep (k : Nat) (use : BrushUse) : Prop :=
  level.cursorAt k = level.storedStart use.position ∨ use.brush.sides.taken = 0 ∨
    level.brushSides.size ≤ level.cursorAt k ∧
      level.brushSides.size ≤ level.storedStart use.position

instance (k : Nat) (use : BrushUse) : Decidable (level.InStep k use) :=
  inferInstanceAs (Decidable (_ ∨ _ ∨ _ ∧ _))

/-- The first `n` brushes that are built are stored brushes in order, from the first and each
once. -/
def InOrder (n : Nat) : Prop :=
  ∀ i < n, ∀ use : BrushUse, level.uses[i]? = some use → use.position = i

variable {level settings}

/-! ## The planar brushes of what is recovered -/

theorem brushes_of_mem_recoverPlaced {entity : Editor.Entity}
    (h : entity ∈ level.recoverPlaced.value) : entity.brushes = [] := by
  rw [value_recoverPlaced, List.mem_append, List.mem_append] at h
  rcases h with (hprop | hmodel) | hcubemap
  · obtain ⟨prop, -, rfl⟩ := List.mem_map.1 hprop
    exact StaticProp.brushes_toEntity ..
  · obtain ⟨model, -, rfl⟩ := List.mem_map.1 hmodel
    exact StaticModel.brushes_toEntity _
  · obtain ⟨cubemap, -, rfl⟩ := List.mem_map.1 hcubemap
    exact Cubemap.brushes_toEntity _

theorem isSeparated_of_mem_recoveredInOrder {r : Recovered}
    (h : r ∈ level.recoveredInOrder settings) : r.IsSeparated := by
  obtain ⟨i, hr⟩ := List.mem_iff_getElem?.1 h
  obtain ⟨cursor, entity, -, rfl⟩ := exists_of_getElem?_recoveredInOrder hr
  exact isSeparated_recoverEntity cursor entity

/-- Without merging, the planar brushes are those of the builds in order. -/
theorem filter_isPlanar_recoverApart :
    ((level.recoverApart settings).entities.flatMap (·.brushes)).filter (·.isPlanar) =
      level.builds.map fun build => (level.recoverBuild settings build).value := by
  have hplaced : level.recoverPlaced.value.flatMap (·.brushes) = [] :=
    List.flatMap_eq_nil_iff.2 fun _ h => brushes_of_mem_recoverPlaced h
  have hsolid : ∀ r ∈ level.recoveredInOrder settings,
      (r.ownBrushes false).filter (·.isPlanar) = r.solids.map (·.value) :=
    fun r h => (isSeparated_of_mem_recoveredInOrder h).filter_isPlanar
  have hbuilds : (level.recoveredInOrder settings).flatMap (·.solids) =
      level.builds.map (level.recoverBuild settings) :=
    solids_recoverEntities 0 level.entities.toList
  calc ((level.recoverApart settings).entities.flatMap (·.brushes)).filter (·.isPlanar)
      = (level.recoveredInOrder settings).flatMap fun r =>
          (r.ownBrushes false).filter (·.isPlanar) := by
        rw [entities_recoverApart, List.flatMap_append, hplaced, List.append_nil,
          List.flatMap_map, List.filter_flatMap]
        rfl
    _ = ((level.recoveredInOrder settings).flatMap (·.solids)).map (·.value) := by
        rw [List.flatMap_congr hsolid, List.map_flatMap]
    _ = level.builds.map fun build => (level.recoverBuild settings build).value := by
        rw [hbuilds, List.map_map]
        rfl

/-- The planar brushes of the level are those of the builds, wherever they are. -/
theorem perm_filter_isPlanar_recover (settings : Settings) :
    (((level.recover settings).entities.flatMap (·.brushes)).filter (·.isPlanar)).Perm
      (level.builds.map fun build => (level.recoverBuild settings build).value) := by
  rw [← filter_isPlanar_recoverApart]
  exact (perm_brushes_recover settings).filter _

/-! ## The cursor and the stored sides -/

theorem getElem?_builds (k : Nat) :
    level.builds[k]? = (level.uses[k]?).map fun use =>
      (use, (use.brush.sides.locate level.brushSides.size (level.cursorAt k)).1) := by
  rw [builds, getElem?_buildsOf (Nat.zero_le _), Nat.zero_add]
  rfl

/-- A build finds the sides stored for its brush exactly if the cursor is in step. -/
theorem positions_eq_storedSides_iff {k : Nat} {build : BrushUse × Span}
    (hbuild : level.builds[k]? = some build) {count : Nat}
    (hsides : build.1.brush.sides = .following count) :
    build.2.positions = (level.storedSides build.1).positions ↔ level.InStep k build.1 := by
  rw [getElem?_builds, Option.map_eq_some_iff] at hbuild
  obtain ⟨use, -, rfl⟩ := hbuild
  have hlocate : (use.brush.sides.locate level.brushSides.size (level.cursorAt k)).1 =
      (Run.mk (level.cursorAt k) use.brush.sides.taken).clamp level.brushSides.size := by
    rw [hsides]
    rfl
  rw [storedSides, hlocate]
  exact Run.positions_clamp_eq_iff ..

/-- A build whose cursor is in step gives the brush of the sides stored for it. -/
theorem recoverBuild_of_positions_eq {build : BrushUse × Span}
    (h : build.2.positions = (level.storedSides build.1).positions) :
    level.recoverBuild settings build =
      level.recoverBuild settings (build.1, level.storedSides build.1) := by
  have hread : build.2.read level.brushSides =
      (level.storedSides build.1).read level.brushSides := by
    rw [Span.read_eq_filterMap, Span.read_eq_filterMap, h]
  simp only [recoverBuild, recoverSolid, hread]

/-! ## Building in order -/

/-- What is built in order is what is stored first. -/
theorem map_brush_take_uses {k : Nat} (hk : k ≤ level.uses.length) (horder : level.InOrder k) :
    (level.uses.take k).map (·.brush) = level.brushes.toList.take k := by
  refine List.ext_getElem? fun i => ?_
  rw [List.getElem?_map, List.getElem?_take, List.getElem?_take]
  split
  · next hlt =>
    have huse := List.getElem?_eq_getElem (Nat.lt_of_lt_of_le hlt hk)
    have hbrush := getElem?_of_mem_usesOf (List.mem_of_getElem? huse)
    rw [horder i hlt _ huse] at hbrush
    rw [huse, Option.map_some, Array.getElem?_toList, hbrush]
  · rfl

theorem cursorAt_of_inOrder {k : Nat} (hk : k ≤ level.uses.length) (horder : level.InOrder k) :
    level.cursorAt k = min (level.storedStart k) maxCursor := by
  rw [cursorAt, map_brush_take_uses hk horder, storedStart]

/-- If the stored brushes are built in order, the cursor is in step at every build. -/
theorem inStep_of_inOrder (hsize : level.brushSides.size ≤ maxCursor)
    (horder : level.InOrder level.uses.length) {k : Nat} {use : BrushUse}
    (huse : level.uses[k]? = some use) : level.InStep k use := by
  have hk := (List.getElem?_eq_some_iff.1 huse).1
  have hcursor := cursorAt_of_inOrder (Nat.le_of_lt hk) fun i hi => horder i (by omega)
  rw [InStep, hcursor, horder k hk use huse]
  rcases Nat.le_total (level.storedStart k) maxCursor with hle | hle
  · exact Or.inl (Nat.min_eq_left hle)
  · refine Or.inr (Or.inr ⟨?_, Nat.le_trans hsize hle⟩)
    rwa [Nat.min_eq_right hle]

/-- If the cursor is in step at every build, the stored brushes are built in order, as long
as every brush has sides and the cursor stays inside the table. -/
theorem inOrder_of_inStep (hsize : level.brushSides.size ≤ maxCursor)
    (hpos : ∀ brush ∈ level.brushes.toList, 0 < brush.sides.taken)
    (hinside : ∀ k < level.uses.length, level.cursorAt k < level.brushSides.size)
    (hstep : ∀ k use, level.uses[k]? = some use → level.InStep k use) :
    level.InOrder level.uses.length := by
  intro k
  induction k using Nat.strongRecOn with
  | ind k ih =>
    intro hk use huse
    have hcursor := cursorAt_of_inOrder (Nat.le_of_lt hk) fun i hi => ih i hi (by omega)
    have hlt := hinside k hk
    have hbrush := getElem?_of_mem_usesOf (List.mem_of_getElem? huse)
    rw [← Array.getElem?_toList] at hbrush
    have hposition := (List.getElem?_eq_some_iff.1 hbrush).1
    have htaken := hpos use.brush (List.mem_of_getElem? hbrush)
    have hstored : level.storedStart k = level.storedStart use.position := by
      rcases hstep k use huse with h | h | h <;> omega
    -- The starts of brushes with sides are different, so the positions are not.
    rcases Nat.lt_trichotomy use.position k with h | h | h
    · have hbefore := takenBy_take_lt hpos h hposition
      exact absurd hstored.symm (Nat.ne_of_lt hbefore)
    · exact h
    · have hafter := takenBy_take_lt hpos h (Nat.lt_trans h hposition)
      exact absurd hstored (Nat.ne_of_lt hafter)

/-- In a level whose brushes all have their sides after those of the brush before, the
planar brushes are those of the builds, and a build has the sides stored for its brush
exactly if the cursor is in step with it. -/
theorem recover_storedSides (level : Level) (settings : Settings)
    (hfollows : ∀ brush ∈ level.brushes.toList, brush.sides.follows = true) :
    (((level.recover settings).entities.flatMap (·.brushes)).filter (·.isPlanar)).Perm
      (level.builds.map fun build => (level.recoverBuild settings build).value) ∧
    ∀ k build, level.builds[k]? = some build →
      level.uses[k]? = some build.1 ∧
      level.brushes[build.1.position]? = some build.1.brush ∧
      (build.2.positions = (level.storedSides build.1).positions ↔ level.InStep k build.1) ∧
      (level.InStep k build.1 → level.recoverBuild settings build =
        level.recoverBuild settings (build.1, level.storedSides build.1)) := by
  refine ⟨perm_filter_isPlanar_recover settings, fun k build hbuild => ?_⟩
  have huse : level.uses[k]? = some build.1 := by
    rw [getElem?_builds, Option.map_eq_some_iff] at hbuild
    obtain ⟨use, huse, rfl⟩ := hbuild
    exact huse
  have hbrush := getElem?_of_mem_usesOf (List.mem_of_getElem? huse)
  have hmem : build.1.brush ∈ level.brushes.toList := by
    rw [← Array.getElem?_toList] at hbrush
    exact List.mem_of_getElem? hbrush
  obtain ⟨count, hsides⟩ := SideReference.follows_iff.1 (hfollows _ hmem)
  have hiff := positions_eq_storedSides_iff hbuild hsides
  exact ⟨huse, hbrush, hiff, fun hstep => recoverBuild_of_positions_eq (hiff.2 hstep)⟩

/-- A level of two models with a brush each, which has one side. -/
def twoWalls (entities : Array Properties) : Level where
  family := .cod
  entities := entities
  models := #[⟨⟨0, 1⟩, ⟨0, 0⟩, ⟨0, 0⟩⟩, ⟨⟨1, 1⟩, ⟨0, 0⟩, ⟨0, 0⟩⟩]
  brushes := #[⟨0, none, .following 1⟩, ⟨0, none, .following 1⟩]
  brushSides := #[{ (default : BrushSide) with bound := 10 },
    { (default : BrushSide) with bound := 20 }]

/-- The entity of the first model. -/
def frontWall : Properties :=
  ⟨[("classname", "worldspawn")], by decide⟩

/-- The entity of the second model. -/
def backWall : Properties :=
  ⟨[("classname", "func_wall"), ("model", "*1")], by decide⟩

/-- The entities are in the order of the models. -/
def straight : Level :=
  twoWalls #[frontWall, backWall]

/-- The entities are in the other order. -/
def crossed : Level :=
  twoWalls #[backWall, frontWall]

/-- In the order of the models, both brushes have their own sides. -/
theorem recover_storedSides_straight :
    (∀ brush ∈ straight.brushes.toList, brush.sides.follows = true) ∧
    straight.builds.length = 2 ∧
    ∀ build ∈ straight.builds,
      build.2.positions = (straight.storedSides build.1).positions := by
  have hfollows : ∀ brush ∈ straight.brushes.toList, brush.sides.follows = true := by decide
  refine ⟨hfollows, by decide, fun build hbuild => ?_⟩
  obtain ⟨k, hk⟩ := List.mem_iff_getElem?.1 hbuild
  obtain ⟨huse, -, hiff, -⟩ := (recover_storedSides straight {} hfollows).2 k build hk
  have hstep : ∀ use ∈ straight.uses.zipIdx, straight.InStep use.2 use.1 := by decide
  exact hiff.2 (hstep (build.1, k) (List.mk_mem_zipIdx_iff_getElem?.2 huse))

/-- In the other order, the sides of the two brushes are exchanged. -/
theorem builds_crossed :
    (∀ brush ∈ crossed.brushes.toList, brush.sides.follows = true) ∧
    ¬ ∀ build ∈ crossed.builds,
      build.2.positions = (crossed.storedSides build.1).positions := by
  decide

end Level

end Brushwork
