import Brushwork.Proofs.GridHistory
import Brushwork.Proofs.Heights
import Brushwork.Proofs.StoredSides

/-!
# The shapes of what is recovered

A writer goes through control points and grids by the sizes that are declared with them.
`Editor.Shape.IsRegular` says that the sizes are right, and `regular_recover` that they are
for every brush of every recovery, whatever the records say : a short patch is cut to whole
rows (`length_controlPoints_patchOver`), a large power is cut to the largest one, and every
grid is filled (`Grid.hasSide`). A planar brush has at most as many sides as are stored at
the positions it was built from (`length_sides_recoverBuild_le`).
-/

namespace Brushwork

/-! ## Regular shapes -/

/-- The sizes declared with a shape are those of its control points and grids. -/
def Editor.Shape.IsRegular : Editor.Shape → Prop
  | sides _ => True
  | patch p => p.controlPoints.length = p.size.width * p.size.height
  | faceTerrain t => t.heights.HasSide t.heights.side ∧ t.alphas.HasSide t.heights.side
  | tileTerrain t => t.heights.HasSide 9
  | displacement _ d => d.power ≤ 4 ∧ d.normals.HasSide (2 ^ d.power + 1) ∧
    d.distances.HasSide (2 ^ d.power + 1) ∧ d.alphas.HasSide (2 ^ d.power + 1)

/-- A patch has whole rows of control points, however many there were. -/
theorem length_controlPoints_patchOver (size : PatchSize) (texture : String)
    (points : List Vertex) :
    (patchOver size texture points).value.controlPoints.length =
      (patchOver size texture points).value.size.count := by
  have hcount : (patchOver size texture points).value.size.count ≤ points.length := by
    simp only [patchOver, Warned.value_bind, Warned.value_pure]
    split
    · exact Nat.mul_div_le points.length size.width
    · next h => exact Nat.not_lt.1 h
  exact (List.length_take ..).trans (Nat.min_eq_left hcount)

namespace Level

variable {level : Level} {settings : Settings}

/-! ## Every builder makes regular shapes -/

theorem isRegular_recoverPatch (patch : Patch) :
    (Editor.Shape.patch (level.recoverPatch patch).value).IsRegular :=
  length_controlPoints_patchOver ..

theorem isRegular_recoverFacePatch (face : Face) :
    (Editor.Shape.patch (level.recoverFacePatch face).value).IsRegular := by
  simp only [recoverFacePatch, Warned.value_bind]
  cases face.patchSize with
  | none => rfl
  | some size => exact length_controlPoints_patchOver ..

theorem isRegular_recoverDisplacement (side : Editor.Side) (displacement : Displacement) :
    (Editor.Shape.displacement side
      (level.recoverDisplacement displacement).value).IsRegular :=
  ⟨Nat.min_le_right _ _, Grid.hasSide _, Grid.hasSide _, Grid.hasSide _⟩

theorem isRegular_recoverFaceTerrain (face : Face) :
    (Editor.Shape.faceTerrain (level.recoverFaceTerrain face).value).IsRegular := by
  refine ⟨Grid.hasSide _, ?_⟩
  simp only [recoverFaceTerrain, Warned.value_bind, Warned.value_pure,
    HeightField.side_heights]
  exact Grid.hasSide (.filled _ 0)

theorem isRegular_recoverTile (tile : TerrainTile) :
    (Editor.Shape.tileTerrain (level.recoverTile tile).value).IsRegular :=
  Grid.hasSide _

theorem isRegular_surfaceBrush? {entity : Properties} {face : Face} {surface : Surface}
    {brush : Editor.Brush}
    (h : level.surfaceBrush? settings entity face surface = some brush) :
    brush.shape.IsRegular := by
  cases surface with
  | displacement index =>
    obtain ⟨displacement, -, rfl⟩ := Option.map_eq_some_iff.1 h
    rw [Editor.Brush.shape_ofShape]
    exact isRegular_recoverDisplacement _ displacement
  | patch =>
    obtain rfl := Option.some.inj h
    rw [Editor.Brush.shape_ofShape]
    exact isRegular_recoverFacePatch face
  | terrain =>
    obtain rfl := Option.some.inj h
    rw [Editor.Brush.shape_ofShape]
    exact isRegular_recoverFaceTerrain face

/-- Every brush of a special surface is regular. -/
theorem isRegular_of_mem_recoverSurfaces {entity : Properties} {number : Nat} {model : Model}
    {brush : Editor.Brush} (h : brush ∈
      (level.recoverSurfaces settings entity number model).filterMap (·.value)) :
    brush.shape.IsRegular := by
  rw [filterMap_value_recoverSurfaces, List.mem_append, List.mem_append] at h
  rcases h with (hpatch | hface) | htile
  · obtain ⟨patch, -, rfl⟩ := List.mem_map.1 hpatch
    rw [Editor.Brush.shape_ofShape]
    exact isRegular_recoverPatch patch
  · obtain ⟨face, -, hface⟩ := List.mem_filterMap.1 hface
    obtain ⟨surface, -, hsurface⟩ := Option.bind_eq_some_iff.1 hface
    exact isRegular_surfaceBrush? hsurface
  · split at htile
    · obtain ⟨tile, -, rfl⟩ := List.mem_map.1 htile
      rw [Editor.Brush.shape_ofShape]
      exact isRegular_recoverTile tile
    · exact absurd htile List.not_mem_nil

/-- Every brush of an entity is regular. -/
theorem isRegular_of_mem_ownBrushes {cursor : Nat} {entity : Properties} {brush : Editor.Brush}
    (h : brush ∈ (level.recoverEntity settings cursor entity).1.ownBrushes false) :
    brush.shape.IsRegular := by
  obtain ⟨-, warnings, hr⟩ | ⟨number, model, -, hr⟩ :=
    recoverEntity_cases level settings cursor entity
  · rw [hr] at h
    exact absurd h List.not_mem_nil
  · have hown : (level.recoverModel settings cursor entity number model).1.ownBrushes false =
        (level.recoverModel settings cursor entity number model).1.solidBrushes
          ++ (level.recoverSurfaces settings entity number model).filterMap (·.value) := rfl
    rw [hr, hown, List.mem_append] at h
    rcases h with hsolid | hsurface
    · simp only [recoverModel, Recovered.solidBrushes, List.map_map, List.mem_map] at hsolid
      obtain ⟨located, -, rfl⟩ := hsolid
      exact trivial
    · exact isRegular_of_mem_recoverSurfaces hsurface

/-! ## Every brush of a recovery -/

/-- A brush of a recovery is a brush of what is recovered of one of the entities. -/
theorem exists_of_mem_brushes_recover {entity : Editor.Entity} {brush : Editor.Brush}
    (hentity : entity ∈ (level.recover settings).entities) (hbrush : brush ∈ entity.brushes) :
    ∃ r ∈ level.recoveredInOrder settings, brush ∈ r.ownBrushes false := by
  have hmem : brush ∈ (level.recoverApart settings).entities.flatMap (·.brushes) :=
    (perm_brushes_recover settings).mem_iff.1 (List.mem_flatMap.2 ⟨entity, hentity, hbrush⟩)
  rw [entities_recoverApart, List.flatMap_append, List.mem_append, List.flatMap_map] at hmem
  rcases hmem with hown | hplaced
  · exact List.mem_flatMap.1 hown
  · obtain ⟨placed, hplaced, hbrush⟩ := List.mem_flatMap.1 hplaced
    rw [brushes_of_mem_recoverPlaced hplaced] at hbrush
    exact absurd hbrush List.not_mem_nil

/-- A brush has no more sides than are stored at the positions that it is built from. -/
theorem length_sides_recoverBuild_le (build : BrushUse × Span) :
    (level.recoverBuild settings build).value.sides.length ≤
      (build.2.read level.brushSides).length := by
  have hsides : (level.recoverBuild settings build).value.sides =
      level.sidesIn settings build.1.entity build.2 := by
    have hsolid : level.IsSolidOf settings build.1.entity (build.1.brush, build.2)
        (level.recoverBuild settings build).value :=
      isSolidOf_recoverSolid build.1.brush build.2
    rw [Editor.Brush.sides, hsolid.shape]
  rw [hsides, sidesIn, ← List.length_zipIdx (l := build.2.read level.brushSides) (i := 0)]
  exact List.length_filterMap_le ..

/-- Every brush of a recovery has the size that it declares, and the planar ones are those
of the builds, with no more sides than are stored for the build. -/
theorem regular_recover (level : Level) (settings : Settings) :
    (∀ entity ∈ (level.recover settings).entities, ∀ brush ∈ entity.brushes,
      brush.shape.IsRegular) ∧
    (((level.recover settings).entities.flatMap (·.brushes)).filter (·.isPlanar)).Perm
      (level.builds.map fun build => (level.recoverBuild settings build).value) ∧
    ∀ build ∈ level.builds, (level.recoverBuild settings build).value.sides.length ≤
      (build.2.read level.brushSides).length := by
  refine ⟨fun entity hentity brush hbrush => ?_, perm_filter_isPlanar_recover settings,
    fun build _ => length_sides_recoverBuild_le build⟩
  obtain ⟨r, hr, hbrush⟩ := exists_of_mem_brushes_recover hentity hbrush
  obtain ⟨i, hi⟩ := List.mem_iff_getElem?.1 hr
  obtain ⟨cursor, properties, -, rfl⟩ := exists_of_getElem?_recoveredInOrder hi
  exact isRegular_of_mem_ownBrushes hbrush

/-- A patch with five of its six control points. -/
def raggedPatch : Face :=
  { (default : Face) with
    flags := Face.patchKind, vertices := ⟨0, 6⟩, patchSize := some ⟨2, 3⟩ }

/-- A level whose world has a surface of every kind, with too few vertices for each. -/
def ragged : Level where
  family := .stef2
  entities := #[.insert .empty "classname" "worldspawn"]
  models := #[⟨⟨0, 1⟩, ⟨0, 3⟩, ⟨0, 0⟩⟩]
  brushes := #[⟨0, none, .stored ⟨0, 3⟩⟩]
  brushSides := #[default, { (default : BrushSide) with isBevel := true }]
  faces := #[{ (default : Face) with displacement := some 0 }, raggedPatch,
    { (default : Face) with flags := Face.terrainKind, vertices := ⟨0, 6⟩ }]
  vertices := Array.replicate 5 default
  displacements := #[⟨9, .zero, 0⟩]
  terrainTiles := #[⟨0, 0, 0, 0, 0, .replicate (9 * 9) 0, Array.size_replicate⟩]

/-- The world has a regular brush of every surface. The patch is cut to two rows, and the
planar brush has no side for the one that the compiler added. -/
theorem regular_recover_ragged :
    ∃ world ∈ (ragged.recover {}).entities, world.brushes.length = 5 ∧
      (∀ brush ∈ world.brushes, brush.shape.IsRegular) ∧
      (∃ brush ∈ world.brushes, ∃ patch, brush.shape = .patch patch ∧ patch.size = ⟨2, 2⟩) ∧
      ∃ build ∈ ragged.builds, (build.2.read ragged.brushSides).length = 2 ∧
        (ragged.recoverBuild {} build).value.sides.length ≤ 2 := by
  obtain ⟨hregular, -, hsides⟩ := regular_recover ragged {}
  have hone : 0 < (ragged.recover {}).entities.length := by decide
  have hfive : (ragged.recover {}).entities[0].brushes.length = 5 := rfl
  have hbuild : 0 < ragged.builds.length := by decide
  have hworld := List.getElem_mem hone
  refine ⟨_, hworld, hfive, hregular _ hworld, ⟨_, List.getElem_mem (by omega : 2 < _), ?_⟩,
    _, List.getElem_mem hbuild, rfl, hsides _ (List.getElem_mem hbuild)⟩
  exact ⟨(ragged.recoverFacePatch raggedPatch).value, Editor.Brush.shape_ofShape _, by decide⟩

end Level

end Brushwork
