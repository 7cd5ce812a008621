import Brushwork.Recovery.Patch
import Brushwork.Recovery.Terrain
import Brushwork.Proofs.Heights
import Brushwork.Proofs.Machine.Side

/-!
# Surfaces on a machine

Patches, displacements and terrain as a machine works them out. A patch that is too short is
divided into rows by its width, which is not zero because the patch is too short
(`cutHeight_eq`), and is then as long as the control points that are there. A displacement
is clamped to a power that can be shifted by, and the cells of a grid are written where the
grid has them.
-/

namespace Brushwork.Machine

variable {overflow : Overflow} {level : Level} {face : Face}

/-! ## Patches -/

/-- The number of rows of a patch over so many control points : all of them, or the whole
rows that are there. -/
def cutHeight (size : PatchSize) (expected found : Nat) : Checked Nat :=
  if found < expected then do
    let rows ← div found size.width
    return toHalf rows
  else pure size.height

/-- A patch of a size over control points, cut to the whole rows that are there. -/
def patchOver (size : PatchSize) (texture : String) (points : List Vertex) :
    Exec Editor.Patch := do
  let expected ← mul size.width size.height
  log (.warnIf (points.length < expected) (.shortPatch size expected points.length))
  let height ← cutHeight size expected points.length
  let count ← mul size.width height
  let kept ← slice points.toArray 0 count
  return ⟨⟨size.width, height⟩, texture, kept⟩

/-- A patch from its own record. -/
def recoverPatch (level : Level) (patch : Patch) : Exec Editor.Patch := do
  let texture ← log (level.textureNameOrSkip (some patch.texture))
  let points ← readRun patch.vertices level.patchVertices
  patchOver patch.size texture points

/-- A patch from a face, whose vertices are the control points. -/
def recoverFacePatch (level : Level) (face : Face) : Exec Editor.Patch := do
  let texture ← log (level.textureNameOrSkip face.texture)
  let points ← readRun face.vertices level.vertices
  match face.patchSize with
  | some size => patchOver size texture points
  | none =>
    warn (.missingPatchSize points.length)
    return ⟨.zero, texture, []⟩

/-- The size of a patch cut to the whole rows that are there. -/
def cutSize (size : PatchSize) (found : Nat) : PatchSize :=
  ⟨size.width, if found < size.count then found / size.width else size.height⟩

/-- The rows are divided by a width that is not zero, since a patch without width is not too
short, and there are no more than the patch has. -/
theorem cutHeight_eq {size : PatchSize} (hsize : SizeFits size) (found : Nat) :
    cutHeight size size.count found = pure (cutSize size found).height := by
  unfold cutHeight cutSize
  dsimp only
  split
  · next hshort =>
    have hwidth : 0 < size.width := Nat.pos_of_lt_mul_right hshort
    have hrows : found / size.width < size.height := Nat.div_lt_of_lt_mul hshort
    rw [div_eq hwidth, pure_bind, toHalf_eq (Nat.lt_trans hrows hsize.height)]
  · rfl

theorem sizeFits_cutSize {size : PatchSize} (hsize : SizeFits size) (found : Nat) :
    SizeFits (cutSize size found) where
  width := hsize.width
  height := by
    unfold cutSize
    dsimp only
    split
    · next hshort => exact Nat.lt_trans (Nat.div_lt_of_lt_mul hshort) hsize.height
    · exact hsize.height

/-- A patch is cut to no more control points than are there. -/
theorem count_cutSize_le (size : PatchSize) (found : Nat) :
    (cutSize size found).count ≤ found := by
  unfold cutSize PatchSize.count
  dsimp only
  split
  · exact Nat.mul_div_le found size.width
  · next hlong => exact Nat.not_lt.1 hlong

theorem takes_patchOver {size : PatchSize} (hsize : SizeFits size) (texture : String)
    (points : List Vertex) :
    Takes overflow 0 (patchOver size texture points)
      (Brushwork.patchOver size texture points) := by
  have hexpected : mul size.width size.height = pure size.count :=
    mul_eq (mul_lt_wordSize hsize.width hsize.height)
  have hcut := sizeFits_cutSize hsize points.length
  have hcount : mul size.width (cutSize size points.length).height =
      pure (cutSize size points.length).count :=
    mul_eq (mul_lt_wordSize hcut.width hcut.height)
  have hkept : slice points.toArray 0 (cutSize size points.length).count =
      pure (points.take (cutSize size points.length).count) := by
    rw [slice_eq (Nat.zero_le _) (count_cutSize_le size points.length)]
    simp
  exact .of_checked hexpected <| (takes_log _).andThen <|
    .of_checked (cutHeight_eq hsize points.length) <| .of_checked hcount <|
      .of_checked hkept <| takes_pure _

theorem takes_recoverPatch (fits : Fits level) {patch : Patch} (hsize : SizeFits patch.size) :
    Takes overflow 0 (recoverPatch level patch) (level.recoverPatch patch) := by
  have htable : level.patchVertices.size < wordSize := fits.size_lt (by simp [tableSizes])
  exact (takes_log _).andThen <| .of_checked (readRun_eq htable patch.vertices) <|
    takes_patchOver hsize _ _

theorem takes_recoverFacePatch (fits : Fits level) (hface : FaceFits face) :
    Takes overflow 0 (recoverFacePatch level face) (level.recoverFacePatch face) := by
  have htable : level.vertices.size < wordSize := fits.size_lt (by simp [tableSizes])
  refine (takes_log _).andThen <| .of_checked (readRun_eq htable face.vertices) ?_
  cases hsize : face.patchSize with
  | some size => exact takes_patchOver (hface.size size hsize) _ _
  | none => exact (takes_warn _).bind_pure fun _ => Editor.Patch.mk .zero _ []

/-! ## Displacements -/

/-- A vertex of a block that is a square row after row, or one that is not moved. -/
def blockVertex (block : List DisplacementVertex) (side row col : Nat) :
    Checked DisplacementVertex := do
  let start ← mul row side
  let position ← add start col
  return (block.toArray[position]?).getD .zero

/-- The vertices of a displacement. -/
def recoverDisplacement (level : Level) (displacement : Displacement) :
    Exec Editor.Displacement := do
  let power := min displacement.power maxDisplacementPower
  log (.warnIf (maxDisplacementPower < displacement.power)
    (.displacementPower displacement.power maxDisplacementPower))
  let steps ← shiftLeft 64 1 power
  let side ← add steps 1
  let expected ← mul side side
  let block ← readRun ⟨displacement.firstVertex, expected⟩ level.displacementVertices
  log (.warnIf (block.length < expected) (.shortDisplacement expected block.length))
  let normals ← gridOfFn side fun row col => do
    let vertex ← blockVertex block side row col
    return vertex.normal
  let distances ← gridOfFn side fun row col => do
    let vertex ← blockVertex block side row col
    return vertex.dist
  let alphas ← gridOfFn side fun row col => do
    let vertex ← blockVertex block side row col
    return vertex.alpha
  return { power, start := displacement.start.map widen, normals, distances, alphas }

theorem blockVertex_eq (block : List DisplacementVertex) {side row col : Nat}
    (hside : side * side < wordSize) (hrow : row < side) (hcol : col < side) :
    blockVertex block side row col = pure ((block.toArray[row * side + col]?).getD .zero) := by
  have hposition : row * side + col < side * side := Grid.lt_of_position? (if_pos ⟨hrow, hcol⟩)
  rw [blockVertex, mul_eq (by omega), pure_bind, add_eq (by omega), pure_bind]

/-- The grids of a displacement are made of the vertices of its block. -/
theorem gridOfFn_blockVertex {α : Type} (block : List DisplacementVertex) {side : Nat}
    (hside : side * side < wordSize) (f : DisplacementVertex → α) :
    (gridOfFn side fun row col => do
      let vertex ← blockVertex block side row col
      return f vertex) =
      pure (.ofFn side fun row col => f ((block.toArray[row * side + col]?).getD .zero)) := by
  refine gridOfFn_eq hside fun row hrow col hcol => ?_
  rw [blockVertex_eq block hside hrow hcol, pure_bind]

/-- The largest power is far from the width of a word. -/
theorem displacementSide_lt (power : Nat) :
    2 ^ min power maxDisplacementPower + 1 < halfSize := by
  have hsteps : 2 ^ min power maxDisplacementPower ≤ 2 ^ maxDisplacementPower :=
    Nat.pow_le_pow_right (by decide) (Nat.min_le_right _ _)
  exact Nat.lt_of_le_of_lt (Nat.succ_le_succ hsteps) (by decide)

theorem takes_recoverDisplacement (fits : Fits level) (displacement : Displacement) :
    Takes overflow 0 (recoverDisplacement level displacement)
      (level.recoverDisplacement displacement) := by
  have htable : level.displacementVertices.size < wordSize :=
    fits.size_lt (by simp [tableSizes])
  have hpower : min displacement.power maxDisplacementPower < 64 :=
    Nat.lt_of_le_of_lt (Nat.min_le_right _ _) (by decide)
  have hside := displacementSide_lt displacement.power
  have hcells := mul_lt_wordSize hside hside
  exact (takes_log _).andThen <| .of_checked (shiftLeft_one_eq hpower) <|
    .of_checked (add_eq (Nat.lt_trans hside (by decide))) <| .of_checked (mul_eq hcells) <|
    .of_checked (readRun_eq htable _) <| (takes_log _).andThen <|
    .of_checked (gridOfFn_blockVertex _ hcells _) <|
    .of_checked (gridOfFn_blockVertex _ hcells _) <|
    .of_checked (gridOfFn_blockVertex _ hcells _) <| takes_pure _

/-! ## Terrain -/

/-- The distance from one column to the next, zero for a single one. -/
def spacingOf (field : HeightField Float32) : Checked Float32 :=
  if 1 < field.side then do
    let columns ← sub field.side 1
    return field.width / Scalar.ofNat columns
  else pure 0

/-- The coordinates of a position in cells of a spacing. -/
def scaled? (field : HeightField Float32) (spacing : Float32) (position : Vec2 Float32) :
    Option (Vec2 Float32) :=
  if 0 < spacing ∧ Scalar.isFinite spacing = true then
    some ((position - field.corner) / spacing)
  else if position.sameAs field.corner then some .zero
  else none

/-- Put the height of a vertex into its cell; none if it has none. -/
def place? (field : HeightField Float32) (spacing : Float32) (heights : Grid Float32)
    (vertex : Vec3 Float32) : Checked (Option (Grid Float32)) :=
  match (scaled? field spacing vertex.xy).bind HeightField.snap? with
  | some rounded =>
    setCell heights (Scalar.toPosition rounded.y) (Scalar.toPosition rounded.x) vertex.z
  | none => pure none

/-- Put the height of a vertex into its cell, or drop it with a warning. -/
def place (field : HeightField Float32) (spacing : Float32) (heights : Grid Float32)
    (vertex : Vec3 Float32) : Exec (Grid Float32) := do
  match ← place? field spacing heights vertex with
  | some placed => return placed
  | none =>
    warn (.offGrid vertex)
    return heights

/-- The heights of the cells of a field, with a warning for every vertex on none. -/
def heightsOf (field : HeightField Float32) (vertices : List (Vec3 Float32)) :
    Exec (Grid Float32) := do
  let spacing ← spacingOf field
  let empty ← filledGrid field.side 0
  vertices.foldlM (place field spacing) empty

/-- The terrain of a face. -/
def recoverFaceTerrain (level : Level) (face : Face) : Exec Editor.FaceTerrain := do
  let vertices ← readRun face.vertices level.vertices
  let positions := vertices.map (·.position)
  let field := HeightField.ofPositions (positions.map (·.xy))
  let heights ← heightsOf field positions
  let texture ← log (level.textureNameOrSkip face.texture)
  let alphas ← filledGrid field.side 0
  return {
    heights, alphas, texture
    flags := ((level.texture? face.texture).map (·.flags)).getD 0
    start := ⟨widen field.corner.x, widen field.corner.y, 0⟩
    sideLength := widen field.width
    textureShift := .zero
    textureRotation := 0
    textureScale := .one }

/-- The height at a row and a column of a tile, in units of two. -/
def tileHeight (tile : TerrainTile) (row col : Nat) : Checked UInt8 := do
  let start ← mul row TerrainTile.side
  let position ← add start col
  entryAt tile.heights position

/-- A tile of terrain. -/
def recoverTile (level : Level) (tile : TerrainTile) : Exec Editor.TileTerrain := do
  let texture ← log (level.textureNameOrSkip (some tile.texture))
  let heights ← gridOfFn TerrainTile.side fun row col => do
    let height ← tileHeight tile row col
    return Scalar.ofNat (2 * height.toNat)
  return {
    heights
    quarters := List.replicate 4 ⟨texture, .one⟩
    origin := ⟨Binary.ofInt (tile.x.toInt * TerrainTile.spacing),
      Binary.ofInt (tile.y.toInt * TerrainTile.spacing), Binary.ofInt tile.baseHeight.toInt⟩
    hasSurface := tile.hasSurface }

/-- A height field over the vertices of a face has no more rows than vertices. -/
theorem side_ofPositions_lt {positions : List (Vec2 Float32)} {n : Nat}
    (h : positions.length < n) : (HeightField.ofPositions positions).side < n := by
  refine Nat.lt_of_le_of_lt (HeightField.side_ofPositions_le ?_) h
  exact Nat.le_mul_of_pos_right _ (Nat.succ_pos _)

theorem spacingOf_eq (field : HeightField Float32) : spacingOf field = pure field.spacing := by
  unfold spacingOf HeightField.spacing
  split
  · next hside => rw [sub_eq (Nat.le_of_lt hside), pure_bind]
  · rfl

/-- A vertex is put into its cell if it has one, and nowhere outside the grid. -/
theorem place?_eq {field : HeightField Float32} {heights : Grid Float32}
    (hside : heights.side = field.side) (hcells : field.side * field.side < wordSize)
    (vertex : Vec3 Float32) :
    place? field field.spacing heights vertex =
      pure ((field.cell? vertex.xy).map fun _ => field.place heights vertex) := by
  have hscaled : scaled? field field.spacing vertex.xy = field.scaled? vertex.xy := rfl
  unfold place? HeightField.place HeightField.cell?
  rw [hscaled]
  cases (field.scaled? vertex.xy).bind HeightField.snap? with
  | none => rfl
  | some rounded =>
    rw [← hside] at hcells ⊢
    simp only [setCell_eq hcells, Grid.set?_eq, Option.bind_some]
    split
    · rfl
    · rfl

/-- What becomes of a vertex : its height goes to its cell, or it is warned of. -/
def placed (field : HeightField Float32) (heights : Grid Float32) (vertex : Vec3 Float32) :
    Warned (Grid Float32) :=
  ⟨field.place heights vertex,
    if (field.cell? vertex.xy).isNone then [.offGrid vertex] else []⟩

theorem takes_place {field : HeightField Float32} {heights : Grid Float32}
    (hside : heights.side = field.side) (hcells : field.side * field.side < wordSize)
    (vertex : Vec3 Float32) :
    Takes overflow 0 (place field field.spacing heights vertex) (placed field heights vertex) := by
  refine .of_checked (place?_eq hside hcells vertex) ?_
  unfold placed HeightField.place
  cases field.cell? vertex.xy with
  | none => exact (takes_warn (.offGrid vertex)).bind_pure fun _ => heights
  | some cell => exact takes_pure _

/-- The vertices one after another : the heights are those of the field, and the vertices
off the grid are warned of in order. -/
theorem takes_foldlM_place {field : HeightField Float32}
    (hcells : field.side * field.side < wordSize) :
    ∀ (vertices : List (Vec3 Float32)) {heights : Grid Float32},
      heights.side = field.side →
      Takes overflow 0 (vertices.foldlM (place field field.spacing) heights)
        ⟨vertices.foldl field.place heights, (field.offGrid vertices).map .offGrid⟩
  | [], heights, _ => takes_pure heights
  | vertex :: vertices, heights, hside => by
    have hnext : (field.place heights vertex).side = field.side :=
      (HeightField.side_place field heights vertex).trans hside
    have hfirst : (⟨(vertex :: vertices).foldl field.place heights,
        (field.offGrid (vertex :: vertices)).map .offGrid⟩ : Warned (Grid Float32)) =
        placed field heights vertex >>= fun next =>
          ⟨vertices.foldl field.place next, (field.offGrid vertices).map .offGrid⟩ := by
      refine Warned.ext_parts rfl ?_
      rw [Warned.warnings_bind, placed, HeightField.offGrid, List.filter_cons]
      split <;> rfl
    rw [List.foldlM_cons, hfirst]
    exact (takes_place hside hcells vertex).andThen (takes_foldlM_place hcells vertices hnext)

theorem takes_heightsOf {field : HeightField Float32}
    (hcells : field.side * field.side < wordSize) (vertices : List (Vec3 Float32)) :
    Takes overflow 0 (heightsOf field vertices)
      ⟨field.heights vertices, (field.offGrid vertices).map .offGrid⟩ :=
  .of_checked (spacingOf_eq field) <| .of_checked (filledGrid_eq hcells 0) <|
    takes_foldlM_place hcells vertices (Grid.side_filled field.side 0)

theorem takes_recoverFaceTerrain (fits : Fits level) (hface : FaceFits face) :
    Takes overflow 0 (recoverFaceTerrain level face) (level.recoverFaceTerrain face) := by
  have htable : level.vertices.size < wordSize := fits.size_lt (by simp [tableSizes])
  have hlength : (((level.verticesOf face).map (·.position)).map (·.xy)).length < halfSize := by
    rw [List.length_map, List.length_map]
    exact Nat.lt_of_le_of_lt (length_read_le face.vertices level.vertices) hface.count
  have hside := side_ofPositions_lt hlength
  have hcells := mul_lt_wordSize hside hside
  unfold recoverFaceTerrain
  refine .of_checked (readRun_eq htable face.vertices) ?_
  refine (takes_heightsOf hcells _).andThen_of_warnings ?_ ?_
  · rw [Warned.warnings_forEach]
    exact List.map_eq_flatMap.symm
  · exact (takes_log _).andThen <| .of_checked (filledGrid_eq hcells 0) <| takes_pure _

theorem tileHeight_eq (tile : TerrainTile) {row col : Nat} (hrow : row < TerrainTile.side)
    (hcol : col < TerrainTile.side) :
    tileHeight tile row col = pure (tile.height row col) := by
  have hposition : row * TerrainTile.side + col < tile.heights.size :=
    tile.size_heights ▸ Grid.lt_of_position? (if_pos ⟨hrow, hcol⟩)
  have hword : row * TerrainTile.side + col < wordSize :=
    Nat.lt_trans hposition (by rw [tile.size_heights]; decide)
  have hget := Array.getElem?_eq_getElem hposition
  rw [tileHeight, mul_eq (by omega), pure_bind, add_eq hword, pure_bind, entryAt_eq hget,
    TerrainTile.height, hget, Option.getD_some]

theorem takes_recoverTile (level : Level) (tile : TerrainTile) :
    Takes overflow 0 (recoverTile level tile) (level.recoverTile tile) := by
  have hgrid : (gridOfFn TerrainTile.side fun row col => do
      let height ← tileHeight tile row col
      return Scalar.ofNat (2 * height.toNat)) =
      pure (.ofFn TerrainTile.side fun row col =>
        Scalar.ofNat (2 * (tile.height row col).toNat) : Grid Float32) := by
    refine gridOfFn_eq (by decide) fun row hrow col hcol => ?_
    rw [tileHeight_eq tile hrow hcol, pure_bind]
  exact (takes_log _).andThen <| .of_checked hgrid <| takes_pure _

end Brushwork.Machine
