import Mathlib
import Brushwork.Proofs.Machine.Surface
import Brushwork.Proofs.SideWarnings

/-!
# Surfaces with too few vertices

A patch and a displacement declare how many vertices they have, and the tables may hold fewer.
A patch then keeps the rows that are whole : its height is the largest one that its width leaves
points for (`Editor.Patch.HasWholeRows`), also where the declared width and height are as large as
they can be stored and their product hardly fits in a word (`Level.cutsToRows_recover`).

A displacement keeps its size. Its grids show the vertices from the first one on, row after row,
and where the table ends the vertex that is not moved (`Level.ShowsVertices`). What is warned of is
the power, if it was cut to the largest one, and the number of vertices, if there are too few
(`Level.showsVertices_recoverDisplacement`).
-/

namespace Brushwork

universe u

/-! ## Patches -/

/-- The warning is about the size of a patch. -/
def Warning.isOfPatchSize : Warning → Bool
  | shortPatch .. => true
  | missingPatchSize _ => true
  | _ => false

/-- A patch of a size over control points has rows of the declared width : as many as are declared,
or if the points are too few for that, the largest number that they are enough for. -/
structure Editor.Patch.HasWholeRows (patch : Editor.Patch) (size : PatchSize)
    (points : List Vertex) : Prop where
  width_eq : patch.size.width = size.width
  height_eq : size.width * size.height ≤ points.length → patch.size.height = size.height
  isGreatest_height : points.length < size.width * size.height →
    IsGreatest {rows | size.width * rows ≤ points.length} patch.size.height
  height_lt : points.length < size.width * size.height →
    patch.size.height < size.height ∧ 0 < size.width
  controlPoints_eq : patch.controlPoints = points.take (size.width * patch.size.height)
  length_controlPoints : patch.controlPoints.length = size.width * patch.size.height

/-- The quotient is the largest number of whole rows. -/
theorem isGreatest_div {width : Nat} (hwidth : 0 < width) (found : Nat) :
    IsGreatest {rows | width * rows ≤ found} (found / width) := by
  refine ⟨Nat.mul_div_le found width, fun rows hrows => ?_⟩
  rw [Nat.le_div_iff_mul_le hwidth, Nat.mul_comm]
  exact hrows

/-- Where there are too few points, the height is the number of rows that they fill. -/
theorem height_patchOver {size : PatchSize} {points : List Vertex} (texture : String)
    (hshort : points.length < size.width * size.height) :
    (patchOver size texture points).value.size.height = points.length / size.width :=
  if_pos hshort

theorem hasWholeRows_patchOver (size : PatchSize) (texture : String) (points : List Vertex) :
    (patchOver size texture points).value.HasWholeRows size points where
  width_eq := rfl
  height_eq hlong := if_neg (Nat.not_lt.2 hlong)
  isGreatest_height hshort := by
    rw [height_patchOver texture hshort]
    exact isGreatest_div (Nat.pos_of_lt_mul_right hshort) points.length
  height_lt hshort := by
    rw [height_patchOver texture hshort]
    exact ⟨Nat.div_lt_of_lt_mul hshort, Nat.pos_of_lt_mul_right hshort⟩
  controlPoints_eq := rfl
  length_controlPoints := by
    have hcount := Machine.count_cutSize_le size points.length
    exact (List.length_take ..).trans (Nat.min_eq_left hcount)

theorem warnings_patchOver (size : PatchSize) (texture : String) (points : List Vertex) :
    (patchOver size texture points).warnings =
      if points.length < size.width * size.height then
        [.shortPatch size (size.width * size.height) points.length] else [] := by
  simp only [patchOver, Warned.warnings_bind, Warned.warnings_warnIf, Warned.warnings_pure,
    List.append_nil, PatchSize.count]
  exact if_congr decide_eq_true_iff rfl rfl

namespace Level

variable (level : Level)

/-- The patch has the whole rows of a size over control points and the texture of a reference. One
warning is about its size if there are too few points, and none otherwise. -/
structure CutsToRows (reference : Option Nat) (size : PatchSize) (points : List Vertex)
    (made : Warned Editor.Patch) : Prop where
  hasWholeRows : made.value.HasWholeRows size points
  texture_eq : made.value.texture = orPlaceholder (level.findTexture reference) skipTexture
  sizeWarnings_eq : made.warnings.filter Warning.isOfPatchSize =
    if points.length < size.width * size.height then
      [.shortPatch size (size.width * size.height) points.length] else []

/-- The patch has no control points and the texture of a reference. One warning is about its size,
with the number of control points that are dropped. -/
structure LacksSize (reference : Option Nat) (points : List Vertex)
    (made : Warned Editor.Patch) : Prop where
  value_eq : made.value = ⟨⟨0, 0⟩, orPlaceholder (level.findTexture reference) skipTexture, []⟩
  sizeWarnings_eq : made.warnings.filter Warning.isOfPatchSize = [.missingPatchSize points.length]

variable {level}

/-- The lookup of a texture is not about sizes. -/
theorem filter_isOfPatchSize_textureNameOrSkip (reference : Option Nat) :
    (level.textureNameOrSkip reference).warnings.filter Warning.isOfPatchSize = [] := by
  unfold textureNameOrSkip
  cases level.texture? reference <;> rfl

theorem cutsToRows_patchOver (reference : Option Nat) (size : PatchSize) (points : List Vertex) :
    level.CutsToRows reference size points
      (level.textureNameOrSkip reference >>= fun texture => patchOver size texture points) where
  hasWholeRows := hasWholeRows_patchOver size _ points
  texture_eq := (level.resolves_textureNameOrSkip reference).value_eq
  sizeWarnings_eq := by
    rw [Warned.warnings_bind, List.filter_append, filter_isOfPatchSize_textureNameOrSkip,
      List.nil_append, warnings_patchOver]
    split <;> rfl

theorem cutsToRows_recoverFacePatch {face : Face} {size : PatchSize}
    (hsize : face.patchSize = some size) :
    level.CutsToRows face.texture size (level.verticesOf face) (level.recoverFacePatch face) := by
  have hmade : level.recoverFacePatch face = level.textureNameOrSkip face.texture >>=
      fun texture => patchOver size texture (level.verticesOf face) := by
    simp only [recoverFacePatch, hsize]
  rw [hmade]
  exact cutsToRows_patchOver face.texture size (level.verticesOf face)

theorem lacksSize_recoverFacePatch {face : Face} (hsize : face.patchSize = none) :
    level.LacksSize face.texture (level.verticesOf face) (level.recoverFacePatch face) := by
  have hmade : level.recoverFacePatch face = level.textureNameOrSkip face.texture >>=
      fun texture => .replacing (.missingPatchSize (level.verticesOf face).length)
        ⟨.zero, texture, []⟩ := by
    simp only [recoverFacePatch, hsize]
  rw [hmade]
  refine ⟨?_, ?_⟩
  · exact congrArg (Editor.Patch.mk .zero · [])
      (level.resolves_textureNameOrSkip face.texture).value_eq
  · rw [Warned.warnings_bind, List.filter_append, filter_isOfPatchSize_textureNameOrSkip]
    rfl

/-- Every patch is cut to the rows that there are control points for, and is warned of exactly if
that is not all of them; a face without a size gives the empty patch. A machine finds the same
patch, with no product that is too large for a word, no division by zero and no range outside the
control points. -/
theorem cutsToRows_recover (level : Level) :
    (∀ patch : Patch, level.CutsToRows (some patch.texture) patch.size
      (level.controlPointsOf patch) (level.recoverPatch patch)) ∧
    (∀ face : Face, match face.patchSize with
      | some size => level.CutsToRows face.texture size (level.verticesOf face)
          (level.recoverFacePatch face)
      | none => level.LacksSize face.texture (level.verticesOf face)
          (level.recoverFacePatch face)) ∧
    (Machine.Fits level → ∀ overflow,
      (∀ patch : Patch, Machine.SizeFits patch.size → Machine.Takes overflow 0
        (Machine.recoverPatch level patch) (level.recoverPatch patch)) ∧
      ∀ face, Machine.FaceFits face → Machine.Takes overflow 0
        (Machine.recoverFacePatch level face) (level.recoverFacePatch face)) := by
  refine ⟨fun patch => cutsToRows_patchOver .., fun face => ?_, fun fits overflow =>
    ⟨fun patch hsize => Machine.takes_recoverPatch fits hsize,
      fun face hface => Machine.takes_recoverFacePatch fits hface⟩⟩
  cases hsize : face.patchSize with
  | some size => exact cutsToRows_recoverFacePatch hsize
  | none => exact lacksSize_recoverFacePatch hsize

/-- A level with a patch of the largest width and height that can be stored, over five points. -/
def drape : Level where
  patches := #[⟨0, 0, ⟨4294967295, 4294967295⟩, ⟨0, 5⟩⟩]
  patchVertices := Array.replicate 5 default

/-- The patch declares nearly as many points as there are words, and none of its rows is kept. -/
theorem cutsToRows_recover_drape :
    let patch := drape.patches[0]
    let made := drape.recoverPatch patch
    Machine.Fits drape ∧ made.value.size = ⟨4294967295, 0⟩ ∧ made.value.controlPoints = [] ∧
      made.warnings.filter Warning.isOfPatchSize =
        [.shortPatch patch.size 18446744065119617025 5] ∧
      ∀ overflow, Machine.Takes overflow 0 (Machine.recoverPatch drape patch) made := by
  intro patch made
  have fits : Machine.Fits drape := by decide
  have hfound : (drape.controlPointsOf patch).length = 5 := by decide
  have hcount : patch.size.width * patch.size.height = 18446744065119617025 := by decide
  have hshort : (drape.controlPointsOf patch).length < patch.size.width * patch.size.height := by
    rw [hfound, hcount]
    decide
  obtain ⟨hpatches, -, hmachine⟩ := cutsToRows_recover drape
  have hmade : drape.CutsToRows (some patch.texture) patch.size (drape.controlPointsOf patch)
      made := hpatches patch
  have hwidth : made.value.size.width = 4294967295 := hmade.hasWholeRows.width_eq
  have hheight : made.value.size.height = 0 := by
    have hrows := (hmade.hasWholeRows.isGreatest_height hshort).1
    have hle : 4294967295 * made.value.size.height ≤ 5 := by rwa [← hfound]
    omega
  refine ⟨fits, ?_, ?_, ?_, fun overflow => (hmachine fits overflow).1 patch (by decide)⟩
  · exact congrArg₂ PatchSize.mk hwidth hheight
  · rw [hmade.hasWholeRows.controlPoints_eq, hheight, Nat.mul_zero, List.take_zero]
  · rw [hmade.sizeWarnings_eq, if_pos hshort, hfound, hcount]

/-! ## Displacements -/

/-- The vertex at a position of the table, or else the one that is not moved. -/
def displacementVertexAt (level : Level) (position : Nat) : DisplacementVertex :=
  (level.displacementVertices[position]?).getD ⟨⟨0, 0, 0⟩, 0, 0⟩

/-- A grid shows a part of the vertices from a first position on, row after row. -/
structure ShowsVertices {α : Type u} (level : Level) (first side : Nat)
    (part : DisplacementVertex → α) (grid : Grid α) : Prop where
  side_eq : grid.side = side
  get?_eq : ∀ row < side, ∀ col < side, grid.get? row col =
    some (part (level.displacementVertexAt (first + row * side + col)))

theorem length_displacementVerticesFrom (first count : Nat) :
    (level.displacementVerticesFrom first count).length =
      min count (level.displacementVertices.size - first) :=
  Run.length_read ⟨first, count⟩ level.displacementVertices

/-- A cell inside the square finds its vertex in the block that was read for it. -/
theorem getD_displacementVerticesFrom (first : Nat) {side row col : Nat} (hrow : row < side)
    (hcol : col < side) :
    ((level.displacementVerticesFrom first (side * side)).toArray[row * side + col]?).getD .zero =
      level.displacementVertexAt (first + row * side + col) := by
  have hposition : row * side + col < side * side := Grid.lt_of_position? (if_pos ⟨hrow, hcol⟩)
  rw [List.getElem?_toArray, displacementVerticesFrom, Run.getElem?_read, if_pos hposition,
    ← Nat.add_assoc]
  rfl

/-- A grid that is filled out of the block of a square shows its vertices. -/
theorem showsVertices_ofFn {α : Type u} (first side : Nat) (part : DisplacementVertex → α) :
    level.ShowsVertices first side part (.ofFn side fun row col =>
      part (((level.displacementVerticesFrom first
        (side * side)).toArray[row * side + col]?).getD .zero)) where
  side_eq := rfl
  get?_eq row hrow col hcol := by
    rw [Grid.get?_ofFn _ hrow hcol, getD_displacementVerticesFrom first hrow hcol]

/-- The power is warned of if it was too large, and then the number of vertices if there are too
few of them : if those that were read are fewer, there are no more. -/
theorem warnings_recoverDisplacement (displacement : Displacement) :
    let side := 2 ^ min displacement.power 4 + 1
    let found := level.displacementVertices.size - displacement.firstVertex
    (level.recoverDisplacement displacement).warnings =
      (if 4 < displacement.power then [.displacementPower displacement.power 4] else []) ++
      (if found < side * side then [.shortDisplacement (side * side) found] else []) := by
  intro side found
  have hwarnings : (level.recoverDisplacement displacement).warnings =
      (if 4 < displacement.power then [.displacementPower displacement.power 4] else []) ++
      (if min (side * side) found < side * side then
        [.shortDisplacement (side * side) (min (side * side) found)] else []) := by
    rw [← length_displacementVerticesFrom displacement.firstVertex (side * side)]
    simp only [recoverDisplacement, Warned.warnings_bind, Warned.warnings_warnIf,
      Warned.warnings_pure, List.append_nil, decide_eq_true_eq, List.size_toArray]
    rfl
  rw [hwarnings]
  by_cases hshort : found < side * side
  · rw [Nat.min_eq_right hshort.le]
  · rw [Nat.min_eq_left (Nat.not_lt.1 hshort), if_neg (Nat.lt_irrefl _), if_neg hshort]

/-- The three grids of a displacement show the vertices from its first one on, and vertices that
are not moved where there are none. The power is warned of if it was too large, and then the number
of vertices if there are too few of them. -/
theorem showsVertices_recoverDisplacement (level : Level) (displacement : Displacement) :
    let made := level.recoverDisplacement displacement
    let first := displacement.firstVertex
    let power := min displacement.power 4
    let side := 2 ^ power + 1
    let found := level.displacementVertices.size - first
    made.value.power = power ∧
      level.ShowsVertices first side (·.normal) made.value.normals ∧
      level.ShowsVertices first side (·.dist) made.value.distances ∧
      level.ShowsVertices first side (·.alpha) made.value.alphas ∧
      made.warnings =
        (if 4 < displacement.power then [.displacementPower displacement.power 4] else []) ++
        (if found < side * side then [.shortDisplacement (side * side) found] else []) ∧
      (Machine.Fits level → ∀ overflow, Machine.Takes overflow 0
        (Machine.recoverDisplacement level displacement) made) := by
  intro made first power side found
  exact ⟨rfl, showsVertices_ofFn first side _, showsVertices_ofFn first side _,
    showsVertices_ofFn first side _, warnings_recoverDisplacement displacement,
    fun fits overflow => Machine.takes_recoverDisplacement fits displacement⟩

/-- A level with a displacement of too large a power, which starts before the last two of three
vertices. -/
def drift : Level where
  displacements := #[⟨9, .zero, 1⟩]
  displacementVertices := #[⟨⟨0, 0, 1⟩, 8, 0⟩, ⟨⟨0, 0, 1⟩, 16, 32⟩, ⟨⟨0, 0, 1⟩, 24, 64⟩]

/-- The last vertex is the second one of the first row, and the one after it is not moved. -/
theorem showsVertices_recoverDisplacement_drift :
    let displacement := drift.displacements[0]
    let made := drift.recoverDisplacement displacement
    Machine.Fits drift ∧ made.value.power = 4 ∧ made.value.distances.get? 0 1 = some 24 ∧
      made.value.distances.get? 0 2 = some 0 ∧
      made.warnings = [.displacementPower 9 4, .shortDisplacement 289 2] ∧
      ∀ overflow, Machine.Takes overflow 0 (Machine.recoverDisplacement drift displacement) made := by
  intro displacement made
  have fits : Machine.Fits drift := by decide
  obtain ⟨hpower, -, hdistances, -, hwarnings, hmachine⟩ :=
    showsVertices_recoverDisplacement drift displacement
  exact ⟨fits, hpower, hdistances.get?_eq 0 (by decide) 1 (by decide),
    hdistances.get?_eq 0 (by decide) 2 (by decide), hwarnings, hmachine fits⟩

end Level

end Brushwork
