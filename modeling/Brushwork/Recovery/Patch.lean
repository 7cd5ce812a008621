import Brushwork.Recovery.Side

/-!
# Recovering patches and displacements

A patch with too few control points is cut to the whole rows that are there. A displacement
with too few vertices is filled up with vertices that are not moved.
-/

namespace Brushwork

/-- A patch of a size over control points, cut to the whole rows that are there. -/
def patchOver (size : PatchSize) (texture : String) (points : List Vertex) :
    Warned Editor.Patch := do
  let found := points.length
  let height := if found < size.count then found / size.width else size.height
  let cut : PatchSize := ⟨size.width, height⟩
  Warned.warnIf (found < size.count) (.shortPatch size size.count found)
  return ⟨cut, texture, points.take cut.count⟩

/-- The largest power of a displacement. -/
def maxDisplacementPower : Nat := 4

namespace Level

variable (level : Level)

/-- A patch from its own record. -/
def recoverPatch (patch : Patch) : Warned Editor.Patch := do
  let texture ← level.textureNameOrSkip (some patch.texture)
  patchOver patch.size texture (level.controlPointsOf patch)

/-- A patch from a face, whose vertices are the control points. Without a size it has
none. -/
def recoverFacePatch (face : Face) : Warned Editor.Patch := do
  let texture ← level.textureNameOrSkip face.texture
  let points := level.verticesOf face
  match face.patchSize with
  | some size => patchOver size texture points
  | none => .replacing (.missingPatchSize points.length) ⟨.zero, texture, []⟩

/-- The vertices of a displacement, with a square of `2 ^ power + 1` a side. -/
def recoverDisplacement (displacement : Displacement) : Warned Editor.Displacement := do
  let power := min displacement.power maxDisplacementPower
  let side := Nat.pow 2 power + 1
  let block := (level.displacementVerticesFrom displacement.firstVertex (side * side)).toArray
  let vertex (row col : Nat) : DisplacementVertex := (block[row * side + col]?).getD .zero
  Warned.warnIf (maxDisplacementPower < displacement.power)
    (.displacementPower displacement.power maxDisplacementPower)
  Warned.warnIf (block.size < side * side) (.shortDisplacement (side * side) block.size)
  return {
    power
    start := displacement.start.map widen
    normals := .ofFn side fun row col => (vertex row col).normal
    distances := .ofFn side fun row col => (vertex row col).dist
    alphas := .ofFn side fun row col => (vertex row col).alpha }

end Level

end Brushwork
