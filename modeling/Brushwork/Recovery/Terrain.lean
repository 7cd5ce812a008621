import Brushwork.Geometry.HeightField
import Brushwork.Recovery.Side

/-!
# Recovering terrain

A terrain face is a height field over its vertices. A terrain tile stands on a grid of
tiles and has one texture for its four quarters.
-/

namespace Brushwork

namespace Level

variable (level : Level)

/-- The terrain of a face. A vertex that is on no cell of the grid is dropped with a
warning. -/
def recoverFaceTerrain (face : Face) : Warned Editor.FaceTerrain := do
  let vertices := (level.verticesOf face).map (·.position)
  let field := HeightField.ofPositions (vertices.map (·.xy))
  let _ ← Warned.forEach (fun vertex => Warned.warn (.offGrid vertex)) (field.offGrid vertices)
  let texture ← level.textureNameOrSkip face.texture
  return {
    heights := field.heights vertices
    alphas := .filled field.side 0
    texture
    flags := ((level.texture? face.texture).map (·.flags)).getD 0
    start := ⟨widen field.corner.x, widen field.corner.y, 0⟩
    sideLength := widen field.width
    textureShift := .zero
    textureRotation := 0
    textureScale := .one }

/-- A tile of terrain. -/
def recoverTile (tile : TerrainTile) : Warned Editor.TileTerrain := do
  let texture ← level.textureNameOrSkip (some tile.texture)
  return {
    heights := .ofFn TerrainTile.side fun row col =>
      Scalar.ofNat (2 * (tile.height row col).toNat)
    quarters := List.replicate 4 ⟨texture, .one⟩
    origin := ⟨Binary.ofInt (tile.x.toInt * TerrainTile.spacing),
      Binary.ofInt (tile.y.toInt * TerrainTile.spacing), Binary.ofInt tile.baseHeight.toInt⟩
    hasSurface := tile.hasSurface }

end Level

end Brushwork
