import Brushwork.Level.Face

/-!
# Curved and uneven surfaces

Records of surfaces that are neither flat nor described by a face alone : patches,
displacements and terrain tiles.
-/

namespace Brushwork

/-- A curved surface over a rectangle of control points. -/
structure Patch where
  texture : Nat
  kind : Int32
  size : PatchSize
  vertices : Run
  deriving DecidableEq, Inhabited

/-- A square of `2 ^ power + 1` vertices a side, stretched over a face with four corners. -/
structure Displacement where
  power : Nat
  start : Vec3 Float32
  firstVertex : Nat
  deriving DecidableEq, Inhabited

/-- A vertex of a displacement : how far it is moved, in which direction, and how the two
textures of the face are mixed there. -/
structure DisplacementVertex where
  normal : Vec3 Float32
  dist : Float32
  alpha : Float32
  deriving DecidableEq, Inhabited

/-- The vertex that is not moved. -/
def DisplacementVertex.zero : DisplacementVertex :=
  ⟨.zero, 0, 0⟩

/-- A tile of terrain with nine by nine heights, placed on a grid of tiles. -/
structure TerrainTile where
  flags : UInt8
  x : Int8
  y : Int8
  baseHeight : Int16
  texture : Nat
  /-- The heights row after row, in units of two. -/
  heights : Array UInt8
  size_heights : heights.size = 9 * 9

namespace TerrainTile

/-- The number of heights a side. -/
def side : Nat := 9

/-- The distance between tile positions. -/
def spacing : Nat := 64

/-- The height at a row and a column, in units of two. -/
def height (tile : TerrainTile) (row col : Nat) : UInt8 :=
  (tile.heights[row * side + col]?).getD 0

/-- Whether the tile has a surface. -/
def hasSurface (tile : TerrainTile) : Bool :=
  tile.flags &&& 0x40 ≠ 0

end TerrainTile

end Brushwork
