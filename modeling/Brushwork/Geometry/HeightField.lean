import Brushwork.Geometry.Vector
import Brushwork.Grid

/-!
# Height fields

The vertices of a height field are a square grid in no particular order. `HeightField.ofPositions`
finds the grid from the extent of the vertices along x and their number, and `cell?` the
row and the column of a position, if it lies close enough to one. Rows run along y and
columns along x, with the same spacing.
-/

namespace Brushwork

universe u

/-- The whole number nearest to the square root of `n`, found from `s` upwards : the first
with `n ≤ s * (s + 1)`. -/
def nearestRootFrom (n s : Nat) : Nat → Nat
  | 0 => s
  | fuel + 1 => if n ≤ s * (s + 1) then s else nearestRootFrom n (s + 1) fuel

/-- The whole number nearest to the square root of `n`. -/
def nearestRoot (n : Nat) : Nat :=
  nearestRootFrom n 0 n

/-- A square grid of positions. -/
structure HeightField (α : Type u) where
  /-- The number of rows and of columns. -/
  side : Nat
  /-- The lowest coordinates. -/
  corner : Vec2 α
  /-- The extent along x. -/
  width : α
  deriving DecidableEq, Repr

namespace HeightField

variable {α : Type u} [Scalar α]

/-- The grid that positions lie on. -/
def ofPositions (positions : List (Vec2 α)) : HeightField α :=
  let xs := positions.map (·.x)
  let ys := positions.map (·.y)
  let side := nearestRoot positions.length
  if positions.isEmpty then ⟨side, .zero, 0⟩
  else ⟨side, ⟨Scalar.minimum xs, Scalar.minimum ys⟩, Scalar.maximum xs - Scalar.minimum xs⟩

/-- The distance from one column to the next, zero for a single one. -/
def spacing (field : HeightField α) : α :=
  if 1 < field.side then field.width / Scalar.ofNat (field.side - 1) else 0

/-- How far from a cell a position may be, in cells, and still count as on it. -/
def tolerance : α :=
  Scalar.ofDecimal 1 2

/-- The coordinates of a position in cells. Without a usable spacing only the corner has
any. -/
def scaled? (field : HeightField α) (position : Vec2 α) : Option (Vec2 α) :=
  if 0 < field.spacing ∧ Scalar.isFinite field.spacing = true then
    some ((position - field.corner) / field.spacing)
  else if position.sameAs field.corner then some .zero
  else none

/-- The whole coordinates nearest to a position in cells, if they are close enough and not
negative. -/
def snap? (cell : Vec2 α) : Option (Vec2 α) :=
  let rounded := cell.map Scalar.round
  let offset := (cell - rounded).map Scalar.abs
  if offset.maxComponent ≤ tolerance ∧ 0 ≤ rounded.minComponent then some rounded else none

/-- The row and the column of the cell that a position lies on. -/
def cell? (field : HeightField α) (position : Vec2 α) : Option (Nat × Nat) :=
  ((field.scaled? position).bind snap?).bind fun rounded =>
    let row := Scalar.toPosition rounded.y
    let col := Scalar.toPosition rounded.x
    if row < field.side ∧ col < field.side then some (row, col) else none

/-- Put the height of a vertex into its cell, if it has one. -/
def place (field : HeightField α) (heights : Grid α) (vertex : Vec3 α) : Grid α :=
  match field.cell? vertex.xy with
  | some (row, col) => heights.set row col vertex.z
  | none => heights

/-- The heights of the cells : that of the last vertex on a cell, zero if there is none. -/
def heights (field : HeightField α) (vertices : List (Vec3 α)) : Grid α :=
  vertices.foldl field.place (.filled field.side 0)

/-- The vertices that lie on no cell. -/
def offGrid (field : HeightField α) (vertices : List (Vec3 α)) : List (Vec3 α) :=
  vertices.filter fun vertex => (field.cell? vertex.xy).isNone

end HeightField

end Brushwork
