import Brushwork.Geometry.Vector
import Brushwork.Level.Family
import Brushwork.Level.Flags
import Brushwork.Table

/-!
# Faces

A face is a surface that is drawn : a flat polygon, or a surface of another kind that
`Face.surface?` tells apart.
-/

namespace Brushwork

/-- A vertex with its texture coordinates. -/
structure Vertex where
  position : Vec3 Float32
  texCoord : Vec2 Float32
  deriving DecidableEq, Inhabited

/-- The size of a rectangle of control points. -/
structure PatchSize where
  width : Nat
  height : Nat
  deriving DecidableEq, Repr, Inhabited

namespace PatchSize

/-- The size with no control points. -/
def zero : PatchSize :=
  ⟨0, 0⟩

/-- The number of control points. -/
def count (size : PatchSize) : Nat :=
  size.width * size.height

end PatchSize

/-- A surface that is drawn. -/
structure Face where
  plane : Option Nat
  texture : Option Nat
  material : Option Nat
  textureInfo : Option Nat
  vertices : Run
  /-- Corners of triangles, counted from the first vertex. -/
  indices : Run
  /-- The size of the rectangle of control points, for a patch. -/
  patchSize : Option PatchSize
  displacement : Option Nat
  /-- Surface flags, or the kind of surface in some families. -/
  flags : Int32
  deriving DecidableEq, Inhabited

/-- The kinds of face that are not a flat polygon. -/
inductive Surface
  /-- A polygon displaced by the heights of a displacement record. -/
  | displacement (index : Nat)
  /-- A curved surface over the face's vertices as control points. -/
  | patch
  /-- A height field over the face's vertices. -/
  | terrain
  deriving DecidableEq, Repr

namespace Face

/-- The kind of surface stored in the flags of a patch. -/
def patchKind : Int32 := 2

/-- The kind of surface stored in the flags of a terrain. -/
def terrainKind : Int32 := 5

/-- The face never was a side of a brush. -/
def isIgnored (face : Face) : Bool :=
  hasBit face.flags 8

/-- The face is one that only the compiler uses. -/
def isWide (face : Face) : Bool :=
  hasBit face.flags 9

/-- The special surface a face describes. A displacement is one whatever the flags are. -/
def surface? (face : Face) (family : Family) : Option Surface :=
  match face.displacement with
  | some index => some (.displacement index)
  | none =>
    if face.flags == patchKind then some .patch
    else if face.flags == terrainKind && family.hasFaceTerrain then some .terrain
    else none

end Face

end Brushwork
