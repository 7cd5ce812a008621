import Brushwork.Grid
import Brushwork.Geometry.TextureMapping
import Brushwork.Level.Relief

/-!
# Editable brushes

What an editor works on : brushes with planar sides, or with one special surface. The brush of
a special surface is never water (`Brush.isWater_ofShape`), and detail only where it is a
displacement (`Brush.isDetail_ofShape_iff`).
-/

namespace Brushwork.Editor

/-- The material of a side whose face has none. -/
def defaultMaterial : String := "wld_lightmap"

/-- The scale of the light map on every side. -/
def defaultLightmapScale : Float := Scalar.ofNat 16

/-- A planar side of a brush. -/
structure Side where
  /-- Three points `a`, `b`, `c` of the plane such that `(a - b) × (c - b)` points along its
  normal. -/
  points : Triangle Float
  plane : Plane Float32
  texture : String
  mapping : TextureMapping Float
  flags : Int32
  material : String
  lightmapScale : Float := defaultLightmapScale
  lightmapRotation : Float := 0
  deriving DecidableEq, Inhabited

/-- A curved surface. -/
structure Patch where
  size : PatchSize
  texture : String
  /-- Row after row. -/
  controlPoints : List Vertex
  deriving DecidableEq, Inhabited

/-- A height field over the vertices of a face. -/
structure FaceTerrain where
  heights : Grid Float32
  alphas : Grid Float32
  texture : String
  flags : Int32
  /-- The lowest corner, at height zero. -/
  start : Vec3 Float
  sideLength : Float
  textureShift : Vec2 Float
  textureRotation : Float
  textureScale : Vec2 Float
  deriving DecidableEq

/-- The texture of a quarter of a terrain tile. -/
structure Quarter where
  texture : String
  textureScale : Vec2 Float
  deriving DecidableEq, Inhabited

/-- A tile of terrain. -/
structure TileTerrain where
  heights : Grid Float32
  quarters : List Quarter
  origin : Vec3 Float
  hasSurface : Bool
  deriving DecidableEq

/-- The vertices of a displacement. -/
structure Displacement where
  power : Nat
  start : Vec3 Float
  normals : Grid (Vec3 Float32)
  distances : Grid Float32
  alphas : Grid Float32
  deriving DecidableEq

/-- What a brush is made of. -/
inductive Shape
  | sides (sides : List Side)
  | patch (patch : Patch)
  | faceTerrain (terrain : FaceTerrain)
  | tileTerrain (terrain : TileTerrain)
  /-- A displacement keeps the side that it was built on. -/
  | displacement (side : Side) (displacement : Displacement)
  deriving DecidableEq

/-- An editable brush. -/
@[ext]
structure Brush where
  isDetail : Bool
  isWater : Bool
  isManualVis : Bool
  shape : Shape
  deriving DecidableEq

namespace Brush

/-- The brush with a special surface. A displacement is never solid, so it is detail. -/
def ofShape (shape : Shape) : Brush where
  isDetail := match shape with
    | .displacement .. => true
    | _ => false
  isWater := false
  isManualVis := false
  shape := shape

/-- The planar sides : none for a special surface other than a displacement. -/
def sides (brush : Brush) : List Side :=
  match brush.shape with
  | .sides sides => sides
  | .displacement side _ => [side]
  | _ => []

/-- The brush is made of planar sides. -/
def isPlanar (brush : Brush) : Bool :=
  match brush.shape with
  | .sides _ => true
  | _ => false

/-! ## Brushes with a special surface -/

variable {shape : Shape}

@[simp] theorem shape_ofShape (shape : Shape) : (ofShape shape).shape = shape :=
  rfl

@[simp] theorem isWater_ofShape (shape : Shape) : (ofShape shape).isWater = false :=
  rfl

@[simp] theorem isManualVis_ofShape (shape : Shape) : (ofShape shape).isManualVis = false :=
  rfl

/-- Only the brush of a displacement is detail. -/
theorem isDetail_ofShape_iff : (ofShape shape).isDetail = true ↔
    ∃ side displacement, shape = .displacement side displacement := by
  cases shape with
  | displacement side displacement => exact iff_of_true rfl ⟨side, displacement, rfl⟩
  | _ => exact iff_of_false Bool.false_ne_true nofun

/-- The brush of a special surface is not planar. -/
theorem isPlanar_ofShape (h : ∀ sides, shape ≠ .sides sides) :
    (ofShape shape).isPlanar = false := by
  rw [isPlanar, shape_ofShape]
  cases shape with
  | sides sides => exact absurd rfl (h sides)
  | _ => rfl

end Brush

end Brushwork.Editor
