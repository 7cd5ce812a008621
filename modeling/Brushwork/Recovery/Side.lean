import Brushwork.Editor.Brush
import Brushwork.Level.Basic
import Brushwork.Warning

/-!
# Recovering sides

A side that became a face takes everything from the face, and its plane from the stored
side only if the face refers to none. A side without a face has no more than its plane and
its texture. A side that the compiler added, or whose face is to be ignored, is not
recovered. The sides that are recovered make up the brush.
-/

namespace Brushwork

/-- How a level is recovered. -/
structure Settings where
  /-- Move the planar brushes of every model to the world. -/
  mergeIntoWorld : Bool := false
  /-- Recover sides without their surface flags. -/
  suppressFlags : Bool := false
  /-- Give faces that only the compiler uses a texture that says so. -/
  hideWideFaces : Bool := false
  deriving DecidableEq, Repr, Inhabited

/-- The name of the table that a link on the way to a texture name is in. -/
def NameLink.table : NameLink → String
  | info => TableName.textureInfos
  | record => TableName.textureRecords
  | name => TableName.nameOffsets

/-- The warning about a broken link. -/
def BrokenLink.warning (broken : BrokenLink) : Warning :=
  .missingTexture broken.link.table broken.reference

namespace Level

variable (level : Level)

/-! ## References of sides -/

/-- The plane that a reference leads to, or the zero plane with a warning. -/
def planeOrZero (reference : Option Nat) : Warned (Plane Float32) :=
  match level.plane? reference with
  | some plane => pure plane
  | none => .replacing (.missingPlane reference) .zero

/-- The name of the texture that a reference leads to, or a placeholder with a warning. -/
def textureNameOrSkip (reference : Option Nat) : Warned String :=
  match level.texture? reference with
  | some texture => pure texture.name
  | none => .replacing (.missingTexture TableName.textures reference) skipTexture

/-- The name of a texture that is named indirectly, or a placeholder with a warning. -/
def indirectNameOrSkip (index : Nat) : Warned String :=
  match level.indirectName index with
  | .ok name => pure name
  | .error broken => .replacing broken.warning skipTexture

/-! ## Sides with a face -/

/-- The largest triangle of a face that has more than two vertices. -/
def triangleOf? (face : Face) : Option (Triangle Float) :=
  if 2 < face.vertices.count then Triangle.largest? (level.trianglesOf face) else none

/-- Three points of a face : its largest triangle, or else points of its plane, or of the
plane of the stored side, or else three zero points with a warning. -/
def pointsOf (face : Face) (sidePlane : Option Nat) : Warned (Triangle Float) :=
  match level.triangleOf? face with
  | some triangle => pure triangle
  | none =>
    match (level.plane? face.plane).or (level.plane? sidePlane) with
    | some plane => pure plane.points
    | none => .replacing .degenerateFace .zero

/-- The projection of the texture mapping that a face refers to, if it refers to one; a
reference to nothing raises a warning. -/
def projectionOf (face : Face) : Warned (Option (TextureProjection Float32)) :=
  match face.textureInfo with
  | none => pure none
  | some index =>
    match level.textureInfos[index]? with
    | some info => pure (some info.projection)
    | none => .replacing (.missingTexture TableName.textureInfos (some index)) none

/-- The material of a face, or the default one; a reference to nothing raises a warning. -/
def materialOf (face : Face) : Warned String :=
  match face.material with
  | none => pure Editor.defaultMaterial
  | some index =>
    match level.materials[index]? with
    | some material => pure material
    | none =>
      .replacing (.outOfRange TableName.materials index level.materials.size)
        Editor.defaultMaterial

/-- The texture of a face. -/
def faceTextureName (settings : Settings) (face : Face) : Warned String :=
  if settings.hideWideFaces && face.isWide then pure nullTexture
  else level.textureNameOrSkip face.texture

/-- The side that became a face, for an entity at `origin`. -/
def recoverFaceSide (settings : Settings) (face : Face) (sidePlane : Option Nat)
    (origin : Vec3 Float) : Warned Editor.Side := do
  let texture ← level.faceTextureName settings face
  let points ← level.pointsOf face sidePlane
  let plane ← level.planeOrZero (face.plane.or sidePlane)
  let projection ← level.projectionOf face
  let material ← level.materialOf face
  return {
    points, plane, texture, material
    mapping := .ofStored projection plane origin
    flags := if settings.suppressFlags then 0 else face.flags }

/-! ## Sides without a face -/

/-- The plane of a side without a face at a position among the sides of its brush : that of
a box side, if the family stores the first six so, else the one it refers to. -/
def barePlane (side : BrushSide) (index : Nat) : Warned (Plane Float32) :=
  if h : index < 6 then
    if level.family.storesBoxSides then pure (.boxSide ⟨index, h⟩ side.bound)
    else level.planeOrZero side.plane
  else level.planeOrZero side.plane

/-- The texture of a side without a face and its projection. -/
def bareTexture (side : BrushSide) :
    Warned (String × Option (TextureProjection Float32)) :=
  match side.texture with
  | none => pure (clipTexture, none)
  | some index =>
    if level.family.namesTexturesIndirectly then do
      let name ← level.indirectNameOrSkip index
      return (name, (level.textureInfos[index]?).map (·.projection))
    else do
      let name ← level.textureNameOrSkip (some index)
      return (name, (level.textures[index]?).bind (·.projection))

/-- A side without a face at a position among the sides of its brush, for an entity at
`origin`. -/
def recoverBareSide (side : BrushSide) (index : Nat) (origin : Vec3 Float) :
    Warned Editor.Side := do
  let plane ← level.barePlane side index
  let (texture, projection) ← level.bareTexture side
  return {
    points := plane.points
    plane, texture
    mapping := .ofStored projection plane origin
    flags := 0
    material := Editor.defaultMaterial }

/-! ## Brushes -/

/-- A side at a position among the sides of its brush, if it is to be recovered. -/
def recoverSide (settings : Settings) (origin : Vec3 Float) (side : BrushSide) (index : Nat) :
    Warned (Option Editor.Side) :=
  if side.isBevel then pure none
  else
    match side.face with
    | none => some <$> level.recoverBareSide side index origin
    | some reference =>
      match level.faces[reference]? with
      | some face =>
        if face.isIgnored then pure none
        else some <$> level.recoverFaceSide settings face side.plane origin
      | none => do
        Warned.warn (.outOfRange TableName.faces reference level.faces.size)
        some <$> level.recoverBareSide side index origin

/-- A brush with its stored sides, for an entity at `origin`. -/
def recoverBrush (settings : Settings) (origin : Vec3 Float) (brush : Brush)
    (sides : List BrushSide) : Warned Editor.Brush := do
  let recovered ← Warned.forEach
    (fun (side, index) => level.recoverSide settings origin side index) sides.zipIdx
  return {
    isDetail := level.isDetail brush
    isWater := level.isWater brush
    isManualVis := level.isManualVis brush
    shape := .sides (recovered.filterMap id) }

end Level

end Brushwork
