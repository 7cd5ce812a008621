import Brushwork.Level.Contents
import Brushwork.Level.Entity
import Brushwork.Level.Placed
import Brushwork.Level.Relief

/-!
# Levels

`Level` holds the tables of a compiled level. Its records refer to each other by position;
the functions here follow those references, and a reference to nothing reaches nothing.
-/

namespace Brushwork

/-- The tables of a compiled level. A table that the family does not have is empty. -/
structure Level where
  family : Family := .quake
  entities : Array Properties := #[]
  /-- Model 0 is the world. -/
  models : Array Model := #[]
  brushes : Array Brush := #[]
  brushSides : Array BrushSide := #[]
  planes : Array (Plane Float32) := #[]
  faces : Array Face := #[]
  vertices : Array Vertex := #[]
  indices : Array Nat := #[]
  textures : Array Texture := #[]
  /-- The names of materials. -/
  materials : Array String := #[]
  textureInfos : Array TextureInfo := #[]
  /-- Texture records : each is a position in `nameOffsets`. -/
  textureRecords : Array Nat := #[]
  /-- Positions in `nameBytes`. -/
  nameOffsets : Array Nat := #[]
  nameBytes : Array UInt8 := #[]
  displacements : Array Displacement := #[]
  displacementVertices : Array DisplacementVertex := #[]
  patches : Array Patch := #[]
  patchVertices : Array Vertex := #[]
  /-- Positions in `patches`; a negative one refers to nothing. -/
  leafPatches : Array Int := #[]
  /-- Tiles of terrain, which belong to the world. -/
  terrainTiles : Array TerrainTile := #[]
  staticProps : Array StaticProp := #[]
  staticPropModels : Array String := #[]
  staticModels : Array StaticModel := #[]
  cubemaps : Array Cubemap := #[]

/-- Consecutive elements in threes; one or two left over are dropped. -/
def triples {α : Type _} : List α → List (α × α × α)
  | a :: b :: c :: rest => (a, b, c) :: triples rest
  | _ => []

namespace Level

variable (level : Level)

/-- The brushes of a model. -/
def brushesOf (model : Model) : List Brush :=
  model.brushes.read level.brushes

/-- The faces of a model. -/
def facesOf (model : Model) : List Face :=
  model.faces.read level.faces

/-- The references to patches of a model. -/
def leafPatchesOf (model : Model) : List Int :=
  model.leafPatches.read level.leafPatches

/-- Whether patches of its kind are recovered in this family. -/
def keepsPatch (patch : Patch) : Bool :=
  !level.family.keepsOnlyCurvedPatches || patch.kind == 0

/-- The distinct positions that references to patches give, in order of first mention. -/
def patchPositions (references : List Int) : List Nat :=
  (references.filterMap Int.toNat?).eraseDups

/-- The patches of a model, each once, in order of first mention. -/
def patchesOf (model : Model) : List Patch :=
  ((patchPositions (level.leafPatchesOf model)).filterMap (level.patches[·]?)).filter
    level.keepsPatch

/-- The special surfaces of a model with their faces, in order. -/
def surfacesOf (model : Model) : List (Face × Surface) :=
  (level.facesOf model).filterMap fun face =>
    (face.surface? level.family).map fun surface => (face, surface)

/-- The tiles of terrain of the model with a number : all belong to the world. -/
def tilesOf (modelNumber : Nat) : List TerrainTile :=
  if modelNumber = 0 then level.terrainTiles.toList else []

/-- The plane that a reference leads to. -/
def plane? (reference : Option Nat) : Option (Plane Float32) :=
  reference.bind (level.planes[·]?)

/-- The texture that a reference leads to. -/
def texture? (reference : Option Nat) : Option Texture :=
  reference.bind (level.textures[·]?)

/-- The vertices of a face. -/
def verticesOf (face : Face) : List Vertex :=
  face.vertices.read level.vertices

/-- The position of a vertex given by its place after the first vertex of a face. -/
def corner? (face : Face) (index : Nat) : Option (Vec3 Float) :=
  (level.vertices[face.vertices.first + index]?).map (·.position.map widen)

/-- The triangles of a face whose corners exist. -/
def trianglesOf (face : Face) : List (Triangle Float) :=
  (triples (face.indices.read level.indices)).filterMap fun (a, b, c) => do
    let a ← level.corner? face a
    let b ← level.corner? face b
    let c ← level.corner? face c
    some ⟨a, b, c⟩

/-- The control points of a patch. -/
def controlPointsOf (patch : Patch) : List Vertex :=
  patch.vertices.read level.patchVertices

/-- Up to `count` vertices of displacements from a position on. -/
def displacementVerticesFrom (first count : Nat) : List DisplacementVertex :=
  (Run.mk first count).read level.displacementVertices

/-- Whether a brush is left out of visibility. -/
def isDetail (brush : Brush) : Bool :=
  level.family.contentsRules.detail.holds brush level.textures

/-- Whether a brush is water. -/
def isWater (brush : Brush) : Bool :=
  level.family.contentsRules.water.holds brush level.textures

/-- Whether a brush controls visibility by hand. -/
def isManualVis (brush : Brush) : Bool :=
  level.family.contentsRules.manualVis.holds brush level.textures

end Level

/-! ## Texture names -/

/-- The tables on the way from a side's texture reference to a name. -/
inductive NameLink
  /-- Texture mappings. -/
  | info
  /-- Texture records. -/
  | record
  /-- Offsets of names, and the names at them. -/
  | name
  deriving DecidableEq, Repr

/-- The first link of a chain that leads nowhere, with the reference that was followed. -/
structure BrokenLink where
  link : NameLink
  reference : Option Nat
  deriving DecidableEq, Repr

/-- Follow a texture mapping to its texture record, on to an offset and to the name there. -/
def Level.indirectName (level : Level) (index : Nat) : Except BrokenLink String :=
  match level.textureInfos[index]? with
  | none => .error ⟨.info, some index⟩
  | some info =>
    match info.record.bind (level.textureRecords[·]?) with
    | none => .error ⟨.record, info.record⟩
    | some position =>
      match (level.nameOffsets[position]?).bind (nameAt? level.nameBytes) with
      | none => .error ⟨.name, some position⟩
      | some name => .ok name

end Brushwork
