import Brushwork.Editor.Entity
import Brushwork.Recovery.Patch
import Brushwork.Recovery.Terrain
import Brushwork.Recovery.Work

/-!
# Recovering entities

The brushes of an entity are those of its model : the planar brushes, then the patches, the
special surfaces of the faces and, for the world, the terrain tiles. `Recovered` keeps a
result for each of them, which is a unit of work also where no brush comes of it. An entity
without a model keeps its properties as they are; for one with a model the brushes take the
place of the property that refers to it.

What an entity gives depends on the level, the settings, the entity and the position of the
cursor over the stored sides alone.
-/

namespace Brushwork

/-- What is recovered of an entity. -/
structure Recovered where
  properties : Properties
  /-- The number of the model that the brushes belong to, if it exists. -/
  model : Option Nat
  /-- The warnings about the reference to the model. -/
  modelWarnings : List Warning
  /-- The planar brushes. -/
  solids : List (Warned Editor.Brush)
  /-- The special surfaces, with the brush that came of each. -/
  surfaces : List (Warned (Option Editor.Brush))

namespace Recovered

/-- What is recovered of an entity that has no model. -/
def withoutModel (properties : Properties) (warnings : List Warning) : Recovered :=
  ⟨properties, none, warnings, [], []⟩

/-- The warnings in the order they were raised. -/
def warnings (r : Recovered) : List Warning :=
  r.modelWarnings ++ r.solids.flatMap (·.warnings) ++ r.surfaces.flatMap (·.warnings)

/-- The units of work that were done. -/
def units (r : Recovered) : Nat :=
  r.solids.length + r.surfaces.length

/-- The planar brushes. -/
def solidBrushes (r : Recovered) : List Editor.Brush :=
  r.solids.map (·.value)

/-- The brushes of special surfaces. -/
def surfaceBrushes (r : Recovered) : List Editor.Brush :=
  r.surfaces.filterMap (·.value)

/-- Whether the planar brushes go to the world : if brushes are merged into it and they are
not there already. -/
def movesSolids (r : Recovered) (merge : Bool) : Bool :=
  merge && r.model.any (· ≠ 0)

/-- The brushes that go to the world. -/
def worldBrushes (r : Recovered) (merge : Bool) : List Editor.Brush :=
  if r.movesSolids merge then r.solidBrushes else []

/-- The brushes that stay with the entity. -/
def ownBrushes (r : Recovered) (merge : Bool) : List Editor.Brush :=
  if r.movesSolids merge then r.surfaceBrushes else r.solidBrushes ++ r.surfaceBrushes

/-- The entity with the brushes that stay with it. -/
def entity (r : Recovered) (merge : Bool) : Editor.Entity :=
  ⟨r.properties, r.ownBrushes merge⟩

end Recovered

/-- Warn of a surface that only the world should have. -/
def warnMisplaced (number : Nat) (surface : WorldSurface) : Warned Unit :=
  .warnIf (number ≠ 0) (.misplacedSurface surface number)

namespace Level

variable (level : Level) (settings : Settings)

/-- A planar brush of an entity, with its sides at the positions of a span. -/
def recoverSolid (entity : Properties) (brush : Brush) (span : Span) :
    Warned Editor.Brush := do
  let recovered ← level.recoverBrush settings (entity.origin.map widen) brush
    (span.read level.brushSides)
  return { recovered with isWater := recovered.isWater || entity.isWater }

/-- The brush of a patch. -/
def recoverPatchBrush (patch : Patch) : Warned (Option Editor.Brush) := do
  let patch ← level.recoverPatch patch
  return some (.ofShape (.patch patch))

/-- The brush of a special surface in the model with a number. A displacement that does not
exist gives none. -/
def recoverSurface (entity : Properties) (number : Nat) (face : Face) :
    Surface → Warned (Option Editor.Brush)
  | .displacement index => do
    warnMisplaced number .displacement
    match level.displacements[index]? with
    | some displacement => do
      let side ← level.recoverFaceSide settings face none (entity.origin.map widen)
      let displaced ← level.recoverDisplacement displacement
      return some (.ofShape (.displacement side displaced))
    | none =>
      .replacing (.outOfRange TableName.displacements index level.displacements.size) none
  | .patch => do
    let patch ← level.recoverFacePatch face
    return some (.ofShape (.patch patch))
  | .terrain => do
    warnMisplaced number .terrain
    let terrain ← level.recoverFaceTerrain face
    return some (.ofShape (.faceTerrain terrain))

/-- The brush of a terrain tile. -/
def recoverTileBrush (tile : TerrainTile) : Warned (Option Editor.Brush) := do
  let terrain ← level.recoverTile tile
  return some (.ofShape (.tileTerrain terrain))

/-- The special surfaces of the model with a number. -/
def recoverSurfaces (entity : Properties) (number : Nat) (model : Model) :
    List (Warned (Option Editor.Brush)) :=
  (level.patchesOf model).map level.recoverPatchBrush
    ++ (level.surfacesOf model).map
      (fun (face, surface) => level.recoverSurface settings entity number face surface)
    ++ (level.tilesOf number).map level.recoverTileBrush

/-- What is recovered of an entity with a model, and the cursor after the model's sides. -/
def recoverModel (cursor : Nat) (entity : Properties) (number : Nat) (model : Model) :
    Recovered × Nat :=
  let (located, next) := locateSides level.brushSides.size cursor (level.brushesOf model)
  ({ properties := entity.erase modelKey
     model := some number
     modelWarnings := []
     solids := located.map fun (brush, span) =>
      level.recoverSolid settings entity brush span
     surfaces := level.recoverSurfaces settings entity number model }, next)

/-- What is recovered of an entity, and the cursor after the sides of its model. -/
def recoverEntity (cursor : Nat) (entity : Properties) : Recovered × Nat :=
  match entity.modelNumber? with
  | none => (.withoutModel entity [], cursor)
  | some number =>
    match level.models[number]? with
    | none =>
      let dangling := .outOfRange TableName.models number level.models.size
      (.withoutModel entity [dangling], cursor)
    | some model => level.recoverModel settings cursor entity number model

variable {level} {entity : Properties} {number : Nat} {model : Model}

theorem modelOf?_eq_some_iff : level.modelOf? entity = some (number, model) ↔
    entity.modelNumber? = some number ∧ level.models[number]? = some model := by
  unfold modelOf?
  cases entity.modelNumber? with
  | none => simp
  | some n =>
    rw [Option.bind_some, Option.map_eq_some_iff, Option.some_inj]
    constructor
    · rintro ⟨m, hm, h⟩
      obtain ⟨rfl, rfl⟩ := Prod.mk.inj h
      exact ⟨rfl, hm⟩
    · rintro ⟨rfl, hm⟩
      exact ⟨model, hm, rfl⟩

/-- An entity with a model gives what the model gives. -/
theorem recoverEntity_of_model (cursor : Nat)
    (h : level.modelOf? entity = some (number, model)) :
    level.recoverEntity settings cursor entity =
      level.recoverModel settings cursor entity number model := by
  obtain ⟨hnumber, hmodel⟩ := modelOf?_eq_some_iff.1 h
  simp only [recoverEntity, hnumber, hmodel]

/-- An entity without a model keeps its properties and leaves the cursor where it is; one
with a model gives what the model gives. -/
theorem recoverEntity_cases (level : Level) (settings : Settings) (cursor : Nat)
    (entity : Properties) :
    (level.modelOf? entity = none ∧ ∃ warnings,
      level.recoverEntity settings cursor entity = (.withoutModel entity warnings, cursor)) ∨
    ∃ number model, level.modelOf? entity = some (number, model) ∧
      level.recoverEntity settings cursor entity =
        level.recoverModel settings cursor entity number model := by
  cases h : level.modelOf? entity with
  | some found => exact Or.inr ⟨found.1, found.2, rfl, recoverEntity_of_model settings cursor h⟩
  | none =>
    refine Or.inl ⟨rfl, ?_⟩
    unfold modelOf? at h
    unfold recoverEntity
    cases hnumber : entity.modelNumber? with
    | none => exact ⟨[], rfl⟩
    | some number =>
      rw [hnumber, Option.bind_some, Option.map_eq_none_iff] at h
      simp only [h]
      exact ⟨_, rfl⟩

end Level

end Brushwork
