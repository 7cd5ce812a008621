import Brushwork.Level.Basic

/-!
# Counting work

The units of work that recovering a level takes, counted before it starts : one for every
entity and every placed object, and one for every brush, patch, special surface and terrain
tile of every model that an entity refers to.
-/

namespace Brushwork

namespace Level

variable (level : Level)

/-- The model that an entity's brushes belong to, with its number, if it exists. -/
def modelOf? (entity : Properties) : Option (Nat × Model) :=
  entity.modelNumber?.bind fun number =>
    (level.models[number]?).map fun model => (number, model)

/-- The faces of a model that are special surfaces. -/
def countSurfaces (model : Model) : Nat :=
  (level.facesOf model).countP fun face => (face.surface? level.family).isSome

/-- The units of work of the model with a number. -/
def modelUnits (number : Nat) (model : Model) : Nat :=
  (level.brushesOf model).length + (level.patchesOf model).length + level.countSurfaces model
    + if number = 0 then level.terrainTiles.size else 0

/-- The units of work of an entity's model. -/
def entityUnits (entity : Properties) : Nat :=
  match level.modelOf? entity with
  | some (number, model) => level.modelUnits number model
  | none => 0

/-- The number of objects placed without a model of their own. -/
def placedCount : Nat :=
  level.staticProps.size + level.staticModels.size + level.cubemaps.size

/-- The units of work that recovering the level takes. -/
def workUnits : Nat :=
  level.entities.size + (level.entities.toList.map level.entityUnits).foldr (· + ·) 0
    + level.placedCount

end Level

end Brushwork
