import Brushwork.Progress
import Brushwork.Recovery.Entity

/-!
# Recovering a level

The entities of a level are recovered in order, with one cursor over the stored sides going
through all of them. Placed objects follow as entities of their own. If brushes are merged
into the world, the first entity that holds it receives the planar brushes of the others
after its own.
-/

namespace Brushwork

/-- A level recovered. -/
structure Recovery where
  entities : List Editor.Entity
  warnings : List Warning
  /-- How much of the work is done at the end. -/
  progress : Progress
  /-- The fractions of the work that were reported on the way. -/
  reports : List Fraction

namespace Level

variable (level : Level) (settings : Settings)

/-- What is recovered of entities in order, and the cursor after the last. -/
def recoverEntities : Nat → List Properties → List Recovered × Nat
  | cursor, [] => ([], cursor)
  | cursor, entity :: entities =>
    let (recovered, next) := level.recoverEntity settings cursor entity
    let (others, last) := recoverEntities next entities
    (recovered :: others, last)

/-- The position of the first entity that holds the world. -/
def worldIndex? : Option Nat :=
  level.entities.toList.findIdx? Properties.isWorld

/-- Whether brushes are merged into the world : only if there is one. -/
def merges : Bool :=
  settings.mergeIntoWorld && level.worldIndex?.isSome

/-- Add brushes to the entity that holds the world, after its own. -/
def addToWorld (entities : List Editor.Entity) (brushes : List Editor.Brush) :
    List Editor.Entity :=
  match level.worldIndex? with
  | some index =>
    entities.modify index fun world => { world with brushes := world.brushes ++ brushes }
  | none => entities

/-- The entities of what is recovered, with the brushes that go to the world there. -/
def assemble (recovered : List Recovered) : List Editor.Entity :=
  let merge := level.merges settings
  level.addToWorld (recovered.map (·.entity merge)) (recovered.flatMap (·.worldBrushes merge))

/-- The entity of a placed prop; a model that is not in the dictionary raises a warning. -/
def recoverProp (prop : StaticProp) : Warned Editor.Entity := do
  let known := level.staticPropModels.size
  Warned.warnIf (known ≤ prop.model) (.outOfRange TableName.staticPropModels prop.model known)
  return prop.toEntity level.staticPropModels

/-- The entities of the placed objects. -/
def recoverPlaced : Warned (List Editor.Entity) := do
  let props ← Warned.forEach level.recoverProp level.staticProps.toList
  let models := level.staticModels.toList.map StaticModel.toEntity
  let cubemaps := level.cubemaps.toList.map Cubemap.toEntity
  return props ++ models ++ cubemaps

/-- The editable entities of the level. Every entity is a unit of work after those of its
model, and so is every placed object. -/
def recover : Recovery :=
  let recovered := (level.recoverEntities settings 0 level.entities.toList).1
  let placed := level.recoverPlaced
  let units := (recovered.map (·.units + 1)).foldr (· + ·) 0 + placed.value.length
  let (progress, reports) := (Progress.start level.workUnits).advance units
  { entities := level.assemble settings recovered ++ placed.value
    warnings := recovered.flatMap (·.warnings) ++ placed.warnings
    progress, reports }

variable {level settings}

/-- Warnings apart, every placed object is the entity of its own record. -/
theorem value_recoverPlaced : level.recoverPlaced.value =
    level.staticProps.toList.map (fun prop => prop.toEntity level.staticPropModels)
      ++ level.staticModels.toList.map StaticModel.toEntity
      ++ level.cubemaps.toList.map Cubemap.toEntity := by
  simp only [recoverPlaced, recoverProp, Warned.value_bind, Warned.value_pure,
    Warned.value_forEach]

/-- What does not depend on the cursor is read off the entities one by one. -/
theorem map_recoverEntities {α : Type _} {f : Recovered → α} {g : Properties → α}
    (h : ∀ cursor entity, f (level.recoverEntity settings cursor entity).1 = g entity) :
    ∀ (cursor : Nat) (entities : List Properties),
      (level.recoverEntities settings cursor entities).1.map f = entities.map g
  | _, [] => rfl
  | cursor, entity :: entities => by
    rw [List.map_cons, ← h cursor entity,
      ← map_recoverEntities h (level.recoverEntity settings cursor entity).2 entities]
    rfl

/-- An entity is recovered at the cursor after those before it. -/
theorem getElem?_recoverEntities :
    ∀ (cursor : Nat) (entities : List Properties) (i : Nat),
      (level.recoverEntities settings cursor entities).1[i]? =
        (entities[i]?).map fun entity => (level.recoverEntity settings
          (level.recoverEntities settings cursor (entities.take i)).2 entity).1
  | _, [], _ => rfl
  | _, _ :: _, 0 => rfl
  | cursor, entity :: entities, i + 1 => by
    rw [List.getElem?_cons_succ, List.take_succ_cons]
    exact getElem?_recoverEntities (level.recoverEntity settings cursor entity).2 entities i

theorem length_recoverEntities :
    ∀ (cursor : Nat) (entities : List Properties),
      (level.recoverEntities settings cursor entities).1.length = entities.length
  | _, [] => rfl
  | cursor, entity :: entities => congrArg (· + 1)
    (length_recoverEntities (level.recoverEntity settings cursor entity).2 entities)

end Level

end Brushwork
