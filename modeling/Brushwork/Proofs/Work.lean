import Mathlib
import Brushwork.Recovery.Level

/-!
# The work that is counted is the work that is done

`workUnits` counts the units of work of a level before it is recovered, from the tables
alone. `units_recoverEntity` says that the recovery of an entity takes the units counted
for its model, at every position of the cursor, and `processed_recover` that the recovery
of a level takes the units counted for it, so that the progress ends at its total.
-/

namespace Brushwork.Level

variable {level : Level} {settings : Settings}

/-- The surfaces that are counted are those that are recovered. -/
theorem length_surfacesOf (model : Model) :
    (level.surfacesOf model).length = level.countSurfaces model := by
  rw [surfacesOf, countSurfaces, List.length_filterMap_eq_countP]
  simp only [Option.isSome_map]

theorem length_tilesOf (number : Nat) :
    (level.tilesOf number).length = if number = 0 then level.terrainTiles.size else 0 := by
  unfold tilesOf
  split
  · exact Array.length_toList
  · rfl

/-- A model takes one unit for each of its brushes, patches, special surfaces and tiles,
also where a surface gives no brush. -/
theorem units_recoverModel (cursor : Nat) (entity : Properties) (number : Nat)
    (model : Model) :
    (level.recoverModel settings cursor entity number model).1.units =
      level.modelUnits number model := by
  simp only [recoverModel, Recovered.units, recoverSurfaces, modelUnits, List.length_append,
    List.length_map, length_locateSides, length_surfacesOf, length_tilesOf]
  omega

/-- An entity takes the units that are counted for its model, and none without one. -/
theorem units_recoverEntity (cursor : Nat) (entity : Properties) :
    (level.recoverEntity settings cursor entity).1.units = level.entityUnits entity := by
  obtain ⟨h, warnings, hr⟩ | ⟨number, model, h, hr⟩ :=
    recoverEntity_cases level settings cursor entity
  · rw [entityUnits, h, hr]
    rfl
  · rw [entityUnits, h, hr]
    exact units_recoverModel cursor entity number model

theorem length_recoverPlaced : level.recoverPlaced.value.length = level.placedCount := by
  simp only [value_recoverPlaced, List.length_append, List.length_map, Array.length_toList,
    placedCount]

/-- The units of the entities, each with the one for itself. -/
theorem sum_units_recoverEntities (cursor : Nat) (entities : List Properties) :
    ((level.recoverEntities settings cursor entities).1.map (·.units + 1)).sum =
      entities.length + (entities.map level.entityUnits).sum := by
  have hunits : ∀ cursor entity,
      (level.recoverEntity settings cursor entity).1.units + 1 = level.entityUnits entity + 1 :=
    fun cursor entity => by rw [units_recoverEntity]
  rw [map_recoverEntities hunits, List.sum_map_add, List.map_const', List.sum_replicate,
    Nat.nsmul_eq_mul, Nat.mul_one, Nat.add_comm]

/-- The work of a level is that of its entities and its placed objects. -/
theorem workUnits_eq_sum (level : Level) (settings : Settings) :
    level.workUnits = ((level.recoverEntities settings 0 level.entities.toList).1.map
      (·.units + 1)).sum + level.placedCount := by
  rw [sum_units_recoverEntities, workUnits, ← List.sum_eq_foldr,
    Array.length_toList]

/-- The progress of a recovery is that of the work of its level. -/
theorem progress_recover (level : Level) (settings : Settings) :
    ((level.recover settings).progress, (level.recover settings).reports) =
      (Progress.start level.workUnits).advance level.workUnits := by
  have hunits : ((level.recoverEntities settings 0 level.entities.toList).1.map
      (·.units + 1)).foldr (· + ·) 0 + level.recoverPlaced.value.length = level.workUnits := by
    rw [← List.sum_eq_foldr, length_recoverPlaced, ← workUnits_eq_sum]
  simp only [recover, hunits]

/-- Recovering a level takes exactly the units of work that are counted for it, so the
progress ends at its total, and recovering an entity takes exactly those that are counted
for its model. -/
theorem processed_recover (level : Level) (settings : Settings) :
    (level.recover settings).progress.processed = level.workUnits ∧
    (level.recover settings).progress.processed = (level.recover settings).progress.total ∧
    ∀ cursor entity,
      (level.recoverEntity settings cursor entity).1.units = level.entityUnits entity := by
  have hprogress : (level.recover settings).progress =
      ((Progress.start level.workUnits).advance level.workUnits).1 :=
    congrArg Prod.fst (progress_recover level settings)
  have hprocessed : (level.recover settings).progress.processed = level.workUnits := by
    rw [hprogress, Progress.processed_advance, Progress.start, Nat.zero_add]
  have htotal : (level.recover settings).progress.total = level.workUnits := by
    rw [hprogress, Progress.total_advance, Progress.start]
  exact ⟨hprocessed, hprocessed.trans htotal.symm, units_recoverEntity⟩

end Brushwork.Level
