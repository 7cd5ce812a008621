import Brushwork.Proofs.StoredSides

/-!
# Where brushes, sides and warnings come from

Every brush of a recovery comes of one record of the level : a stored brush with located
sides, a patch, a special surface of a face or a terrain tile. An `Origin` is such a record,
and `recoverOrigin` what comes of it. Which origins a level has, and which entity their
brushes end with (`brushOriginsAt`), is settled by the tables that refer to each other and by
whether brushes are merged, before anything is recovered. So two recoveries with the same
origins are compared origin by origin : `brushesAt_recover` says that their brushes are what
comes of their origins, `warnings_recover` that their warnings are those of the origins in
order and then those of the placed objects.

An origin is recovered in steps, one for every side that may come of it (`Step`), and what
is not a side is the same whatever the settings are (`sides_recoverOrigin`,
`warnings_recoverOrigin`).
-/

namespace Brushwork

/-- What a brush of an entity is recovered from. -/
inductive Origin
  /-- A stored brush, with the positions of its sides. -/
  | solid (build : BrushUse × Span)
  | patch (patch : Patch)
  /-- A special surface of a face, in the model with a number. -/
  | surface (entity : Properties) (number : Nat) (face : Face) (surface : Surface)
  | tile (tile : TerrainTile)
  /-- The number of a model that does not exist, of which no brush comes. -/
  | missingModel (number : Nat)

namespace Origin

/-- The positions of the stored sides that are read. -/
def positions : Origin → List Nat
  | solid build => build.2.positions
  | _ => []

/-- The brush goes to the world, if brushes are merged into it. -/
def moves (merge : Bool) : Origin → Bool
  | solid build => merge && build.1.entity.modelNumber?.any (· ≠ 0)
  | _ => false

end Origin

namespace Level

variable (level : Level) (settings : Settings)

/-- What comes of an origin : a brush, or none if what it refers to does not exist. -/
def recoverOrigin : Origin → Warned (Option Editor.Brush)
  | .solid build => some <$> level.recoverBuild settings build
  | .patch patch => level.recoverPatchBrush patch
  | .surface entity number face surface =>
    level.recoverSurface settings entity number face surface
  | .tile tile => level.recoverTileBrush tile
  | .missingModel number =>
    .replacing (.outOfRange TableName.models number level.models.size) none

/-- A brush comes of the origin. -/
def gives : Origin → Bool
  | .surface _ _ _ (.displacement index) => index < level.displacements.size
  | .missingModel _ => false
  | _ => true

/-- The origins of an entity apart from its stored brushes. -/
def surfaceOrigins (entity : Properties) : List Origin :=
  match level.modelOf? entity with
  | some (number, model) =>
    (level.patchesOf model).map .patch
      ++ (level.surfacesOf model).map
        (fun (face, surface) => .surface entity number face surface)
      ++ (level.tilesOf number).map .tile
  | none => entity.modelNumber?.toList.map .missingModel

/-- The origins of an entity, with the cursor at a position. -/
def originsBy (cursor : Nat) (entity : Properties) : List Origin :=
  (level.buildsOf cursor [entity]).map .solid ++ level.surfaceOrigins entity

/-- The position of the cursor before the `i`-th entity. -/
def cursorBefore (i : Nat) : Nat :=
  (locateSides level.brushSides.size 0
    ((level.usesOf (level.entities.toList.take i)).map (·.brush))).2

/-- The origins of the `i`-th entity. -/
def originsAt (i : Nat) : List Origin :=
  (level.entities[i]?).toList.flatMap (level.originsBy (level.cursorBefore i))

/-- The origins of all entities, in order. -/
def origins : List Origin :=
  (List.range level.entities.size).flatMap level.originsAt

/-- The origins of the brushes that the `i`-th entity ends with : those of its own that stay
with it, and for the world those that move there. -/
def brushOriginsAt (i : Nat) : List Origin :=
  let moves := Origin.moves (level.merges settings)
  ((level.originsAt i).filter (!moves ·) ++
    if level.worldIndex? = some i then level.origins.filter moves else []).filter level.gives

/-- The properties that an entity is recovered with. -/
def keptProperties (entity : Properties) : Properties :=
  if (level.modelOf? entity).isSome then entity.erase modelKey else entity

variable {level settings}

/-! ## The origins of an entity -/

theorem entity_of_mem_buildsOf {cursor : Nat} {entity : Properties} {build : BrushUse × Span}
    (h : build ∈ level.buildsOf cursor [entity]) : build.1.entity = entity := by
  have huse : build.1 ∈ level.usesBy entity := by
    have := (List.of_mem_zip h).1
    rwa [usesOf, List.flatMap_singleton] at this
  unfold usesBy at huse
  cases hmodel : level.modelOf? entity with
  | none => simp [hmodel] at huse
  | some found =>
    simp only [hmodel, List.mem_map] at huse
    obtain ⟨_, -, huse⟩ := huse
    rw [← huse]

theorem filter_moves_surfaceOrigins (entity : Properties) (merge : Bool) :
    (level.surfaceOrigins entity).filter (·.moves merge) = [] ∧
      (level.surfaceOrigins entity).filter (!·.moves merge) = level.surfaceOrigins entity := by
  have hstay : ∀ origin ∈ level.surfaceOrigins entity, origin.moves merge = false := by
    intro origin horigin
    unfold surfaceOrigins at horigin
    split at horigin
    · simp only [List.mem_append, List.mem_map] at horigin
      rcases horigin with (⟨_, -, rfl⟩ | ⟨_, -, rfl⟩) | ⟨_, -, rfl⟩ <;> rfl
    · obtain ⟨_, -, rfl⟩ := List.mem_map.1 horigin
      rfl
  have hapart := filter_append_of_apart (p := Origin.moves merge)
    (fun origin (horigin : origin ∈ []) => absurd horigin List.not_mem_nil) hstay
  exact hapart

theorem filter_moves_solids (cursor : Nat) (entity : Properties) (merge : Bool) :
    let solids := (level.buildsOf cursor [entity]).map Origin.solid
    let goes := merge && entity.modelNumber?.any (· ≠ 0)
    solids.filter (·.moves merge) = (if goes then solids else []) ∧
      solids.filter (!·.moves merge) = if goes then [] else solids := by
  intro solids goes
  have hmoves : ∀ origin ∈ solids, origin.moves merge = goes := by
    intro origin horigin
    obtain ⟨build, hbuild, rfl⟩ := List.mem_map.1 horigin
    rw [Origin.moves, entity_of_mem_buildsOf hbuild]
  rw [List.filter_congr hmoves, List.filter_congr fun o ho => congrArg (!·) (hmoves o ho)]
  cases goes <;> simp

theorem value_recoverOrigin_solid (build : BrushUse × Span) :
    (level.recoverOrigin settings (.solid build)).value =
      some (level.recoverBuild settings build).value :=
  rfl

theorem isSome_recoverOrigin (settings : Settings) (origin : Origin) :
    (level.recoverOrigin settings origin).value.isSome = level.gives origin := by
  cases origin with
  | surface entity number face surface =>
    rw [recoverOrigin, value_recoverSurface]
    cases surface with
    | displacement index =>
      rw [surfaceBrush?, Option.isSome_map, gives]
      grind
    | patch => rfl
    | terrain => rfl
  | _ => rfl

/-- What gives no brush can be left out. -/
theorem filterMap_filter_gives (origins : List Origin) :
    (origins.filter level.gives).filterMap
        (fun origin => (level.recoverOrigin settings origin).value) =
      origins.filterMap fun origin => (level.recoverOrigin settings origin).value := by
  rw [List.filterMap_filter]
  congr 1
  funext origin
  rw [← isSome_recoverOrigin settings]
  cases (level.recoverOrigin settings origin).value <;> rfl

/-- An entity without a model has no origin but the reference to it, if there is one. -/
theorem recoverEntity_of_no_model (settings : Settings) (cursor : Nat) {entity : Properties}
    (h : level.modelOf? entity = none) :
    level.buildsOf cursor [entity] = [] ∧
    (level.recoverEntity settings cursor entity).1 = .withoutModel entity
      ((level.surfaceOrigins entity).flatMap fun origin =>
        (level.recoverOrigin settings origin).warnings) ∧
    ∀ origin ∈ level.surfaceOrigins entity,
      (level.recoverOrigin settings origin).value = none := by
  have huses : level.usesOf [entity] = [] := by
    simp only [usesOf, usesBy, List.flatMap_singleton, h]
  simp only [buildsOf, huses, surfaceOrigins, h]
  unfold modelOf? at h
  unfold recoverEntity
  cases hnumber : entity.modelNumber? with
  | none => exact ⟨rfl, rfl, fun _ horigin => absurd horigin List.not_mem_nil⟩
  | some number =>
    rw [hnumber, Option.bind_some, Option.map_eq_none_iff] at h
    simp only [h]
    refine ⟨rfl, rfl, fun origin horigin => ?_⟩
    obtain rfl := List.mem_singleton.1 horigin
    rfl

/-- The special surfaces of an entity with a model are what comes of its origins. -/
theorem surfaces_recoverModel (cursor : Nat) {entity : Properties} {number : Nat}
    {model : Model} (h : level.modelOf? entity = some (number, model)) :
    (level.recoverModel settings cursor entity number model).1.surfaces =
      (level.surfaceOrigins entity).map (level.recoverOrigin settings) := by
  simp only [recoverModel, surfaceOrigins, h, recoverSurfaces, List.map_append, List.map_map]
  rfl

/-- The planar brushes of an entity with a model are what comes of its stored brushes. -/
theorem solids_recoverModel (cursor : Nat) {entity : Properties} {number : Nat}
    {model : Model} (h : level.modelOf? entity = some (number, model)) :
    (level.recoverModel settings cursor entity number model).1.solids =
      (level.buildsOf cursor [entity]).map (level.recoverBuild settings) := by
  rw [← solids_recoverEntity, recoverEntity_of_model settings cursor h]

/-- The warnings of an entity are those of its origins, in order. -/
theorem warnings_recoverEntity (cursor : Nat) (entity : Properties) :
    (level.recoverEntity settings cursor entity).1.warnings =
      (level.originsBy cursor entity).flatMap fun origin =>
        (level.recoverOrigin settings origin).warnings := by
  cases h : level.modelOf? entity with
  | none =>
    obtain ⟨hbuilds, hrecovered, -⟩ := recoverEntity_of_no_model settings cursor h
    rw [hrecovered, originsBy, hbuilds]
    exact (List.append_nil _).trans (List.append_nil _)
  | some found =>
    obtain ⟨number, model⟩ := found
    have hmodelWarnings :
        (level.recoverModel settings cursor entity number model).1.modelWarnings = [] := rfl
    rw [recoverEntity_of_model settings cursor h, Recovered.warnings, hmodelWarnings,
      solids_recoverModel cursor h, surfaces_recoverModel cursor h, List.nil_append, originsBy,
      List.flatMap_append, List.flatMap_map, List.flatMap_map, List.flatMap_map]
    simp only [recoverOrigin, Warned.warnings_map]

/-- The brushes of an entity are what comes of its origins, those that go to the world
apart. -/
theorem brushes_recoverEntity (level : Level) (settings : Settings) (cursor : Nat)
    (entity : Properties) (merge : Bool) :
    let value := fun origin => (level.recoverOrigin settings origin).value
    (level.recoverEntity settings cursor entity).1.worldBrushes merge =
        ((level.originsBy cursor entity).filter (·.moves merge)).filterMap value ∧
      (level.recoverEntity settings cursor entity).1.ownBrushes merge =
        ((level.originsBy cursor entity).filter (!·.moves merge)).filterMap value := by
  intro value
  obtain ⟨hgone, hstayed⟩ := level.filter_moves_surfaceOrigins entity merge
  obtain ⟨hsolidsGone, hsolidsStayed⟩ := level.filter_moves_solids cursor entity merge
  simp only [originsBy, List.filter_append, hgone, hstayed, hsolidsGone, hsolidsStayed,
    List.append_nil, List.filterMap_append]
  cases h : level.modelOf? entity with
  | none =>
    obtain ⟨hbuilds, hrecovered, hnone⟩ :=
      recoverEntity_of_no_model settings cursor h
    have hsurfaces : (level.surfaceOrigins entity).filterMap value = [] :=
      List.filterMap_eq_nil_iff.2 hnone
    rw [hrecovered, hbuilds, hsurfaces]
    simp [Recovered.withoutModel, Recovered.worldBrushes, Recovered.ownBrushes,
      Recovered.solidBrushes, Recovered.surfaceBrushes]
  | some found =>
    obtain ⟨number, model⟩ := found
    have hsolids : (level.recoverModel settings cursor entity number model).1.solidBrushes =
        ((level.buildsOf cursor [entity]).map Origin.solid).filterMap value := by
      rw [Recovered.solidBrushes, solids_recoverModel cursor h, List.map_map,
        List.filterMap_map, ← List.filterMap_eq_map]
      rfl
    have hsurfaces : (level.recoverModel settings cursor entity number model).1.surfaceBrushes =
        (level.surfaceOrigins entity).filterMap value := by
      rw [Recovered.surfaceBrushes, surfaces_recoverModel cursor h, List.filterMap_map]
      rfl
    have hmoves : (level.recoverModel settings cursor entity number model).1.movesSolids merge =
        (merge && entity.modelNumber?.any (· ≠ 0)) := by
      rw [(modelOf?_eq_some_iff.1 h).1]
      rfl
    rw [recoverEntity_of_model settings cursor h, Recovered.worldBrushes, Recovered.ownBrushes,
      hmoves, hsolids, hsurfaces]
    split <;> simp

/-! ## The origins of a level -/

theorem snd_recoverEntities (settings : Settings) :
    ∀ (cursor : Nat) (entities : List Properties),
      (level.recoverEntities settings cursor entities).2 =
        (locateSides level.brushSides.size cursor
          ((level.usesOf entities).map (·.brush))).2
  | _, [] => rfl
  | cursor, entity :: entities => by
    have ih := snd_recoverEntities settings (level.recoverEntity settings cursor entity).2 entities
    have huses : level.usesOf (entity :: entities) =
        level.usesBy entity ++ level.usesOf entities := List.flatMap_cons
    rw [huses, List.map_append, locateSides_append, ← snd_recoverEntity settings, ← ih]
    rfl

theorem getElem?_recoveredInOrder (settings : Settings) (i : Nat) :
    (level.recoveredInOrder settings)[i]? = (level.entities[i]?).map fun entity =>
      (level.recoverEntity settings (level.cursorBefore i) entity).1 := by
  rw [recoveredInOrder, getElem?_recoverEntities, Array.getElem?_toList, snd_recoverEntities]
  rfl

/-- What is read off every entity that is recovered is read off the origins of each. -/
theorem flatMap_recoveredInOrder {α : Type*} (f : Recovered → List α)
    (g : List Origin → List α) (hg : g [] = [])
    (h : ∀ cursor entity,
      f (level.recoverEntity settings cursor entity).1 = g (level.originsBy cursor entity)) :
    (level.recoveredInOrder settings).flatMap f =
      (List.range level.entities.size).flatMap fun i => g (level.originsAt i) := by
  rw [flatMap_eq_flatMap_range f, length_recoveredInOrder]
  refine List.flatMap_congr fun i _ => ?_
  rw [getElem?_recoveredInOrder, originsAt]
  cases level.entities[i]? with
  | none => exact hg.symm
  | some entity =>
    simpa using h (level.cursorBefore i) entity

/-- The warnings of a level are those of its origins, in order, and then those of its placed
objects. -/
theorem warnings_recover (level : Level) (settings : Settings) :
    (level.recover settings).warnings =
      level.origins.flatMap (fun origin => (level.recoverOrigin settings origin).warnings)
        ++ level.recoverPlaced.warnings := by
  have hwarnings : (level.recover settings).warnings =
      (level.recoveredInOrder settings).flatMap (·.warnings)
        ++ level.recoverPlaced.warnings := rfl
  rw [hwarnings, origins, List.flatMap_assoc,
    flatMap_recoveredInOrder _ _ rfl warnings_recoverEntity]

/-- The brushes that go to the world are what comes of the origins that move there. -/
theorem flatMap_worldBrushes (settings : Settings) (merge : Bool) :
    (level.recoveredInOrder settings).flatMap (·.worldBrushes merge) =
      (level.origins.filter (·.moves merge)).filterMap
        fun origin => (level.recoverOrigin settings origin).value := by
  have hentity := fun cursor entity =>
    (brushes_recoverEntity level settings cursor entity merge).1
  rw [origins, List.filter_flatMap, List.filterMap_flatMap]
  exact flatMap_recoveredInOrder (·.worldBrushes merge)
    (fun origins => (origins.filter (·.moves merge)).filterMap
      fun origin => (level.recoverOrigin settings origin).value) rfl hentity

/-- The brushes that the `i`-th entity ends with are what comes of their origins. -/
theorem brushesAt_recover (level : Level) (settings : Settings) (i : Nat) :
    (level.recover settings).brushesAt i = (level.brushOriginsAt settings i).filterMap
      fun origin => (level.recoverOrigin settings origin).value := by
  have hlength : ((level.recoveredInOrder settings).map
      (·.entity (level.merges settings))).length = level.entities.size := by
    rw [List.length_map, length_recoveredInOrder]
  rw [Recovery.brushesAt, entities_recover, assemble, flatMap_worldBrushes, brushOriginsAt,
    filterMap_filter_gives, List.filterMap_append, originsAt]
  cases hentity : level.entities[i]? with
  | some entity =>
    have hi := (Array.getElem?_eq_some_iff.1 hentity).1
    rw [List.getElem?_append_left (by rwa [length_addToWorld, hlength]), getElem?_addToWorld,
      List.getElem?_map, getElem?_recoveredInOrder, hentity]
    have hown := (brushes_recoverEntity level settings (level.cursorBefore i) entity
      (level.merges settings)).2
    simp only [Option.map_some, Option.getD_some, Recovered.entity, hown, Option.toList_some,
      List.flatMap_singleton, apply_ite (List.filterMap _), List.filterMap_nil]
  | none =>
    have hi := Array.getElem?_eq_none_iff.1 hentity
    have hworld : level.worldIndex? ≠ some i := fun h =>
      absurd (worldIndex?_lt h) (Nat.not_lt.2 hi)
    rw [List.getElem?_append_right (by rwa [length_addToWorld, hlength]), if_neg hworld]
    cases hplaced : level.recoverPlaced.value[i - _]? with
    | none => simp
    | some placed => simpa using brushes_of_mem_recoverPlaced (List.mem_of_getElem? hplaced)

/-- Of each of their origins one brush comes, in order. -/
theorem map_some_brushesAt_recover (level : Level) (settings : Settings) (i : Nat) :
    ((level.recover settings).brushesAt i).map some = (level.brushOriginsAt settings i).map
      fun origin => (level.recoverOrigin settings origin).value := by
  have hgives : ∀ origin ∈ level.brushOriginsAt settings i,
      (level.recoverOrigin settings origin).value.isSome = true := by
    intro origin horigin
    rw [isSome_recoverOrigin]
    exact (List.mem_filter.1 horigin).2
  rw [brushesAt_recover, List.map_filterMap_some_eq_filter_map_isSome, List.filter_eq_self]
  exact List.forall_mem_map.2 hgives

/-- Wherever they are, the brushes of a level are what comes of its origins. -/
theorem perm_brushes_origins (settings : Settings) :
    ((level.recover settings).entities.flatMap (·.brushes)).Perm
      (level.origins.filterMap fun origin => (level.recoverOrigin settings origin).value) := by
  refine (perm_brushes_recover settings).trans (List.Perm.of_eq ?_)
  have hplaced : level.recoverPlaced.value.flatMap (·.brushes) = [] :=
    List.flatMap_eq_nil_iff.2 fun _ h => brushes_of_mem_recoverPlaced h
  have hentity : ∀ cursor entity,
      (level.recoverEntity settings cursor entity).1.ownBrushes false =
        (level.originsBy cursor entity).filterMap
          fun origin => (level.recoverOrigin settings origin).value := by
    intro cursor entity
    have hstays : ∀ origin : Origin, (!origin.moves false) = true := fun origin => by
      cases origin <;> rfl
    rw [(brushes_recoverEntity level settings cursor entity false).2,
      List.filter_eq_self.2 fun origin _ => hstays origin]
  rw [entities_recoverApart, List.flatMap_append, hplaced, List.append_nil, List.flatMap_map,
    origins, List.filterMap_flatMap]
  exact flatMap_recoveredInOrder (·.ownBrushes false)
    (fun origins => origins.filterMap
      fun origin => (level.recoverOrigin settings origin).value) rfl hentity

/-! ## Properties -/

theorem properties_recoverEntity (cursor : Nat) (entity : Properties) :
    (level.recoverEntity settings cursor entity).1.properties =
      level.keptProperties entity := by
  obtain ⟨h, warnings, hr⟩ | ⟨number, model, h, hr⟩ :=
    recoverEntity_cases level settings cursor entity
  · rw [hr, keptProperties, h]
    rfl
  · rw [hr, keptProperties, h]
    rfl

/-- The properties of a recovery do not depend on what the brushes are recovered to. -/
theorem map_properties_recover (level : Level) (settings : Settings) :
    (level.recover settings).entities.map (·.properties) =
      level.entities.toList.map level.keptProperties
        ++ level.recoverPlaced.value.map (·.properties) := by
  have hkept : (level.recoveredInOrder settings).map (·.properties) =
      level.entities.toList.map level.keptProperties :=
    map_recoverEntities properties_recoverEntity 0 level.entities.toList
  rw [entities_recover, List.map_append, assemble, map_properties_addToWorld, List.map_map,
    ← hkept]
  rfl

end Level

end Brushwork
