import Brushwork.Proofs.Machine.Entity
import Brushwork.Proofs.Work

/-!
# Recovering a level on a machine

The machine counts the work of a level, and goes through its entities and the placed objects
with one session. `execute_returns` is the main result : for every level whose tables fit in
memory, however malformed its records are, and for all settings, the machine returns what
the level is recovered to. It never comes to a fault.
-/

namespace Brushwork.Machine

variable {overflow : Overflow} {level : Level}

/-! ## Counting work -/

/-- The units of work of the model with a number. -/
def modelUnits (overflow : Overflow) (level : Level) (number : Nat) (model : Model) :
    Checked Nat := do
  let faces ← readRun model.faces level.faces
  let surfaces := faces.countP fun face => (face.surface? level.family).isSome
  let tiles := if number = 0 then level.terrainTiles.size else 0
  let brushes ← readRun model.brushes level.brushes
  let patches ← patchesOf level model
  let units ← count overflow brushes.length patches.length
  let units ← count overflow units surfaces
  count overflow units tiles

/-- Add the units of work of an entity's model to those so far. -/
def addUnits (overflow : Overflow) (level : Level) (units : Nat) (entity : Properties) :
    Checked Nat :=
  match level.modelOf? entity with
  | some (number, model) => do
    let more ← modelUnits overflow level number model
    count overflow units more
  | none => return units

/-- The number of placed objects. -/
def placedCount (level : Level) : Checked Nat := do
  let models ← add level.staticProps.size level.staticModels.size
  add models level.cubemaps.size

/-- The units of work that recovering the level takes. -/
def workUnits (overflow : Overflow) (level : Level) : Checked Nat := do
  let placed ← placedCount level
  let models ← level.entities.toList.foldlM (addUnits overflow level) 0
  let units ← count overflow level.entities.size models
  count overflow units placed

theorem modelUnits_eq (fits : Fits level) {number : Nat} {model : Model}
    (h : overflow = .stops → level.modelUnits number model < wordSize) :
    modelUnits overflow level number model =
      pure (level.modelUnits number model % wordSize) := by
  have hfaces : readRun model.faces level.faces = pure (level.facesOf model) :=
    readRun_eq (fits.size_lt (by simp [tableSizes])) model.faces
  have hbrushes : readRun model.brushes level.brushes = pure (level.brushesOf model) :=
    readRun_eq (fits.size_lt (by simp [tableSizes])) model.brushes
  unfold Level.modelUnits Level.countSurfaces at h ⊢
  simp only [modelUnits, hfaces, hbrushes, patchesOf_eq fits, pure_bind]
  rw [count_eq fun hstops => ?_, pure_bind, count_mod_eq fun hstops => ?_, pure_bind,
    count_mod_eq h]
  all_goals
    have := h hstops
    omega

theorem addUnits_eq (fits : Fits level) {units : Nat} {entity : Properties}
    (h : overflow = .stops → units + level.entityUnits entity < wordSize) :
    addUnits overflow level (units % wordSize) entity =
      pure ((units + level.entityUnits entity) % wordSize) := by
  cases hmodel : level.modelOf? entity with
  | none => simp only [addUnits, Level.entityUnits, hmodel, Nat.add_zero]
  | some found =>
    obtain ⟨number, model⟩ := found
    simp only [addUnits, Level.entityUnits, hmodel] at h ⊢
    have hmod := Nat.mod_le (level.modelUnits number model) wordSize
    rw [modelUnits_eq fits fun hstops => ?_, pure_bind, count_mod_eq fun hstops => ?_,
      Nat.add_mod_mod]
    all_goals
      have := h hstops
      omega

/-- The counts of the entities are summed up one after another. -/
theorem foldlM_addUnits (fits : Fits level) :
    ∀ {entities : List Properties} {units : Nat},
      (overflow = .stops → units + (entities.map level.entityUnits).sum < wordSize) →
      entities.foldlM (addUnits overflow level) (units % wordSize) =
        pure ((units + (entities.map level.entityUnits).sum) % wordSize)
  | [], units, _ => by rw [List.map_nil, List.sum_nil, Nat.add_zero, List.foldlM_nil]
  | entity :: entities, units, h => by
    simp only [List.map_cons, List.sum_cons, ← Nat.add_assoc] at h ⊢
    rw [List.foldlM_cons, addUnits_eq fits fun hstops => ?_, pure_bind, foldlM_addUnits fits h]
    have := h hstops
    omega

/-- There is room for all entities that a level is recovered to. -/
theorem placed_lt (fits : Fits level) : level.entities.size + level.placedCount < wordSize := by
  have htables := fits.tables
  rw [tableSizes, List.sum_cons, List.sum_cons, List.sum_cons, List.sum_cons] at htables
  unfold Level.placedCount
  omega

theorem placedCount_eq (fits : Fits level) : placedCount level = pure level.placedCount := by
  have hplaced := placed_lt fits
  unfold Level.placedCount at hplaced
  have hmodels : level.staticProps.size + level.staticModels.size < wordSize := by omega
  have hcubemaps : level.staticProps.size + level.staticModels.size + level.cubemaps.size <
      wordSize := by omega
  rw [placedCount, add_eq hmodels, pure_bind, add_eq hcubemaps]
  rfl

theorem workUnits_eq (fits : Fits level) (h : overflow = .stops → level.workUnits < wordSize) :
    workUnits overflow level = pure (level.workUnits % wordSize) := by
  unfold Level.workUnits at h ⊢
  rw [← List.sum_eq_foldr] at h ⊢
  have hmodels : level.entities.toList.foldlM (addUnits overflow level) 0 =
      pure ((level.entities.toList.map level.entityUnits).sum % wordSize) := by
    have hroom : overflow = .stops →
        0 + (level.entities.toList.map level.entityUnits).sum < wordSize := fun hstops => by
      have := h hstops
      omega
    have hfold := foldlM_addUnits fits hroom
    rwa [Nat.zero_mod, Nat.zero_add] at hfold
  have hmod := Nat.mod_le (level.entities.toList.map level.entityUnits).sum wordSize
  rw [workUnits, placedCount_eq fits, pure_bind, hmodels, pure_bind, count_eq fun hstops => ?_,
    pure_bind, Nat.add_mod_mod, count_mod_eq h]
  have := h hstops
  omega

/-! ## Recovering a level -/

/-- Recover entities in order, each a unit of work after those of its model. -/
def processEach (overflow : Overflow) (level : Level) (settings : Settings) (merge : Bool)
    (entities : List Properties) : Exec (List Processed) :=
  entities.mapM fun entity => counted overflow (process overflow level settings ⟨entity, merge⟩)

/-- The entities of the placed objects, each a unit of work. -/
def recoverPlaced (overflow : Overflow) (level : Level) : Exec (List Editor.Entity) := do
  let props ← level.staticProps.toList.mapM fun prop =>
    counted overflow (log (level.recoverProp prop))
  let models ← level.staticModels.toList.mapM fun model =>
    counted overflow (pure model.toEntity)
  let cubemaps ← level.cubemaps.toList.mapM fun cubemap =>
    counted overflow (pure cubemap.toEntity)
  return props ++ models ++ cubemaps

/-- The editable entities of the level. -/
def recover (overflow : Overflow) (level : Level) (settings : Settings) :
    Exec (List Editor.Entity) := do
  let processed ← processEach overflow level settings (level.merges settings)
    level.entities.toList
  let entities := level.addToWorld (processed.map (·.entity))
    (processed.flatMap (·.worldBrushes))
  let placed ← recoverPlaced overflow level
  return entities ++ placed

/-- Count the work of a level and recover it. -/
def execute (overflow : Overflow) (level : Level) (settings : Settings) : Checked Recovery := do
  let total ← workUnits overflow level
  let placed ← placedCount level
  let _ ← add level.entities.size placed
  let (entities, s) ← (recover overflow level settings).run ⟨0, [], .start total, []⟩
  return ⟨entities, s.warnings, s.progress, s.reports⟩

theorem ends_processEach (fits : Fits level) (settings : Settings) (merge : Bool) :
    ∀ (entities : List Properties) (s : Session),
      Ends overflow s ((level.recoverEntities settings s.cursor entities).1.map (·.units + 1)).sum
        (processEach overflow level settings merge entities)
        (Warned.forEach (resultOf · merge) (level.recoverEntities settings s.cursor entities).1)
        (level.recoverEntities settings s.cursor entities).2
  | [], s => takes_pure [] s
  | entity :: entities, s => by
    have hcons : level.recoverEntities settings s.cursor (entity :: entities) =
        ((level.recoverEntity settings s.cursor entity).1
          :: (level.recoverEntities settings (level.recoverEntity settings s.cursor entity).2
            entities).1,
          (level.recoverEntities settings (level.recoverEntity settings s.cursor entity).2
            entities).2) := rfl
    unfold processEach
    rw [hcons, Warned.forEach_cons, List.mapM_cons, List.map_cons, List.sum_cons]
    refine (ends_process fits settings ⟨entity, merge⟩ s).counted.bind fun t ht => ?_
    dsimp only at ht ⊢
    rw [← ht]
    exact (ends_processEach fits settings merge entities t).bind_pure _

theorem takes_recoverPlaced (level : Level) :
    Takes overflow level.placedCount (recoverPlaced overflow level) level.recoverPlaced := by
  have hparts : level.recoverPlaced =
      Warned.forEach level.recoverProp level.staticProps.toList >>= fun props =>
        Warned.forEach (fun model => pure model.toEntity) level.staticModels.toList >>=
          fun models =>
        Warned.forEach (fun cubemap => pure cubemap.toEntity) level.cubemaps.toList >>=
          fun cubemaps => pure (props ++ models ++ cubemaps) := by
    simp only [Warned.forEach_pure, pure_bind]
    rfl
  rw [hparts, Level.placedCount, Nat.add_assoc, ← Array.length_toList, ← Array.length_toList,
    ← Array.length_toList]
  exact (takes_mapM_counted fun prop _ => takes_log _).bind <|
    (takes_mapM_counted fun model _ => takes_pure _).bind <|
    (takes_mapM_counted fun cubemap _ => takes_pure _).bind_pure _

/-- The machine does exactly the work that is counted for a level. -/
theorem ends_recover (fits : Fits level) (settings : Settings) {s : Session}
    (hs : s.cursor = 0) :
    Ends overflow s level.workUnits (recover overflow level settings)
      ⟨(level.recover settings).entities, (level.recover settings).warnings⟩
      (level.recoverEntities settings 0 level.entities.toList).2 := by
  have hparts : (⟨(level.recover settings).entities, (level.recover settings).warnings⟩ :
      Warned (List Editor.Entity)) =
      Warned.forEach (resultOf · (level.merges settings))
        (level.recoverEntities settings 0 level.entities.toList).1 >>= fun processed =>
      level.recoverPlaced >>= fun placed => pure (level.addToWorld (processed.map (·.entity))
        (processed.flatMap (·.worldBrushes)) ++ placed) := by
    refine Warned.ext_parts ?_ ?_
    · simp only [Level.recover, Level.assemble, Warned.value_bind, Warned.value_pure,
        Warned.value_forEach, List.map_map, List.flatMap_map]
      rfl
    · simp only [Level.recover, Warned.warnings_bind, Warned.warnings_pure,
        Warned.warnings_forEach, List.append_nil]
      rfl
  rw [hparts, Level.workUnits_eq_sum level settings, ← hs]
  refine (ends_processEach fits settings _ _ s).bind fun t ht => ?_
  rw [← ht]
  exact (takes_recoverPlaced level).bind_pure _ t

/-- For every level whose tables fit in memory and all settings, the machine returns the
entities and the warnings that the level is recovered to : no operation on the way fails,
whatever the records refer to. The progress is that of the recovery if the work is a word,
without which a machine that stops at larger counts cannot count it. -/
theorem execute_returns (overflow : Overflow) (level : Level) (settings : Settings)
    (fits : Fits level) (hwork : overflow = .stops → level.workUnits < wordSize) :
    ∃ recovery, execute overflow level settings = pure recovery ∧
      recovery.entities = (level.recover settings).entities ∧
      recovery.warnings = (level.recover settings).warnings ∧
      (level.workUnits < wordSize → recovery = level.recover settings) := by
  have hroom : Room overflow ⟨0, [], .start (level.workUnits % wordSize), []⟩
      level.workUnits := fun hstops => by
    simpa [Progress.start] using hwork hstops
  obtain ⟨t, hrun, ht⟩ := ends_recover fits settings rfl hroom
  refine ⟨⟨(level.recover settings).entities, t.warnings, t.progress, t.reports⟩, ?_, rfl,
    ht.warnings_eq, fun hword => ?_⟩
  · rw [execute, workUnits_eq fits hwork, pure_bind, placedCount_eq fits, pure_bind,
      add_eq (placed_lt fits), pure_bind, hrun, pure_bind]
  · have hprogress := Level.progress_recover level settings
    obtain ⟨hlast, hreports⟩ := Prod.mk.inj hprogress
    rw [ht.eq_after (by simpa [Progress.start] using hword), Nat.mod_eq_of_lt hword]
    simp [Session.after, Session.moveTo, ← hlast, ← hreports]

/-- A level in which little is right : runs that end outside their tables, references to
nothing, a patch without width and one of the largest size, and a displacement of a power
that no word can be shifted by. -/
def broken : Level where
  family := .cod2
  entities := #[.insert .empty "classname" "worldspawn", .insert .empty "model" "*7"]
  models := #[⟨⟨0, 4294967295⟩, ⟨0, 4294967295⟩, ⟨0, 9⟩⟩]
  brushes := #[⟨0, some 8, .stored ⟨5, 4294967295⟩⟩, ⟨0, none, .following 4294967295⟩]
  brushSides := #[⟨some 3, some 9, some 9, 0, false⟩, ⟨none, some 0, none, 0, false⟩]
  faces := #[
    { (default : Face) with
      vertices := ⟨4294967295, 4294967295⟩, indices := ⟨0, 4294967295⟩
      patchSize := some ⟨0, 5⟩, flags := Face.patchKind },
    { (default : Face) with displacement := some 0 },
    { (default : Face) with displacement := some 6 }]
  indices := #[4294967295, 0, 1]
  displacements := #[⟨4294967295, .zero, 4294967295⟩]
  patches := #[⟨4294967295, 0, ⟨4294967295, 4294967295⟩, ⟨0, 4294967295⟩⟩]
  leafPatches := #[0, -3, 0, 12]

/-- The machine recovers the broken level. -/
theorem execute_returns_broken :
    Fits broken ∧ broken.workUnits = 8 ∧
    execute .stops broken {} = pure (broken.recover {}) := by
  have hwork : broken.workUnits = 8 := by decide
  have hword : broken.workUnits < wordSize := by
    rw [hwork]
    decide
  have fits : Fits broken := by decide
  obtain ⟨recovery, hrun, -, -, hrecovery⟩ := execute_returns .stops broken {} fits fun _ => hword
  exact ⟨fits, hwork, hrecovery hword ▸ hrun⟩

end Brushwork.Machine
