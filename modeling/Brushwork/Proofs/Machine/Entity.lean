import Brushwork.Recovery.Entity
import Brushwork.Proofs.Machine.Surface

/-!
# Entities on a machine

The primitives of a model are gone through one after another, with a unit of work done after
each. The brushes move the cursor over the stored sides (`ends_recoverSolids`); the other
primitives leave it where it is (`takes_recoverSurfaces`). `ends_process` says that the
machine makes of an entity what is made of it without one, and of the session what
`Level.process` makes of it.
-/

namespace Brushwork.Machine

variable {overflow : Overflow} {level : Level} {entity : Properties} {number : Nat}

/-! ## Special surfaces -/

/-- The patches of a model, each once, in order of first mention. -/
def patchesOf (level : Level) (model : Model) : Checked (List Patch) :=
  if level.patches.isEmpty then pure []
  else do
    let references ← readRun model.leafPatches level.leafPatches
    let positions := Level.patchPositions references
    return (positions.filterMap (level.patches[·]?)).filter level.keepsPatch

/-- The brush of a patch. -/
def recoverPatchBrush (level : Level) (patch : Patch) : Exec (Option Editor.Brush) := do
  let patch ← recoverPatch level patch
  return some (.ofShape (.patch patch))

/-- The brush of a special surface in the model with a number. -/
def recoverSurface (level : Level) (settings : Settings) (entity : Properties) (number : Nat)
    (face : Face) : Surface → Exec (Option Editor.Brush)
  | .displacement index => do
    log (warnMisplaced number .displacement)
    match level.displacements[index]? with
    | some displacement => do
      let side ← recoverFaceSide level settings face none (entity.origin.map widen)
      let displaced ← recoverDisplacement level displacement
      return some (.ofShape (.displacement side displaced))
    | none => do
      warn (.outOfRange TableName.displacements index level.displacements.size)
      return none
  | .patch => do
    let patch ← recoverFacePatch level face
    return some (.ofShape (.patch patch))
  | .terrain => do
    log (warnMisplaced number .terrain)
    let terrain ← recoverFaceTerrain level face
    return some (.ofShape (.faceTerrain terrain))

/-- The brush of a terrain tile. -/
def recoverTileBrush (level : Level) (tile : TerrainTile) : Exec (Option Editor.Brush) := do
  let terrain ← recoverTile level tile
  return some (.ofShape (.tileTerrain terrain))

/-- The special surfaces of the model with a number, each a unit of work. -/
def recoverSurfaces (overflow : Overflow) (level : Level) (settings : Settings)
    (entity : Properties) (number : Nat) (model : Model) :
    Exec (List (Option Editor.Brush)) := do
  let patches ← patchesOf level model
  let ofPatches ← patches.mapM fun patch => counted overflow (recoverPatchBrush level patch)
  let faces ← readRun model.faces level.faces
  let special := faces.filterMap fun face =>
    (face.surface? level.family).map fun surface => (face, surface)
  let ofFaces ← special.mapM fun special =>
    counted overflow (recoverSurface level settings entity number special.1 special.2)
  let ofTiles ← (level.tilesOf number).mapM fun tile =>
    counted overflow (recoverTileBrush level tile)
  return ofPatches ++ ofFaces ++ ofTiles

/-- Without patches there is nothing to look for. -/
theorem patchesOf_eq (fits : Fits level) (model : Model) :
    patchesOf level model = pure (level.patchesOf model) := by
  have htable : level.leafPatches.size < wordSize := fits.size_lt (by simp [tableSizes])
  unfold patchesOf Level.patchesOf
  split
  · next hempty =>
    have hnone : ∀ position : Nat, level.patches[position]? = none := fun position => by
      rw [Array.isEmpty_iff.1 hempty]
      rfl
    rw [List.filterMap_eq_nil_iff.2 fun position _ => hnone position]
    rfl
  · rw [readRun_eq htable, pure_bind]
    rfl

theorem sizeFits_of_mem_patchesOf (fits : Fits level) {model : Model} {patch : Patch}
    (h : patch ∈ level.patchesOf model) : SizeFits patch.size := by
  obtain ⟨position, -, hpatch⟩ := List.mem_filterMap.1 (List.mem_filter.1 h).1
  exact fits.patches patch (Array.mem_of_getElem? hpatch)

theorem faceFits_of_mem_surfacesOf (fits : Fits level) {model : Model}
    {special : Face × Surface} (h : special ∈ level.surfacesOf model) : FaceFits special.1 := by
  obtain ⟨face, hface, hspecial⟩ := List.mem_filterMap.1 h
  obtain ⟨surface, -, rfl⟩ := Option.map_eq_some_iff.1 hspecial
  exact fits.faces face (Array.mem_def.2 (mem_of_mem_read hface))

theorem takes_recoverPatchBrush (fits : Fits level) {patch : Patch}
    (hsize : SizeFits patch.size) :
    Takes overflow 0 (recoverPatchBrush level patch) (level.recoverPatchBrush patch) :=
  (takes_recoverPatch fits hsize).bind_pure _

theorem takes_recoverSurface (fits : Fits level) (settings : Settings) {face : Face}
    (hface : FaceFits face) (surface : Surface) :
    Takes overflow 0 (recoverSurface level settings entity number face surface)
      (level.recoverSurface settings entity number face surface) := by
  cases surface with
  | displacement index =>
    refine (takes_log _).andThen ?_
    cases level.displacements[index]? with
    | some displacement =>
      exact (takes_recoverFaceSide fits settings hface none _).andThen <|
        (takes_recoverDisplacement fits displacement).bind_pure _
    | none => exact (takes_warn _).bind_pure fun _ => none
  | patch => exact (takes_recoverFacePatch fits hface).bind_pure _
  | terrain => exact (takes_log _).andThen <| (takes_recoverFaceTerrain fits hface).bind_pure _

theorem takes_recoverTileBrush (level : Level) (tile : TerrainTile) :
    Takes overflow 0 (recoverTileBrush level tile) (level.recoverTileBrush tile) :=
  (takes_recoverTile level tile).bind_pure _

theorem takes_recoverSurfaces (fits : Fits level) (settings : Settings) (entity : Properties)
    (number : Nat) (model : Model) :
    Takes overflow (level.recoverSurfaces settings entity number model).length
      (recoverSurfaces overflow level settings entity number model)
      (Warned.forEach id (level.recoverSurfaces settings entity number model)) := by
  have htable : level.faces.size < wordSize := fits.size_lt (by simp [tableSizes])
  have hparts : Warned.forEach id (level.recoverSurfaces settings entity number model) =
      Warned.forEach level.recoverPatchBrush (level.patchesOf model) >>= fun ofPatches =>
        Warned.forEach (fun special : Face × Surface =>
          level.recoverSurface settings entity number special.1 special.2)
          (level.surfacesOf model) >>= fun ofFaces =>
        Warned.forEach level.recoverTileBrush (level.tilesOf number) >>= fun ofTiles =>
        pure (ofPatches ++ ofFaces ++ ofTiles) := by
    simp [Level.recoverSurfaces, Warned.forEach, Bind.bind]
  have hlength : (level.recoverSurfaces settings entity number model).length =
      (level.patchesOf model).length
        + ((level.surfacesOf model).length + (level.tilesOf number).length) := by
    simp [Level.recoverSurfaces]
  rw [hparts, hlength]
  refine .of_checked (patchesOf_eq fits model) <| (takes_mapM_counted ?_).bind <|
    .of_checked (readRun_eq htable model.faces) <| (takes_mapM_counted ?_).bind <|
    (takes_mapM_counted ?_).bind_pure _
  · exact fun patch h => takes_recoverPatchBrush fits (sizeFits_of_mem_patchesOf fits h)
  · exact fun special h =>
      takes_recoverSurface fits settings (faceFits_of_mem_surfacesOf fits h) special.2
  · exact fun tile _ => takes_recoverTileBrush level tile

/-! ## Entities -/

/-- The planar brushes of an entity, each a unit of work. -/
def recoverSolids (overflow : Overflow) (level : Level) (settings : Settings)
    (entity : Properties) (brushes : List Brush) : Exec (List Editor.Brush) :=
  brushes.mapM fun brush => counted overflow (recoverSolid level settings entity brush)

/-- Recover the entity of a call whose model is one of the level. -/
def processModel (overflow : Overflow) (level : Level) (settings : Settings) (call : Call)
    (number : Nat) (model : Model) : Exec Processed := do
  let brushes ← readRun model.brushes level.brushes
  let solids ← recoverSolids overflow level settings call.entity brushes
  let results ← recoverSurfaces overflow level settings call.entity number model
  let surfaces := results.filterMap id
  let properties := call.entity.erase modelKey
  return if call.merge ∧ number ≠ 0 then ⟨⟨properties, surfaces⟩, solids⟩
    else ⟨⟨properties, solids ++ surfaces⟩, []⟩

/-- Recover the entity of a call. -/
def process (overflow : Overflow) (level : Level) (settings : Settings) (call : Call) :
    Exec Processed :=
  match call.entity.modelNumber? with
  | none => return ⟨.ofProperties call.entity, []⟩
  | some number =>
    match level.models[number]? with
    | none => do
      warn (.outOfRange TableName.models number level.models.size)
      return ⟨.ofProperties call.entity, []⟩
    | some model => processModel overflow level settings call number model

/-- What a call gives of what is recovered of its entity. -/
def resultOf (recovered : Recovered) (merge : Bool) : Warned Processed :=
  ⟨⟨recovered.entity merge, recovered.worldBrushes merge⟩, recovered.warnings⟩

/-- The brushes one after another have the sides at the positions that the cursor gives
them, which goes on as it does without the machine. -/
theorem ends_recoverSolids (fits : Fits level) (settings : Settings) (entity : Properties) :
    ∀ (brushes : List Brush) (s : Session),
      Ends overflow s brushes.length (recoverSolids overflow level settings entity brushes)
        (Warned.forEach
          (fun located => level.recoverSolid settings entity located.1 located.2)
          (locateSides level.brushSides.size s.cursor brushes).1)
        (locateSides level.brushSides.size s.cursor brushes).2
  | [], s => takes_pure [] s
  | brush :: brushes, s => by
    unfold recoverSolids
    rw [locateSides_cons, Warned.forEach_cons, List.mapM_cons, List.length_cons, Nat.add_comm]
    refine (ends_recoverSolid fits settings entity brush s).counted.bind fun t ht => ?_
    rw [← ht]
    exact (ends_recoverSolids fits settings entity brushes t).bind_pure _

theorem resultOf_withoutModel (properties : Properties) (warnings : List Warning)
    (merge : Bool) :
    resultOf (.withoutModel properties warnings) merge =
      ⟨⟨.ofProperties properties, []⟩, warnings⟩ := by
  cases merge <;>
    simp [resultOf, Recovered.withoutModel, Recovered.entity, Recovered.worldBrushes,
      Recovered.ownBrushes, Recovered.movesSolids, Recovered.solidBrushes,
      Recovered.surfaceBrushes, Recovered.warnings, Editor.Entity.ofProperties]

/-- The entity of a model is put together from its planar brushes and its special
surfaces. -/
theorem resultOf_recoverModel (settings : Settings) (call : Call) (cursor number : Nat)
    (model : Model) :
    resultOf (level.recoverModel settings cursor call.entity number model).1 call.merge =
      Warned.forEach
        (fun located => level.recoverSolid settings call.entity located.1 located.2)
        (locateSides level.brushSides.size cursor (level.brushesOf model)).1 >>= fun solids =>
      Warned.forEach id (level.recoverSurfaces settings call.entity number model) >>=
        fun results => pure (
          if call.merge ∧ number ≠ 0 then
            ⟨⟨call.entity.erase modelKey, results.filterMap id⟩, solids⟩
          else ⟨⟨call.entity.erase modelKey, solids ++ results.filterMap id⟩, []⟩) := by
  have hmoves : (level.recoverModel settings cursor call.entity number model).1.movesSolids
      call.merge = decide (call.merge ∧ number ≠ 0) := by
    cases call.merge <;> simp [Level.recoverModel, Recovered.movesSolids]
  refine Warned.ext_parts ?_ ?_
  · simp only [resultOf, Recovered.entity, Recovered.worldBrushes, Recovered.ownBrushes, hmoves,
      decide_eq_true_eq, Warned.value_bind, Warned.value_pure, Warned.forEach,
      List.filterMap_map, List.map_id]
    split <;> simp [Level.recoverModel, Recovered.solidBrushes, Recovered.surfaceBrushes,
      Function.comp_def]
  · simp [resultOf, Recovered.warnings, Level.recoverModel, Warned.forEach, List.flatMap_map]

/-- The machine makes of an entity what is made of it without one, and moves the cursor to
where it is moved. -/
theorem ends_process (fits : Fits level) (settings : Settings) (call : Call) (s : Session) :
    Ends overflow s (level.recoverEntity settings s.cursor call.entity).1.units
      (process overflow level settings call)
      (resultOf (level.recoverEntity settings s.cursor call.entity).1 call.merge)
      (level.recoverEntity settings s.cursor call.entity).2 := by
  have htable : level.brushes.size < wordSize := fits.size_lt (by simp [tableSizes])
  unfold process Level.recoverEntity
  cases call.entity.modelNumber? with
  | none =>
    dsimp only
    rw [resultOf_withoutModel]
    exact takes_pure _ s
  | some number =>
    dsimp only
    cases level.models[number]? with
    | none =>
      dsimp only
      rw [resultOf_withoutModel]
      exact (takes_warn _).bind_pure (fun _ => Processed.mk (.ofProperties call.entity) []) s
    | some model =>
      dsimp only
      have hunits : (level.recoverModel settings s.cursor call.entity number model).1.units =
          (level.brushesOf model).length
            + (level.recoverSurfaces settings call.entity number model).length := by
        simp [Level.recoverModel, Recovered.units, length_locateSides]
      rw [resultOf_recoverModel, hunits]
      refine .of_checked (readRun_eq htable model.brushes) ?_
      refine (ends_recoverSolids fits settings call.entity _ s).bind fun t ht => ?_
      have hcursor :
          (level.recoverModel settings s.cursor call.entity number model).2 = t.cursor := ht.symm
      rw [hcursor]
      exact (takes_recoverSurfaces fits settings call.entity number model).bind_pure _ t

end Brushwork.Machine
