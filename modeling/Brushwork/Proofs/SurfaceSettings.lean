import Brushwork.Proofs.Steps
import Brushwork.Proofs.Work

/-!
# The settings of surfaces

Two of the settings are about the sides that became a face. `suppressFlags` takes their flags
away, `hideWideFaces` gives the wide ones another texture and does not look theirs up. Only
the recovery of a face reads them, so every step of a recovery either gives a face its side
or is the same with all settings (`recoverStep_cases`), and `recoverStep_suppressFlags` and
`recoverStep_hideWideFaces` compare a step with and without each of them.

`recover_surfaceSettings` compares whole recoveries. Without flags nothing but the flags of
sides is different (`SameButFlags`). With hidden faces nothing but the texture of their sides
is, and the warnings are those of the other recovery without the ones about their textures
(`SameButWideTextures`).
-/

namespace Brushwork

namespace Editor

/-- The side with no flags. -/
def Side.withoutFlags (side : Side) : Side :=
  { side with flags := 0 }

theorem Side.withoutFlags_eq_self {side : Side} (h : side.flags = 0) :
    side.withoutFlags = side := by
  obtain ⟨points, plane, texture, mapping, flags⟩ := side
  cases h
  rfl

/-- The side with another texture. -/
def Side.withTexture (texture : String) (side : Side) : Side :=
  { side with texture }

/-- The height field over a face that the brush is made of. -/
def Brush.faceTerrain? (brush : Brush) : Option FaceTerrain :=
  match brush.shape with
  | .faceTerrain terrain => some terrain
  | _ => none

@[simp] theorem Brush.faceTerrain?_mapSides (f : Side → Side) (brush : Brush) :
    (brush.mapSides f).faceTerrain? = brush.faceTerrain? := by
  obtain ⟨isDetail, isWater, isManualVis, shape⟩ := brush
  cases shape <;> rfl

/-- Apply a function to the planar sides of an entity. -/
def Entity.mapSides (f : Side → Side) (entity : Entity) : Entity :=
  { entity with brushes := entity.brushes.map (·.mapSides f) }

/-- Entities are determined by their properties and the brushes at every position. -/
theorem Entity.ext_lists {xs ys : List Entity}
    (hproperties : xs.map (·.properties) = ys.map (·.properties))
    (hbrushes : ∀ i : Nat,
      ((xs[i]?).map Entity.brushes).getD [] = ((ys[i]?).map Entity.brushes).getD []) :
    xs = ys := by
  refine List.ext_getElem? fun i => ?_
  have hkept : (xs[i]?).map Entity.properties = (ys[i]?).map Entity.properties := by
    rw [← List.getElem?_map, ← List.getElem?_map, hproperties]
  have hmade := hbrushes i
  cases hx : xs[i]? with
  | none =>
    rw [hx] at hkept
    exact (Option.map_eq_none_iff.1 hkept.symm).symm
  | some x =>
    rw [hx] at hkept hmade
    obtain ⟨y, hy, hxy⟩ := Option.map_eq_some_iff.1 hkept.symm
    rw [hy] at hmade ⊢
    obtain ⟨properties, brushes⟩ := x
    cases hxy
    cases hmade
    rfl

end Editor

/-! ## Differences between recoveries -/

/-- Two recoveries are the same but for the flags of sides, and the second has none. -/
structure Recovery.SameButFlags (plain bare : Recovery) : Prop where
  warnings_eq : bare.warnings = plain.warnings
  progress_eq : (bare.progress, bare.reports) = (plain.progress, plain.reports)
  entities_eq : bare.entities.map (·.mapSides .withoutFlags) =
    plain.entities.map (·.mapSides .withoutFlags)
  flags_eq_zero : ∀ i, ∀ side ∈ bare.sidesAt i, side.flags = 0
  faceTerrains_eq : ∀ i, (bare.brushesAt i).filterMap (·.faceTerrain?) =
    (plain.brushesAt i).filterMap (·.faceTerrain?)

namespace Level

variable (level : Level)

/-- The face that a step gives a side. -/
def faceOf? : Step → Option Face
  | .storedSide _ side _ =>
    if side.isBevel then none else (side.face.bind (level.faces[·]?)).filter (!·.isIgnored)
  | .faceSide _ face => some face
  | .remarks _ => none

/-- The face that a step gives a side, if only the compiler uses it. -/
def wideFaceOf? (step : Step) : Option Face :=
  (level.faceOf? step).filter (·.isWide)

/-- The side of a step, with a texture that says so if only the compiler uses its face. -/
def hideTexture (step : Step) (side : Editor.Side) : Editor.Side :=
  if (level.wideFaceOf? step).isSome then side.withTexture nullTexture else side

/-- The warnings about the texture of a face that only the compiler uses. -/
def wideWarnings (step : Step) : List Warning :=
  match level.wideFaceOf? step with
  | some face =>
    if (level.texture? face.texture).isNone then
      [.missingTexture TableName.textures face.texture]
    else []
  | none => []

/-- Two recoveries are the same but for the textures of wide faces : in the second, the sides
of those faces have the null texture, and the warnings about their textures are left out. -/
structure SameButWideTextures (shown hidden : Settings) : Prop where
  progress_eq : ((level.recover hidden).progress, (level.recover hidden).reports) =
    ((level.recover shown).progress, (level.recover shown).reports)
  entities_eq : (level.recover hidden).entities.map (·.mapSides (.withTexture "")) =
    (level.recover shown).entities.map (·.mapSides (.withTexture ""))
  sidesAt_shown : ∀ i, (level.recover shown).sidesAt i =
    (level.stepsAt shown i).filterMap fun step => (level.recoverStep shown step).value
  sidesAt_hidden : ∀ i, (level.recover hidden).sidesAt i =
    (level.stepsAt shown i).filterMap fun step =>
      (level.recoverStep shown step).value.map (level.hideTexture step)
  warnings_shown : (level.recover shown).warnings =
    level.allSteps.flatMap
        (fun step => level.wideWarnings step ++ (level.recoverStep hidden step).warnings)
      ++ level.recoverPlaced.warnings
  warnings_hidden : (level.recover hidden).warnings =
    level.allSteps.flatMap (fun step => (level.recoverStep hidden step).warnings)
      ++ level.recoverPlaced.warnings

variable {level} {settings settings' : Settings}

/-! ## The sides of faces -/

theorem recoverFaceSide_suppressFlags (face : Face) (sidePlane : Option Nat)
    (origin : Vec3 Float) :
    level.recoverFaceSide { settings with suppressFlags := true } face sidePlane origin =
      .withoutFlags <$>
        level.recoverFaceSide { settings with suppressFlags := false } face sidePlane origin :=
  Warned.ext_parts rfl (Warned.warnings_map Editor.Side.withoutFlags _).symm

/-- Hiding a face does not look its texture up. -/
theorem faceTextureName_hideWideFaces (level : Level) (settings : Settings) (face : Face) :
    level.faceTextureName { settings with hideWideFaces := false } face =
        level.textureNameOrSkip face.texture ∧
      level.faceTextureName { settings with hideWideFaces := true } face =
        if face.isWide then pure nullTexture else level.textureNameOrSkip face.texture :=
  ⟨rfl, by rw [faceTextureName, Bool.true_and]⟩

theorem warnings_textureNameOrSkip (reference : Option Nat) :
    (level.textureNameOrSkip reference).warnings =
      if (level.texture? reference).isNone then [.missingTexture TableName.textures reference]
      else [] := by
  unfold textureNameOrSkip
  cases level.texture? reference <;> rfl

/-! ## One step with different settings -/

/-- A step gives a face its side, or it is the same with all settings and gives no flags. -/
theorem recoverStep_cases (level : Level) (step : Step) :
    (∃ face sidePlane origin, level.faceOf? step = some face ∧ ∀ settings,
      level.recoverStep settings step =
        some <$> level.recoverFaceSide settings face sidePlane origin) ∨
    level.faceOf? step = none ∧ ∃ result : Warned (Option Editor.Side),
      (∀ settings, level.recoverStep settings step = result) ∧
        ∀ side ∈ result.value, side.flags = 0 := by
  cases step with
  | storedSide entity side place =>
    simp only [recoverStep, recoverSide, faceOf?]
    cases side.isBevel with
    | true => exact .inr ⟨rfl, _, fun _ => rfl, by simp⟩
    | false =>
      cases side.face with
      | none => exact .inr ⟨rfl, _, fun _ => rfl, by simp [recoverBareSide]⟩
      | some reference =>
        dsimp only [Option.bind_some]
        cases level.faces[reference]? with
        | none => exact .inr ⟨rfl, _, fun _ => rfl, by simp [recoverBareSide]⟩
        | some face =>
          dsimp only
          cases hignored : face.isIgnored with
          | true => exact .inr ⟨by simp [hignored], pure none, by simp, by simp⟩
          | false => exact .inl ⟨face, side.plane, _, by simp [hignored], fun _ => rfl⟩
  | faceSide entity face => exact .inl ⟨face, _, _, rfl, fun _ => rfl⟩
  | remarks warnings => exact .inr ⟨rfl, _, fun _ => rfl, by simp⟩

theorem recoverStep_suppressFlags (step : Step) :
    level.recoverStep { settings with suppressFlags := true } step =
      Option.map .withoutFlags <$>
        level.recoverStep { settings with suppressFlags := false } step := by
  obtain ⟨face, sidePlane, origin, -, hstep⟩ | ⟨-, result, hstep, hflags⟩ :=
    recoverStep_cases level step
  · rw [hstep, hstep, recoverFaceSide_suppressFlags]
    rfl
  · have hbare : result.value.map .withoutFlags = result.value := by
      cases hvalue : result.value with
      | none => rfl
      | some side =>
        exact congrArg some (Editor.Side.withoutFlags_eq_self (hflags side hvalue))
    rw [hstep, hstep]
    exact Warned.ext_parts hbare.symm (Warned.warnings_map _ _).symm

/-- A wide face that is hidden gives a side that differs in its texture, without the warning
about that. -/
theorem recoverFaceSide_hideWideFaces (level : Level) (settings : Settings) (face : Face)
    (sidePlane : Option Nat) (origin : Vec3 Float) (hwide : face.isWide = true) :
    let shown := level.recoverFaceSide { settings with hideWideFaces := false } face sidePlane
      origin
    let hidden := level.recoverFaceSide { settings with hideWideFaces := true } face sidePlane
      origin
    hidden.value = shown.value.withTexture nullTexture ∧
      shown.warnings = (level.textureNameOrSkip face.texture).warnings ++ hidden.warnings := by
  obtain ⟨hshown, hhidden⟩ := faceTextureName_hideWideFaces level settings face
  rw [if_pos hwide] at hhidden
  simp only [recoverFaceSide, hshown, hhidden, Warned.value_bind, Warned.warnings_bind,
    Warned.value_pure, Warned.warnings_pure, List.nil_append]
  exact ⟨rfl, trivial⟩

/-- What does not come of a wide face is not hidden. -/
theorem recoverStep_of_wideFaceOf?_eq_none {step : Step} (h : level.wideFaceOf? step = none) :
    level.recoverStep { settings with hideWideFaces := true } step =
      level.recoverStep { settings with hideWideFaces := false } step := by
  obtain ⟨face, sidePlane, origin, hface, hstep⟩ | ⟨-, result, hstep, -⟩ :=
    recoverStep_cases level step
  · have hwide : ¬face.isWide := by
      rw [wideFaceOf?, hface] at h
      exact Option.filter_eq_none_iff.1 h face rfl
    obtain ⟨hshown, hhidden⟩ := faceTextureName_hideWideFaces level settings face
    rw [if_neg hwide, ← hshown] at hhidden
    rw [hstep, hstep, recoverFaceSide, recoverFaceSide, hhidden]
  · rw [hstep, hstep]

/-- Hiding changes a step that gives a wide face its side in the texture of that, and no
other. -/
theorem recoverStep_hideWideFaces (settings : Settings) (step : Step) :
    let shown := level.recoverStep { settings with hideWideFaces := false } step
    let hidden := level.recoverStep { settings with hideWideFaces := true } step
    hidden.value = shown.value.map (level.hideTexture step) ∧
      shown.warnings = level.wideWarnings step ++ hidden.warnings := by
  intro shown hidden
  cases hwideFace : level.wideFaceOf? step with
  | none =>
    have hsame : hidden = shown := recoverStep_of_wideFaceOf?_eq_none hwideFace
    have hkept : level.hideTexture step = id := funext fun side => by
      rw [hideTexture, hwideFace]
      rfl
    rw [hsame, hkept, wideWarnings, hwideFace]
    exact ⟨(congrFun Option.map_id shown.value).symm, rfl⟩
  | some wideFace =>
    obtain ⟨hface, hwide⟩ := Option.filter_eq_some_iff.1 hwideFace
    obtain ⟨face, sidePlane, origin, hface', hstep⟩ | ⟨hnone, -⟩ := recoverStep_cases level step
    · obtain rfl : wideFace = face := Option.some.inj (hface.symm.trans hface')
      have hgiven : level.hideTexture step = .withTexture nullTexture := funext fun side => by
        rw [hideTexture, hwideFace]
        rfl
      obtain ⟨hvalue, hwarnings⟩ :=
        recoverFaceSide_hideWideFaces level settings wideFace sidePlane origin hwide
      rw [warnings_textureNameOrSkip] at hwarnings
      rw [hgiven, wideWarnings, hwideFace]
      simp only [shown, hidden, hstep, Warned.value_map, Warned.warnings_map]
      exact ⟨congrArg some hvalue, hwarnings⟩
    · rw [hnone] at hface
      cases hface

/-! ## Whole recoveries with different settings -/

/-- Brushes whose sides are recovered alike under a function are the same under it. -/
theorem map_mapSides_brushesAt {f : Editor.Side → Editor.Side}
    (h : ∀ step, (level.recoverStep settings' step).value.map f =
      (level.recoverStep settings step).value.map f)
    (hmerge : settings'.mergeIntoWorld = settings.mergeIntoWorld) (i : Nat) :
    ((level.recover settings').brushesAt i).map (·.mapSides f) =
      ((level.recover settings).brushesAt i).map (·.mapSides f) := by
  have horigins : level.brushOriginsAt settings' i = level.brushOriginsAt settings i := by
    rw [brushOriginsAt, brushOriginsAt, merges, merges, hmerge]
  rw [brushesAt_recover, brushesAt_recover, horigins, List.map_filterMap, List.map_filterMap]
  exact List.filterMap_congr fun origin _ => mapSides_recoverOrigin fun step _ => h step

/-- Entities whose sides are recovered alike under a function are the same under it. -/
theorem map_mapSides_entities {f : Editor.Side → Editor.Side}
    (h : ∀ step, (level.recoverStep settings' step).value.map f =
      (level.recoverStep settings step).value.map f)
    (hmerge : settings'.mergeIntoWorld = settings.mergeIntoWorld) :
    (level.recover settings').entities.map (·.mapSides f) =
      (level.recover settings).entities.map (·.mapSides f) := by
  have hbrushes : ∀ (recovery : Recovery) (i : Nat),
      (((recovery.entities.map (·.mapSides f))[i]?).map (·.brushes)).getD [] =
        (recovery.brushesAt i).map (·.mapSides f) := by
    intro recovery i
    rw [Recovery.brushesAt, List.getElem?_map]
    cases recovery.entities[i]? <;> rfl
  have hproperties : ∀ recovery : Recovery,
      (recovery.entities.map (·.mapSides f)).map (·.properties) =
        recovery.entities.map (·.properties) := by
    intro recovery
    rw [List.map_map]
    rfl
  apply Editor.Entity.ext_lists
  · rw [hproperties, hproperties, map_properties_recover, map_properties_recover]
  · intro i
    rw [hbrushes, hbrushes, map_mapSides_brushesAt h hmerge]

theorem sameButFlags_recover (level : Level) (settings : Settings) :
    (level.recover { settings with suppressFlags := false }).SameButFlags
      (level.recover { settings with suppressFlags := true }) := by
  have hvalue : ∀ step, (level.recoverStep { settings with suppressFlags := true } step).value.map
      Editor.Side.withoutFlags =
        (level.recoverStep { settings with suppressFlags := false } step).value.map
          Editor.Side.withoutFlags := by
    intro step
    rw [recoverStep_suppressFlags, Warned.value_map, Option.map_map]
    rfl
  refine ⟨?_, ?_, map_mapSides_entities hvalue rfl, ?_, ?_⟩
  · rw [warnings_recover_steps, warnings_recover_steps]
    simp only [recoverStep_suppressFlags, Warned.warnings_map]
  · rw [progress_recover, progress_recover]
  · intro i side hside
    rw [sidesAt_recover] at hside
    obtain ⟨step, -, hstep⟩ := List.mem_filterMap.1 hside
    rw [recoverStep_suppressFlags, Warned.value_map] at hstep
    obtain ⟨plain, -, rfl⟩ := Option.map_eq_some_iff.1 hstep
    rfl
  · intro i
    have hterrains : ∀ brushes : List Editor.Brush,
        (brushes.map (·.mapSides .withoutFlags)).filterMap (·.faceTerrain?) =
          brushes.filterMap (·.faceTerrain?) := by
      intro brushes
      simp only [List.filterMap_map, Function.comp_def, Editor.Brush.faceTerrain?_mapSides]
    rw [← hterrains, map_mapSides_brushesAt hvalue rfl, hterrains]

theorem sameButWideTextures (level : Level) (settings : Settings) :
    level.SameButWideTextures { settings with hideWideFaces := false }
      { settings with hideWideFaces := true } := by
  have hvalue : ∀ step,
      (level.recoverStep { settings with hideWideFaces := true } step).value =
        (level.recoverStep { settings with hideWideFaces := false } step).value.map
          (level.hideTexture step) :=
    fun step => (recoverStep_hideWideFaces settings step).1
  have hwarnings : ∀ step,
      (level.recoverStep { settings with hideWideFaces := false } step).warnings =
        level.wideWarnings step
          ++ (level.recoverStep { settings with hideWideFaces := true } step).warnings :=
    fun step => (recoverStep_hideWideFaces settings step).2
  have herased : ∀ step, (level.recoverStep { settings with hideWideFaces := true } step).value.map
      (Editor.Side.withTexture "") =
        (level.recoverStep { settings with hideWideFaces := false } step).value.map
          (Editor.Side.withTexture "") := by
    intro step
    rw [hvalue, Option.map_map]
    congr 1
    funext side
    dsimp only [Function.comp_apply, hideTexture]
    split <;> rfl
  refine ⟨?_, map_mapSides_entities herased rfl, sidesAt_recover level _, fun i => ?_, ?_,
    warnings_recover_steps level _⟩
  · rw [progress_recover, progress_recover]
  · simp only [sidesAt_recover, hvalue]
    rfl
  · simp only [warnings_recover_steps, hwarnings]

/-- Each setting of surfaces changes what it is about and nothing else, whatever the other
settings are. -/
theorem recover_surfaceSettings (level : Level) (settings : Settings) :
    (level.recover { settings with suppressFlags := false }).SameButFlags
        (level.recover { settings with suppressFlags := true }) ∧
      level.SameButWideTextures { settings with hideWideFaces := false }
        { settings with hideWideFaces := true } :=
  ⟨sameButFlags_recover level settings, sameButWideTextures level settings⟩

end Level

end Brushwork
