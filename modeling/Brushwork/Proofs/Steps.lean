import Brushwork.Proofs.Origins

/-!
# The sides of an origin

An origin is recovered in steps, in an order that does not depend on the settings : one for
every stored side of a brush, one for the side of a displacement, and others that only warn
(`Step`). The sides that come of an origin are those that come of its steps
(`sides_recoverOrigin`), its warnings are those of its steps in order
(`warnings_recoverOrigin`), and apart from its sides a brush is the same however they are
recovered (`mapSides_recoverOrigin`). `sidesAt_recover` and `warnings_recover_steps` say this
of a whole level.
-/

namespace Brushwork

/-- A step of the recovery of an origin. -/
inductive Step
  /-- A stored side of a brush, with its place among the sides of the brush. -/
  | storedSide (entity : Properties) (side : BrushSide) (place : Nat)
  /-- The side that a displacement stands on. -/
  | faceSide (entity : Properties) (face : Face)
  /-- Warnings about anything but a side. -/
  | remarks (warnings : List Warning)

/-- Apply a function to the planar sides of a brush. -/
def Editor.Brush.mapSides (f : Editor.Side → Editor.Side) (brush : Editor.Brush) :
    Editor.Brush :=
  { brush with
    shape := match brush.shape with
      | .sides sides => .sides (sides.map f)
      | .displacement side displacement => .displacement (f side) displacement
      | shape => shape }

/-- The brush of a displacement stays one, on another side. -/
theorem Editor.Brush.mapSides_ofShape (f : Editor.Side → Editor.Side) (side : Editor.Side)
    (displacement : Editor.Displacement) :
    (ofShape (.displacement side displacement)).mapSides f =
      ofShape (.displacement (f side) displacement) := by
  have hdetail : (ofShape (.displacement side displacement)).isDetail =
      (ofShape (.displacement (f side) displacement)).isDetail := by
    rw [Bool.eq_iff_iff, isDetail_ofShape_iff, isDetail_ofShape_iff]
    exact iff_of_true ⟨_, _, rfl⟩ ⟨_, _, rfl⟩
  ext1
  · exact hdetail
  all_goals simp [mapSides]

/-- The planar sides of the brushes of the `i`-th entity, in order. -/
def Recovery.sidesAt (recovery : Recovery) (i : Nat) : List Editor.Side :=
  (recovery.brushesAt i).flatMap (·.sides)

namespace Level

variable (level : Level) (settings : Settings)

/-- What comes of a step : a side, or none. -/
def recoverStep : Step → Warned (Option Editor.Side)
  | .storedSide entity side place =>
    level.recoverSide settings (entity.origin.map widen) side place
  | .faceSide entity face =>
    some <$> level.recoverFaceSide settings face none (entity.origin.map widen)
  | .remarks warnings => ⟨none, warnings⟩

/-- The steps for the sides of a brush. -/
def sideSteps (entity : Properties) (sides : List BrushSide) : List Step :=
  sides.zipIdx.map fun (side, place) => .storedSide entity side place

/-- The steps of a special surface of a face. -/
def surfaceSteps (entity : Properties) (number : Nat) (face : Face) : Surface → List Step
  | .displacement index =>
    .remarks (warnMisplaced number .displacement).warnings ::
      match level.displacements[index]? with
      | some displacement =>
        [.faceSide entity face, .remarks (level.recoverDisplacement displacement).warnings]
      | none => [.remarks [.outOfRange TableName.displacements index level.displacements.size]]
  | .patch => [.remarks (level.recoverFacePatch face).warnings]
  | .terrain =>
    [.remarks ((warnMisplaced number .terrain).warnings
      ++ (level.recoverFaceTerrain face).warnings)]

/-- The steps of an origin, in order. -/
def steps : Origin → List Step
  | .solid (use, span) => sideSteps use.entity (span.read level.brushSides)
  | .surface entity number face surface => level.surfaceSteps entity number face surface
  | .patch patch => [.remarks (level.recoverPatch patch).warnings]
  | .tile tile => [.remarks (level.recoverTile tile).warnings]
  | .missingModel number =>
    [.remarks [.outOfRange TableName.models number level.models.size]]

/-- The steps of a level, in order. -/
def allSteps : List Step :=
  level.origins.flatMap level.steps

/-- The planar brush of a build, with sides. -/
def solidOver (build : BrushUse × Span) (sides : List Editor.Side) : Editor.Brush where
  isDetail := level.isDetail build.1.brush
  isWater := level.isWater build.1.brush || build.1.entity.isWater
  isManualVis := level.isManualVis build.1.brush
  shape := .sides sides

variable {level settings}

theorem value_recoverBuild (build : BrushUse × Span) :
    (level.recoverBuild settings build).value = level.solidOver build
      ((level.steps (.solid build)).filterMap fun step =>
        (level.recoverStep settings step).value) := by
  simp only [recoverBuild, recoverSolid, recoverBrush, Warned.value_bind, Warned.value_pure,
    Warned.value_forEach, solidOver, steps, sideSteps, List.filterMap_map]
  rfl

theorem warnings_recoverBuild (build : BrushUse × Span) :
    (level.recoverBuild settings build).warnings =
      (level.steps (.solid build)).flatMap fun step =>
        (level.recoverStep settings step).warnings := by
  simp only [recoverBuild, recoverSolid, recoverBrush, Warned.warnings_bind,
    Warned.warnings_pure, Warned.warnings_forEach, steps, sideSteps, List.flatMap_map,
    List.append_nil]
  rfl

/-- The warnings of an origin are those of its steps, in order. -/
theorem warnings_recoverOrigin (settings : Settings) (origin : Origin) :
    (level.recoverOrigin settings origin).warnings = (level.steps origin).flatMap fun step =>
      (level.recoverStep settings step).warnings := by
  cases origin with
  | solid build => exact (Warned.warnings_map ..).trans (warnings_recoverBuild build)
  | surface entity number face surface =>
    cases surface with
    | displacement index =>
      cases h : level.displacements[index]? <;>
        simp [recoverOrigin, recoverSurface, steps, surfaceSteps, recoverStep, h]
    | _ => simp [recoverOrigin, recoverSurface, steps, surfaceSteps, recoverStep]
  | patch patch => simp [recoverOrigin, recoverPatchBrush, steps, recoverStep]
  | tile tile => simp [recoverOrigin, recoverTileBrush, steps, recoverStep]
  | missingModel number => rfl

/-- The sides that come of an origin are those that come of its steps, in order. -/
theorem sides_recoverOrigin (settings : Settings) (origin : Origin) :
    (level.recoverOrigin settings origin).value.toList.flatMap (·.sides) =
      (level.steps origin).filterMap fun step => (level.recoverStep settings step).value := by
  cases origin with
  | solid build =>
    rw [value_recoverOrigin_solid, value_recoverBuild, Option.toList_some,
      List.flatMap_singleton]
    rfl
  | surface entity number face surface =>
    cases surface with
    | displacement index =>
      cases h : level.displacements[index]? <;>
        simp [recoverOrigin, recoverSurface, steps, surfaceSteps, recoverStep, h,
          Editor.Brush.sides]
    | _ =>
      simp [recoverOrigin, recoverSurface, steps, surfaceSteps, recoverStep, Editor.Brush.sides]
  | patch patch => simp [recoverOrigin, recoverPatchBrush, steps, recoverStep, Editor.Brush.sides]
  | tile tile => simp [recoverOrigin, recoverTileBrush, steps, recoverStep, Editor.Brush.sides]
  | missingModel number => rfl

/-- Apart from its sides, what comes of an origin is the same however they are
recovered. -/
theorem mapSides_recoverOrigin {settings' : Settings} {f : Editor.Side → Editor.Side}
    {origin : Origin} (h : ∀ step ∈ level.steps origin,
      (level.recoverStep settings' step).value.map f =
        (level.recoverStep settings step).value.map f) :
    (level.recoverOrigin settings' origin).value.map (·.mapSides f) =
      (level.recoverOrigin settings origin).value.map (·.mapSides f) := by
  cases origin with
  | solid build =>
    have hsides : ((level.steps (.solid build)).filterMap fun step =>
          (level.recoverStep settings' step).value).map f =
        ((level.steps (.solid build)).filterMap fun step =>
          (level.recoverStep settings step).value).map f := by
      rw [List.map_filterMap, List.map_filterMap]
      exact List.filterMap_congr h
    simp only [value_recoverOrigin_solid, value_recoverBuild, Option.map_some, solidOver,
      Editor.Brush.mapSides, hsides]
  | surface entity number face surface =>
    cases surface with
    | displacement index =>
      cases hd : level.displacements[index]? with
      | none => simp [recoverOrigin, recoverSurface, hd]
      | some displacement =>
        have hside := h (.faceSide entity face) (by simp [steps, surfaceSteps, hd])
        simp only [recoverStep, Warned.value_map, Option.map_some, Option.some.injEq] at hside
        simp [recoverOrigin, recoverSurface, hd, Editor.Brush.mapSides_ofShape, hside]
    | _ => rfl
  | _ => rfl

/-! ## The steps of a level -/

/-- The steps of the brushes that the `i`-th entity ends with. -/
def stepsAt (level : Level) (settings : Settings) (i : Nat) : List Step :=
  (level.brushOriginsAt settings i).flatMap level.steps

/-- The sides that come of origins are those that come of their steps, in order. -/
theorem flatMap_sides_recoverOrigin (settings : Settings) (origins : List Origin) :
    (origins.filterMap fun origin => (level.recoverOrigin settings origin).value).flatMap
        (·.sides) =
      (origins.flatMap level.steps).filterMap fun step =>
        (level.recoverStep settings step).value := by
  rw [List.filterMap_eq_flatMap_toList, List.flatMap_assoc, List.filterMap_flatMap]
  exact List.flatMap_congr fun origin _ => sides_recoverOrigin settings origin

/-- The sides of the `i`-th entity are those that come of its steps, in order. -/
theorem sidesAt_recover (level : Level) (settings : Settings) (i : Nat) :
    (level.recover settings).sidesAt i = (level.stepsAt settings i).filterMap fun step =>
      (level.recoverStep settings step).value := by
  rw [Recovery.sidesAt, brushesAt_recover, flatMap_sides_recoverOrigin, stepsAt]

/-- Wherever they are, the sides of a level are those that come of its steps. -/
theorem perm_sides_recover (level : Level) (settings : Settings) :
    ((level.recover settings).entities.flatMap fun entity =>
        entity.brushes.flatMap (·.sides)).Perm
      (level.allSteps.filterMap fun step => (level.recoverStep settings step).value) := by
  rw [← List.flatMap_assoc, allSteps, ← flatMap_sides_recoverOrigin]
  exact (perm_brushes_origins settings).flatMap_right _

/-- The warnings of a level are those of its steps, in order, and then those of its placed
objects. -/
theorem warnings_recover_steps (level : Level) (settings : Settings) :
    (level.recover settings).warnings =
      level.allSteps.flatMap (fun step => (level.recoverStep settings step).warnings)
        ++ level.recoverPlaced.warnings := by
  rw [warnings_recover, allSteps, List.flatMap_assoc]
  simp only [warnings_recoverOrigin]

end Level

end Brushwork
