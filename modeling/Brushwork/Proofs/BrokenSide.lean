import Brushwork.Proofs.Steps

/-!
# A broken side stays in its brushes

`replaceSide` puts another record in the place of one stored side, whatever it refers to.
The origins of the level and the way of their brushes to the entities stay the same
(`origins_replaceSide`, `brushOriginsAt_replaceSide`), and so does what comes of every origin
that does not read the side (`recoverOrigin_replaceSide`). In a brush that reads it, what
comes of the other stored sides stays the same, each in its place
(`sideResults_replaceSide`). `recover_replaceSide` compares the two recoveries of the level.
-/

namespace Brushwork

/-! ## Reading a table with one entry replaced -/

section Read

variable {α : Type*} (s : Span) (table : Array α) {j : Nat} (a : α)

theorem Span.read_setIfInBounds_of_notMem (h : j ∉ s.positions) :
    s.read (table.setIfInBounds j a) = s.read table := by
  rw [Span.read_eq_filterMap, Span.read_eq_filterMap]
  refine List.filterMap_congr fun i hi => ?_
  have hne : j ≠ i := fun hij => h (hij ▸ hi)
  rw [Array.getElem?_setIfInBounds, if_neg hne]

theorem Span.read_setIfInBounds (h : j ∈ s.positions) :
    s.read (table.setIfInBounds j a) = (s.read table).set (j - s.start) a := by
  obtain ⟨hstart, hstop⟩ : s.start ≤ j ∧ j < s.stop := by
    have := List.mem_range'_1.1 h
    omega
  refine List.ext_getElem? fun i => ?_
  simp only [Span.read, Array.getElem?_toList, List.getElem?_set, Array.getElem?_extract,
    Array.getElem?_setIfInBounds, Array.length_toList, Array.size_extract,
    Array.size_setIfInBounds]
  grind

end Read

theorem map_zipIdx_set {α β : Type*} (f : α × Nat → β) (xs : List α) (i : Nat) (y : α) :
    (xs.set i y).zipIdx.map f = (xs.zipIdx.map f).set i (f (y, i)) := by
  refine List.ext_getElem? fun k => ?_
  simp only [List.getElem?_map, List.getElem?_zipIdx, List.getElem?_set, List.length_map,
    List.length_zipIdx]
  grind

namespace Editor.Shape

/-- What a shape is made of. -/
inductive Kind
  | sides
  | patch
  | faceTerrain
  | tileTerrain
  | displacement

def kind : Shape → Kind
  | sides _ => .sides
  | patch _ => .patch
  | faceTerrain _ => .faceTerrain
  | tileTerrain _ => .tileTerrain
  | displacement .. => .displacement

end Editor.Shape

namespace Level

variable (level : Level) (settings : Settings)

/-- The level with another record in the place of a stored side. -/
def replaceSide (j : Nat) (side : BrushSide) : Level :=
  { level with brushSides := level.brushSides.setIfInBounds j side }

/-- What comes of each of the stored sides of a build. -/
def sideResults (build : BrushUse × Span) : List (Warned (Option Editor.Side)) :=
  (build.2.read level.brushSides).zipIdx.map fun (side, place) =>
    level.recoverSide settings (build.1.entity.origin.map widen) side place

/-- The planar brush of a build with what comes of its stored sides. -/
def brushOver (build : BrushUse × Span) (results : List (Warned (Option Editor.Side))) :
    Warned (Option Editor.Brush) :=
  ⟨some (level.solidOver build (results.filterMap (·.value))), results.flatMap (·.warnings)⟩

variable {level settings}

theorem recoverOrigin_solid (build : BrushUse × Span) :
    level.recoverOrigin settings (.solid build) =
      level.brushOver build (level.sideResults settings build) := by
  apply Warned.ext_parts
  · rw [value_recoverOrigin_solid, value_recoverBuild, brushOver, sideResults, steps, sideSteps,
      List.filterMap_map, List.filterMap_map]
    rfl
  · rw [warnings_recoverOrigin, brushOver, sideResults, steps, sideSteps, List.flatMap_map,
      List.flatMap_map]
    rfl

variable (j : Nat) (side : BrushSide)

/-! ## What stays the same -/

theorem size_brushSides_replaceSide :
    (level.replaceSide j side).brushSides.size = level.brushSides.size :=
  Array.size_setIfInBounds

theorem buildsOf_replaceSide (cursor : Nat) (entities : List Properties) :
    (level.replaceSide j side).buildsOf cursor entities = level.buildsOf cursor entities := by
  have huses : (level.replaceSide j side).usesOf = level.usesOf := rfl
  simp only [buildsOf, huses, size_brushSides_replaceSide]

theorem originsAt_replaceSide (i : Nat) :
    (level.replaceSide j side).originsAt i = level.originsAt i := by
  have huses : (level.replaceSide j side).usesOf = level.usesOf := rfl
  have hcursor : (level.replaceSide j side).cursorBefore i = level.cursorBefore i := by
    simp only [cursorBefore, huses, size_brushSides_replaceSide]
    rfl
  have horigins : (level.replaceSide j side).originsBy = level.originsBy := by
    funext cursor entity
    rw [originsBy, buildsOf_replaceSide]
    rfl
  rw [originsAt, hcursor, horigins]
  rfl

theorem origins_replaceSide : (level.replaceSide j side).origins = level.origins := by
  have hat : (level.replaceSide j side).originsAt = level.originsAt :=
    funext (originsAt_replaceSide j side)
  rw [origins, hat]
  rfl

theorem brushOriginsAt_replaceSide (i : Nat) :
    (level.replaceSide j side).brushOriginsAt settings i = level.brushOriginsAt settings i := by
  rw [brushOriginsAt, originsAt_replaceSide, origins_replaceSide]
  rfl

theorem recoverOrigin_replaceSide {origin : Origin} (h : j ∉ origin.positions) :
    (level.replaceSide j side).recoverOrigin settings origin =
      level.recoverOrigin settings origin := by
  cases origin with
  | solid build =>
    have hread : build.2.read (level.replaceSide j side).brushSides =
        build.2.read level.brushSides := build.2.read_setIfInBounds_of_notMem _ side h
    rw [recoverOrigin_solid, recoverOrigin_solid, sideResults, hread]
    rfl
  | _ => rfl

/-- In a brush that reads the side, what comes of the other stored sides is the same. -/
theorem sideResults_replaceSide {build : BrushUse × Span} (h : j ∈ build.2.positions) :
    (level.replaceSide j side).sideResults settings build =
      (level.sideResults settings build).set (j - build.2.start)
        (level.recoverSide settings (build.1.entity.origin.map widen) side
          (j - build.2.start)) := by
  have hread : build.2.read (level.replaceSide j side).brushSides =
      (build.2.read level.brushSides).set (j - build.2.start) side :=
    build.2.read_setIfInBounds _ side h
  rw [sideResults, hread]
  exact map_zipIdx_set ..

theorem kind_recoverOrigin_replaceSide (origin : Origin) :
    ((level.replaceSide j side).recoverOrigin settings origin).value.map (·.shape.kind) =
      (level.recoverOrigin settings origin).value.map (·.shape.kind) := by
  cases origin with
  | solid build => rw [recoverOrigin_solid, recoverOrigin_solid]; rfl
  | _ => rfl

/-- The entities have as many brushes as before, of the same kinds. -/
theorem map_kind_brushesAt_replaceSide (i : Nat) :
    (((level.replaceSide j side).recover settings).brushesAt i).map (·.shape.kind) =
      ((level.recover settings).brushesAt i).map (·.shape.kind) := by
  have hkinds : ∀ level' : Level, (((level'.recover settings).brushesAt i).map
      (·.shape.kind)).map some = (level'.brushOriginsAt settings i).map fun origin =>
        (level'.recoverOrigin settings origin).value.map (·.shape.kind) := by
    intro level'
    have hsome := congrArg (List.map (Option.map fun brush => brush.shape.kind))
      (map_some_brushesAt_recover level' settings i)
    rw [List.map_map, List.map_map] at hsome
    rw [List.map_map]
    exact hsome
  refine List.map_injective_iff.2 (Option.some_injective _) ?_
  rw [hkinds, hkinds, brushOriginsAt_replaceSide]
  exact List.map_congr_left fun origin _ => kind_recoverOrigin_replaceSide j side origin

/-! ## The two recoveries of a level -/

/-- Replacing a stored side changes nothing but the brushes that read it. The entities have
the same properties and brushes of the same kinds. Every brush comes in both recoveries of
the same origin, and is the same unless the origin reads the side. The warnings are those of
the origins in the same order, the same for each that does not read the side. And a brush
that reads it is changed only in what comes of the side in its place. -/
theorem recover_replaceSide (level : Level) (settings : Settings) (j : Nat)
    (side : BrushSide) :
    let broken := level.replaceSide j side
    let before := level.recover settings
    let after := broken.recover settings
    after.entities.map (·.properties) = before.entities.map (·.properties) ∧
    (∀ i, (after.brushesAt i).map (·.shape.kind) = (before.brushesAt i).map (·.shape.kind)) ∧
    (∀ i,
      (before.brushesAt i).map some = (level.brushOriginsAt settings i).map
        (fun origin => (level.recoverOrigin settings origin).value) ∧
      (after.brushesAt i).map some = (level.brushOriginsAt settings i).map
        (fun origin => (broken.recoverOrigin settings origin).value)) ∧
    before.warnings = level.origins.flatMap
      (fun origin => (level.recoverOrigin settings origin).warnings)
      ++ level.recoverPlaced.warnings ∧
    after.warnings = level.origins.flatMap
      (fun origin => (broken.recoverOrigin settings origin).warnings)
      ++ level.recoverPlaced.warnings ∧
    (∀ origin, j ∉ origin.positions →
      broken.recoverOrigin settings origin = level.recoverOrigin settings origin) ∧
    ∀ build : BrushUse × Span, j ∈ build.2.positions →
      let place := j - build.2.start
      let results := level.sideResults settings build
      level.recoverOrigin settings (.solid build) = level.brushOver build results ∧
      broken.recoverOrigin settings (.solid build) = level.brushOver build (results.set place
        (level.recoverSide settings (build.1.entity.origin.map widen) side place)) := by
  intro broken before after
  refine ⟨?_, map_kind_brushesAt_replaceSide j side, fun i => ⟨?_, ?_⟩,
    warnings_recover level settings, ?_, fun origin h => recoverOrigin_replaceSide j side h, ?_⟩
  · exact (map_properties_recover broken settings).trans
      (map_properties_recover level settings).symm
  · exact map_some_brushesAt_recover level settings i
  · rw [map_some_brushesAt_recover, brushOriginsAt_replaceSide]
  · rw [warnings_recover, origins_replaceSide]
    rfl
  · intro build h place results
    refine ⟨recoverOrigin_solid build, ?_⟩
    rw [recoverOrigin_solid, sideResults_replaceSide j side h]
    rfl

end Level

end Brushwork
