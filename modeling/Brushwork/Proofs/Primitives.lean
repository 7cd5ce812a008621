import Mathlib.Data.List.Forall2
import Brushwork.Proofs.Warnings

/-!
# The brushes of an entity

An entity with a model has a brush for every primitive of the model, in the order of the
model's tables : the planar brushes, the patches, the special surfaces of the faces and,
for the world, the terrain tiles. `primitives_recoverEntity` says which brush every
primitive becomes, which list it goes to, and which warnings its place in the level raises.

A planar brush is made of the sides at the positions that the cursor gives it
(`IsSolidOf`). A special surface becomes the brush of the kind its face names
(`surfaceBrush?`), or none where a displacement does not exist; that the entity warns of
it and of a surface in the wrong model is `placeWarnings`.
-/

namespace Brushwork

open Warned

namespace Warning

/-- The warning is about a surface that only the world should have. -/
def isMisplaced : Warning → Bool
  | misplacedSurface .. => true
  | _ => false

/-- The warning is about a reference into a table. -/
def isOutOfRangeIn (table : String) : Warning → Bool
  | outOfRange t _ _ => t == table
  | _ => false

theorem IsOfPrimitive.isMisplaced_eq_false {w : Warning} (h : w.IsOfPrimitive) :
    w.isMisplaced = false := by
  cases w with
  | misplacedSurface surface model => exact h.elim
  | _ => rfl

theorem IsOfPrimitive.isOutOfRangeIn_displacements {w : Warning} (h : w.IsOfPrimitive) :
    w.isOutOfRangeIn TableName.displacements = false := by
  cases w with
  | outOfRange table index size =>
    rcases h with rfl | rfl <;> rfl
  | _ => rfl

end Warning

/-- The surface of the world that a face is, if it is one. -/
def Face.worldSurface? (face : Face) (family : Family) : Option WorldSurface :=
  (face.surface? family).bind fun
    | .displacement _ => some .displacement
    | .patch => none
    | .terrain => some .terrain

/-- A face is a displacement exactly if it refers to one. -/
theorem Face.surface?_of_displacement {face : Face} {index : Nat} (family : Family)
    (h : face.displacement = some index) :
    face.surface? family = some (.displacement index) := by
  simp only [surface?, h]

theorem Face.displacement_of_surface? {face : Face} {family : Family} {index : Nat}
    (h : face.surface? family = some (.displacement index)) :
    face.displacement = some index := by
  unfold surface? at h
  cases hd : face.displacement with
  | some i => simpa [hd] using h
  | none =>
    rw [hd] at h
    dsimp only at h
    split_ifs at h <;> simp at h

namespace Level

variable (level : Level) (settings : Settings) (entity : Properties)

/-! ## What a primitive becomes -/

/-- The sides of a brush whose stored sides are at the positions of a span. -/
def sidesIn (span : Span) : List Editor.Side :=
  (span.read level.brushSides).zipIdx.filterMap fun (side, index) =>
    (level.recoverSide settings (entity.origin.map widen) side index).value

/-- What a stored brush with located sides becomes : a brush of planar sides with the
properties of what it contains. An entity of water makes it water. -/
structure IsSolidOf (located : Brush × Span) (made : Editor.Brush) : Prop where
  shape : made.shape = .sides (level.sidesIn settings entity located.2)
  isDetail : made.isDetail = level.isDetail located.1
  isManualVis : made.isManualVis = level.isManualVis located.1
  isWater : made.isWater =
    (level.isWater located.1 || entity.classname? == some waterClass)

/-- The brush of a special surface of a face : none for a displacement that does not
exist. -/
def surfaceBrush? (face : Face) : Surface → Option Editor.Brush
  | .displacement index => (level.displacements[index]?).map fun displacement =>
    .ofShape (.displacement
      (level.recoverFaceSide settings face none (entity.origin.map widen)).value
      (level.recoverDisplacement displacement).value)
  | .patch => some (.ofShape (.patch (level.recoverFacePatch face).value))
  | .terrain => some (.ofShape (.faceTerrain (level.recoverFaceTerrain face).value))

/-- What the entity that holds the model with a number warns of about a surface : that it
is in the wrong model, and that its displacement does not exist. -/
def placeWarnings (number : Nat) : Surface → List Warning
  | .displacement index =>
    (if number = 0 then [] else [.misplacedSurface .displacement number])
      ++ if index < level.displacements.size then []
        else [.outOfRange TableName.displacements index level.displacements.size]
  | .patch => []
  | .terrain => if number = 0 then [] else [.misplacedSurface .terrain number]

variable {level settings entity} {number : Nat} {model : Model}

theorem isSolidOf_recoverSolid (brush : Brush) (span : Span) :
    level.IsSolidOf settings entity (brush, span)
      (level.recoverSolid settings entity brush span).value where
  shape := by
    simp only [recoverSolid, recoverBrush, value_bind, value_pure, value_forEach, sidesIn,
      List.filterMap_map]
    rfl
  isDetail := rfl
  isManualVis := rfl
  isWater := rfl

theorem value_recoverSurface (number : Nat) (face : Face) (surface : Surface) :
    (level.recoverSurface settings entity number face surface).value =
      level.surfaceBrush? settings entity face surface := by
  cases surface with
  | displacement index =>
    simp only [recoverSurface, surfaceBrush?, value_bind]
    cases level.displacements[index]? with
    | some displacement => rfl
    | none => rfl
  | patch => rfl
  | terrain => rfl

/-! ## Warnings about the place of a surface -/

theorem warnings_warnMisplaced (number : Nat) (surface : WorldSurface) :
    (warnMisplaced number surface).warnings =
      if number = 0 then [] else [.misplacedSurface surface number] := by
  rw [warnMisplaced, warnings_warnIf]
  by_cases h : number = 0 <;> simp [h]

/-- Of the warnings about a surface, those that the surface's own recovery does not raise
are about its place. -/
theorem filter_warnings_recoverSurface {q : Warning → Bool}
    (hq : ∀ w, w.IsOfPrimitive → q w = false) (number : Nat) (face : Face)
    (surface : Surface) :
    (level.recoverSurface settings entity number face surface).warnings.filter q =
      (level.placeWarnings number surface).filter q := by
  cases surface with
  | displacement index =>
    simp only [recoverSurface, placeWarnings, warnings_bind, List.filter_append,
      warnings_warnMisplaced]
    congr 1
    cases h : level.displacements[index]? with
    | some displacement =>
      rw [if_pos (Array.getElem?_eq_some_iff.1 h).1]
      refine Raises.filter_eq_nil ?_ hq
      have hside := level.raises_recoverFaceSide settings face none (entity.origin.map widen)
      have hdisplaced := (level.raises_recoverDisplacement displacement).mono (·.isOfPrimitive)
      exact hside.bind (hdisplaced.bind (raises_pure _))
    | none =>
      rw [if_neg (Nat.not_lt.2 (Array.getElem?_eq_none_iff.1 h))]
      rfl
  | patch =>
    exact ((level.raises_recoverFacePatch face).bind (raises_pure _)).filter_eq_nil
      fun w hw => hq w hw.isOfPrimitive
  | terrain =>
    rw [recoverSurface, warnings_bind, List.filter_append, warnings_warnMisplaced,
      placeWarnings]
    have hterrain := ((level.raises_recoverFaceTerrain face).bind (raises_pure _)).filter_eq_nil
      fun w hw => hq w hw.isOfPrimitive
    exact (congrArg (_ ++ ·) hterrain).trans (List.append_nil _)

/-! ## What is recovered of a model -/

/-- The surface brushes of a model : patches, special surfaces of faces, terrain tiles. -/
theorem filterMap_value_recoverSurfaces (number : Nat) (model : Model) :
    (level.recoverSurfaces settings entity number model).filterMap (·.value) =
      (level.patchesOf model).map (fun patch => .ofShape (.patch (level.recoverPatch patch).value))
        ++ (level.facesOf model).filterMap (fun face =>
          (face.surface? level.family).bind (level.surfaceBrush? settings entity face))
        ++ (if number = 0 then level.terrainTiles.toList.map
          (fun tile => .ofShape (.tileTerrain (level.recoverTile tile).value)) else []) := by
  have hpatch : ∀ patch, (level.recoverPatchBrush patch).value =
      some (.ofShape (.patch (level.recoverPatch patch).value)) := fun _ => rfl
  have htile : ∀ tile, (level.recoverTileBrush tile).value =
      some (.ofShape (.tileTerrain (level.recoverTile tile).value)) := fun _ => rfl
  simp only [recoverSurfaces, surfacesOf, List.filterMap_append, List.filterMap_map,
    List.filterMap_filterMap, Function.comp_def, hpatch, htile, value_recoverSurface,
    List.filterMap_eq_map']
  congr 1
  · congr 2
    funext face
    cases face.surface? level.family <;> rfl
  · unfold tilesOf
    split <;> rfl

/-- Going through the special surfaces of a model is going through its faces. -/
theorem flatMap_surfacesOf {β : Type*} (f : Surface → List β) (model : Model) :
    (level.surfacesOf model).flatMap (fun special => f special.2) =
      (level.facesOf model).flatMap fun face =>
        (face.surface? level.family).toList.flatMap f := by
  rw [surfacesOf, List.filterMap_eq_flatMap_toList, List.flatMap_assoc]
  refine List.flatMap_congr fun face _ => ?_
  cases face.surface? level.family <;> rfl

theorem raises_recoverSolid (brush : Brush) (span : Span) :
    (level.recoverSolid settings entity brush span).Raises Warning.IsOfPrimitive :=
  (level.raises_recoverBrush settings _ brush _).bind (raises_pure _)

/-- Of the warnings raised for an entity with a model, those that no primitive's own
recovery raises are about the places of the special surfaces of its faces. -/
theorem filter_warnings_recoverModel {q : Warning → Bool}
    (hq : ∀ w, w.IsOfPrimitive → q w = false) (cursor number : Nat) (model : Model) :
    (level.recoverModel settings cursor entity number model).1.warnings.filter q =
      (level.facesOf model).flatMap fun face => (face.surface? level.family).toList.flatMap
        fun surface => (level.placeWarnings number surface).filter q := by
  have hnone : ∀ {α : Type} (xs : List α), xs.flatMap (fun _ => ([] : List Warning)) = [] :=
    fun xs => List.flatMap_eq_nil_iff.2 fun _ _ => rfl
  have hsolid : ∀ brush span,
      (level.recoverSolid settings entity brush span).warnings.filter q = [] :=
    fun brush span => (raises_recoverSolid brush span).filter_eq_nil hq
  have hpatch : ∀ patch, (level.recoverPatchBrush patch).warnings.filter q = [] :=
    fun patch => ((level.raises_recoverPatch patch).bind (raises_pure _)).filter_eq_nil
      fun w hw => hq w hw.isOfPrimitive
  have htile : ∀ tile, (level.recoverTileBrush tile).warnings.filter q = [] :=
    fun tile => ((level.raises_recoverTile tile).bind (raises_pure _)).filter_eq_nil
      fun w hw => hq w hw.isOfPrimitive
  simp only [recoverModel, Recovered.warnings, recoverSurfaces, List.flatMap_append,
    List.flatMap_map, List.filter_append, List.filter_flatMap, hsolid, hpatch, htile,
    filter_warnings_recoverSurface hq, hnone, List.nil_append, List.append_nil]
  exact flatMap_surfacesOf (fun surface => (level.placeWarnings number surface).filter q) model

/-- A face has its place warned of once if only the world should have it. -/
theorem filter_isMisplaced_placeWarnings (number : Nat) (face : Face) :
    ((face.surface? level.family).toList.flatMap fun surface =>
      (level.placeWarnings number surface).filter Warning.isMisplaced) =
      if number = 0 then []
      else ((face.worldSurface? level.family).map (.misplacedSurface · number)).toList := by
  unfold Face.worldSurface?
  cases face.surface? level.family with
  | none => split <;> rfl
  | some surface =>
    cases surface with
    | displacement index =>
      by_cases hn : number = 0 <;> by_cases hi : index < level.displacements.size <;>
        simp [placeWarnings, hn, hi, List.filter_cons, Warning.isMisplaced]
    | patch => split <;> rfl
    | terrain => by_cases hn : number = 0 <;> simp [placeWarnings, hn, Warning.isMisplaced]

/-- A face is warned of once if its displacement does not exist. -/
theorem filter_isOutOfRangeIn_placeWarnings (number : Nat) (face : Face) :
    ((face.surface? level.family).toList.flatMap fun surface =>
      (level.placeWarnings number surface).filter
        (·.isOutOfRangeIn TableName.displacements)) =
      (face.displacement.toList.filter (level.displacements.size ≤ ·)).map
        (.outOfRange TableName.displacements · level.displacements.size) := by
  cases hd : face.displacement with
  | some index =>
    rw [Face.surface?_of_displacement level.family hd]
    by_cases hn : number = 0 <;> by_cases hi : index < level.displacements.size <;>
      simp [placeWarnings, hn, hi, Warning.isOutOfRangeIn, Nat.not_le.2, Nat.not_lt.1]
  | none =>
    cases hs : face.surface? level.family with
    | none => rfl
    | some surface =>
      cases surface with
      | displacement index =>
        rw [Face.displacement_of_surface? hs] at hd
        cases hd
      | patch => rfl
      | terrain =>
        by_cases hn : number = 0 <;> simp [placeWarnings, hn, Warning.isOutOfRangeIn]

/-! ## What is recovered of an entity -/

/-- The brushes of an entity with a model are those of the primitives of its model, each
once and in order : the planar brushes, which go to the world if brushes are merged and
the model is not the world's, and then the patches, the special surfaces of the faces and,
for the world, the terrain tiles. Only the world has surfaces of the world without a
warning, and a displacement that does not exist is warned of in place of its brush. -/
theorem primitives_recoverEntity (level : Level) (settings : Settings) (cursor : Nat)
    (merge : Bool) {entity : Properties} {number : Nat} {model : Model}
    (hnumber : entity.modelNumber? = some number)
    (hmodel : level.models[number]? = some model) :
    let recovered := (level.recoverEntity settings cursor entity).1
    let located := (locateSides level.brushSides.size cursor (level.brushesOf model)).1
    located.map Prod.fst = level.brushesOf model ∧
    ∃ solids, List.Forall₂ (level.IsSolidOf settings entity) located solids ∧
      recovered.worldBrushes merge = (if merge ∧ number ≠ 0 then solids else []) ∧
      recovered.ownBrushes merge = (if merge ∧ number ≠ 0 then [] else solids)
        ++ (level.patchesOf model).map
          (fun patch => .ofShape (.patch (level.recoverPatch patch).value))
        ++ (level.facesOf model).filterMap (fun face =>
          (face.surface? level.family).bind (level.surfaceBrush? settings entity face))
        ++ (if number = 0 then level.terrainTiles.toList.map
          (fun tile => .ofShape (.tileTerrain (level.recoverTile tile).value)) else []) ∧
      recovered.warnings.filter Warning.isMisplaced =
        (if number = 0 then []
        else ((level.facesOf model).filterMap (·.worldSurface? level.family)).map
          (.misplacedSurface · number)) ∧
      recovered.warnings.filter (·.isOutOfRangeIn TableName.displacements) =
        (((level.facesOf model).filterMap (·.displacement)).filter
          (level.displacements.size ≤ ·)).map
            (.outOfRange TableName.displacements · level.displacements.size) := by
  intro recovered located
  have hrecovered : recovered = (level.recoverModel settings cursor entity number model).1 :=
    congrArg Prod.fst
      (recoverEntity_of_model settings cursor (modelOf?_eq_some_iff.2 ⟨hnumber, hmodel⟩))
  have hmoves : recovered.movesSolids merge = decide (merge ∧ number ≠ 0) := by
    rw [hrecovered]
    cases merge <;> simp [recoverModel, Recovered.movesSolids]
  refine ⟨map_fst_locateSides .., recovered.solidBrushes, ?_, ?_, ?_, ?_, ?_⟩
  · rw [hrecovered, Recovered.solidBrushes, recoverModel, List.map_map,
      List.forall₂_map_right_iff, List.forall₂_same]
    exact fun solid _ => isSolidOf_recoverSolid solid.1 solid.2
  · rw [Recovered.worldBrushes, hmoves]
    simp only [decide_eq_true_eq]
  · have hsurfaces : recovered.surfaceBrushes =
        (level.recoverSurfaces settings entity number model).filterMap (·.value) := by
      rw [hrecovered]
      rfl
    rw [Recovered.ownBrushes, hmoves, hsurfaces, filterMap_value_recoverSurfaces]
    simp only [decide_eq_true_eq, List.append_assoc]
    split <;> rfl
  · rw [hrecovered, filter_warnings_recoverModel fun w hw => hw.isMisplaced_eq_false]
    simp only [filter_isMisplaced_placeWarnings]
    split
    · exact List.flatMap_eq_nil_iff.2 fun _ _ => rfl
    · rw [List.map_filterMap, List.filterMap_eq_flatMap_toList]
  · rw [hrecovered,
      filter_warnings_recoverModel fun w hw => hw.isOutOfRangeIn_displacements]
    simp only [filter_isOutOfRangeIn_placeWarnings]
    rw [List.filterMap_eq_flatMap_toList, List.filter_flatMap, List.map_flatMap]

/-- A level whose second model has a brush and two faces : a displacement that does not
exist, and a patch. -/
def lock : Level where
  family := .quake3
  models := #[default, ⟨⟨0, 1⟩, ⟨0, 2⟩, ⟨0, 0⟩⟩]
  brushes := #[default]
  faces := #[{ (default : Face) with displacement := some 4 },
    { (default : Face) with flags := Face.patchKind }]

/-- The water of the lock. -/
def lockWater : Properties :=
  ⟨[("classname", "func_water"), ("model", "*1")], by decide⟩

/-- The brush of the lock goes to the world as water, and its displacement is warned of
twice : it is not in the world, and it does not exist. -/
theorem primitives_recoverEntity_lock :
    lockWater.modelNumber? = some 1 ∧
    lock.models[1]? = some ⟨⟨0, 1⟩, ⟨0, 2⟩, ⟨0, 0⟩⟩ ∧
    let recovered := (lock.recoverEntity {} 0 lockWater).1
    (∃ solid, recovered.worldBrushes true = [solid] ∧ solid.isWater = true) ∧
    recovered.warnings.filter Warning.isMisplaced = [.misplacedSurface .displacement 1] ∧
    recovered.warnings.filter (·.isOutOfRangeIn TableName.displacements) =
      [.outOfRange TableName.displacements 4 0] := by
  have hnumber : lockWater.modelNumber? = some 1 := by decide
  have hmodel : lock.models[1]? = some ⟨⟨0, 1⟩, ⟨0, 2⟩, ⟨0, 0⟩⟩ := rfl
  obtain ⟨-, solids, hsolids, hworld, -, hmisplaced, hdangling⟩ :=
    primitives_recoverEntity lock {} 0 true hnumber hmodel
  obtain ⟨solid, rest, hsolid, hrest, rfl⟩ := List.forall₂_cons_left_iff.1 hsolids
  obtain rfl := List.forall₂_nil_left_iff.1 hrest
  refine ⟨hnumber, hmodel, ⟨solid, hworld, hsolid.isWater.trans ?_⟩, hmisplaced, hdangling⟩
  decide

end Level

end Brushwork
