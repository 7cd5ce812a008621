import Brushwork.Proofs.Steps

/-!
# Missing planes

A side whose plane cannot be found gets the zero plane, with a warning. If the planes that
are stored describe something, there is no other way to a side with a zero normal : as many
sides of a recovery have one as there are warnings of a missing plane
(`countP_isMissingPlane_recover`). Both are counted step by step. A step that gives a side
looks a plane up once, and the side keeps what was found (`countP_recoverStep`); a step that
gives none warns of no plane.
-/

namespace Brushwork

open Warned

theorem Warned.Raises.countP_isMissingPlane {α : Type*} {x : Warned α}
    (h : x.Raises Warning.IsBesidePlanes) :
    x.warnings.countP Warning.isMissingPlane = 0 := by
  rw [List.countP_eq_zero]
  intro w hw
  rw [(h w hw).2]
  exact Bool.false_ne_true

/-- The planes of box sides describe something. -/
theorem isDegenerate_boxSide (side : Fin 6) (bound : Float32) :
    (Plane.boxSide side bound).isDegenerate = false := by
  have hnormal : ∀ side : Fin 6,
      (Plane.boxNormal side : Vec3 Float32).sameAs .zero = false := by decide
  exact hnormal side

theorem isDegenerate_zero : (Plane.zero : Plane Float32).isDegenerate = true := by
  decide

/-- The sides of a recovery that have a plane with a zero normal. -/
def Recovery.degenerateSides (recovery : Recovery) : List Editor.Side :=
  (recovery.entities.flatMap fun entity => entity.brushes.flatMap (·.sides)).filter
    (·.plane.isDegenerate)

/-- As many sides have a plane with a zero normal as there are warnings of a missing
plane. -/
def Warned.TalliesPlanes (x : Warned (Option Editor.Side)) : Prop :=
  x.warnings.countP Warning.isMissingPlane = x.value.toList.countP (·.plane.isDegenerate)

namespace Level

variable {level : Level} {settings : Settings}

/-! ## What looks up no plane -/

theorem countP_warnMisplaced (number : Nat) (surface : WorldSurface) :
    (warnMisplaced number surface).warnings.countP Warning.isMissingPlane = 0 := by
  rw [warnings_warnMisplaced]
  split <;> rfl

theorem countP_recoverPlaced :
    level.recoverPlaced.warnings.countP Warning.isMissingPlane = 0 := by
  simp only [recoverPlaced, recoverProp, warnings_bind, warnings_pure, warnings_forEach,
    warnings_warnIf, List.append_nil, List.countP_flatMap]
  refine List.sum_eq_zero fun n hn => ?_
  obtain ⟨prop, -, rfl⟩ := List.mem_map.1 hn
  dsimp only [Function.comp_apply]
  split <;> rfl

/-- A step that gives no side warns of no plane. -/
theorem countP_of_remarks_mem_steps {origin : Origin} {warnings : List Warning}
    (h : .remarks warnings ∈ level.steps origin) :
    warnings.countP Warning.isMissingPlane = 0 := by
  cases origin with
  | solid build => simp [steps, sideSteps] at h
  | surface entity number face surface =>
    cases surface with
    | displacement index =>
      simp only [steps, surfaceSteps, List.mem_cons, Step.remarks.injEq] at h
      obtain rfl | h := h
      · exact countP_warnMisplaced ..
      cases hd : level.displacements[index]? with
      | some displacement =>
        simp only [hd, List.mem_cons, Step.remarks.injEq, reduceCtorEq, List.not_mem_nil,
          false_or, or_false] at h
        exact h ▸ (level.raises_recoverDisplacement displacement).countP_isMissingPlane
      | none =>
        simp only [hd, List.mem_singleton, Step.remarks.injEq] at h
        exact h ▸ rfl
    | patch =>
      obtain rfl := Step.remarks.inj (List.mem_singleton.1 h)
      exact (level.raises_recoverFacePatch face).countP_isMissingPlane
    | terrain =>
      obtain rfl := Step.remarks.inj (List.mem_singleton.1 h)
      rw [List.countP_append, countP_warnMisplaced, Nat.zero_add]
      exact (level.raises_recoverFaceTerrain face).countP_isMissingPlane
  | patch patch =>
    obtain rfl := Step.remarks.inj (List.mem_singleton.1 h)
    exact (level.raises_recoverPatch patch).countP_isMissingPlane
  | tile tile =>
    obtain rfl := Step.remarks.inj (List.mem_singleton.1 h)
    exact (level.raises_recoverTile tile).countP_isMissingPlane
  | missingModel number =>
    obtain rfl := Step.remarks.inj (List.mem_singleton.1 h)
    rfl

/-! ## What looks up one -/

section Tally

variable (hplanes : ∀ plane ∈ level.planes.toList, plane.isDegenerate = false)

include hplanes

/-- A plane is missing exactly if what is found describes nothing. -/
theorem countP_planeOrZero (reference : Option Nat) :
    (level.planeOrZero reference).warnings.countP Warning.isMissingPlane =
      if (level.planeOrZero reference).value.isDegenerate then 1 else 0 := by
  unfold planeOrZero
  cases hplane : level.plane? reference with
  | none =>
    rw [value_replacing, isDegenerate_zero]
    rfl
  | some plane =>
    obtain ⟨index, -, hindex⟩ := Option.bind_eq_some_iff.1 hplane
    rw [← Array.getElem?_toList] at hindex
    rw [value_pure, hplanes plane (List.mem_of_getElem? hindex)]
    rfl

theorem countP_barePlane (side : BrushSide) (place : Nat) :
    (level.barePlane side place).warnings.countP Warning.isMissingPlane =
      if (level.barePlane side place).value.isDegenerate then 1 else 0 := by
  unfold barePlane
  split
  · split
    · rw [value_pure, isDegenerate_boxSide]
      rfl
    · exact countP_planeOrZero hplanes side.plane
  · exact countP_planeOrZero hplanes side.plane

theorem talliesPlanes_recoverFaceSide (face : Face) (sidePlane : Option Nat)
    (origin : Vec3 Float) :
    (some <$> level.recoverFaceSide settings face sidePlane origin).TalliesPlanes := by
  have hplane : (level.recoverFaceSide settings face sidePlane origin).value.plane =
      (level.planeOrZero (face.plane.or sidePlane)).value := rfl
  rw [TalliesPlanes, warnings_map, value_map, Option.toList_some, List.countP_singleton, hplane,
    ← countP_planeOrZero hplanes]
  simp only [recoverFaceSide, warnings_bind, warnings_pure, List.countP_append,
    List.countP_nil, (level.raises_faceTextureName settings face).countP_isMissingPlane,
    (level.raises_pointsOf face sidePlane).countP_isMissingPlane,
    (level.raises_projectionOf face).countP_isMissingPlane,
    (level.raises_materialOf face).countP_isMissingPlane, Nat.add_zero, Nat.zero_add]

theorem talliesPlanes_recoverBareSide (side : BrushSide) (place : Nat) (origin : Vec3 Float) :
    (some <$> level.recoverBareSide side place origin).TalliesPlanes := by
  have hplane : (level.recoverBareSide side place origin).value.plane =
      (level.barePlane side place).value := rfl
  rw [TalliesPlanes, warnings_map, value_map, Option.toList_some, List.countP_singleton, hplane,
    ← countP_barePlane hplanes]
  simp only [recoverBareSide, warnings_bind, warnings_pure, List.countP_append,
    List.countP_nil, (level.raises_bareTexture side).countP_isMissingPlane, Nat.add_zero]

theorem talliesPlanes_recoverSide (origin : Vec3 Float) (side : BrushSide) (place : Nat) :
    (level.recoverSide settings origin side place).TalliesPlanes := by
  have hbare := talliesPlanes_recoverBareSide hplanes side place origin
  unfold recoverSide
  split
  · rfl
  · cases side.face with
    | none => exact hbare
    | some reference =>
      dsimp only
      cases level.faces[reference]? with
      | none =>
        -- The warning about the face comes before those of the side.
        rw [TalliesPlanes, warnings_bind, List.countP_append, value_bind, ← hbare]
        exact Nat.zero_add _
      | some face =>
        dsimp only
        split
        · rfl
        · exact talliesPlanes_recoverFaceSide hplanes face side.plane origin

/-- Of every step come as many sides with a zero normal as there are warnings. -/
theorem talliesPlanes_recoverStep {origin : Origin} {step : Step}
    (h : step ∈ level.steps origin) : (level.recoverStep settings step).TalliesPlanes := by
  cases step with
  | storedSide entity side place => exact talliesPlanes_recoverSide hplanes _ side place
  | faceSide entity face => exact talliesPlanes_recoverFaceSide hplanes face none _
  | remarks warnings => exact countP_of_remarks_mem_steps h

end Tally

/-- If every stored plane describes something, as many sides of a recovery have a plane with
a zero normal as there are warnings of a missing plane. -/
theorem countP_isMissingPlane_recover (level : Level) (settings : Settings)
    (hplanes : ∀ plane ∈ level.planes.toList, plane.isDegenerate = false) :
    (level.recover settings).degenerateSides.length =
      (level.recover settings).warnings.countP Warning.isMissingPlane := by
  have hsides := (perm_sides_recover level settings).countP_eq (·.plane.isDegenerate)
  rw [Recovery.degenerateSides, ← List.countP_eq_length_filter, hsides, warnings_recover_steps,
    List.countP_append, countP_recoverPlaced, Nat.add_zero, List.filterMap_eq_flatMap_toList,
    List.countP_flatMap, List.countP_flatMap]
  congr 1
  refine List.map_congr_left fun step hstep => ?_
  obtain ⟨origin, -, hstep⟩ := List.mem_flatMap.1 hstep
  exact (talliesPlanes_recoverStep hplanes hstep).symm

/-- A level whose world has a brush of three sides and a displacement. The plane of the first
side exists. That of the second does not, nor does that of the face of the third, and the
face of the displacement refers to none. -/
def unhinged : Level where
  entities := #[.insert .empty "classname" "worldspawn"]
  models := #[⟨⟨0, 1⟩, ⟨0, 2⟩, ⟨0, 0⟩⟩]
  brushes := #[⟨0, none, .stored ⟨0, 3⟩⟩]
  brushSides := #[{ (default : BrushSide) with plane := some 0 },
    { (default : BrushSide) with plane := some 7 },
    { (default : BrushSide) with plane := some 0, face := some 0 }]
  planes := #[⟨⟨0, 0, 1⟩, 8⟩]
  faces := #[{ (default : Face) with plane := some 9 },
    { (default : Face) with displacement := some 0 }]
  displacements := #[⟨1, .zero, 0⟩]

/-- Three of the four sides have a plane with a zero normal. -/
theorem countP_isMissingPlane_recover_unhinged :
    (∀ plane ∈ unhinged.planes.toList, plane.isDegenerate = false) ∧
    (unhinged.recover {}).warnings.countP Warning.isMissingPlane = 3 ∧
    (unhinged.recover {}).degenerateSides.length = 3 := by
  have hplanes : ∀ plane ∈ unhinged.planes.toList, plane.isDegenerate = false := by decide
  have hwarnings : (unhinged.recover {}).warnings.countP Warning.isMissingPlane = 3 := by decide
  exact ⟨hplanes, hwarnings, (countP_isMissingPlane_recover unhinged {} hplanes).trans hwarnings⟩

end Level

end Brushwork
