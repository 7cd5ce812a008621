import Brushwork.Proofs.Warnings

/-!
# The plane of a face side

A face and the stored side that it came of can both refer to a plane. The points of the side
are looked for along both references, so they come of the first that leads to a plane
(`firstPlane?`). The plane itself is looked up once, along the first reference that is given
at all. The two part only where the face refers to a plane that does not exist and the
stored side to one that does (`HidesPlane`) : the side then has the points of the one plane
and the zero plane beside them, with a warning (`takesFirstPlane_recoverFaceSide_iff`).
-/

namespace Brushwork

namespace Level

variable (level : Level)

/-- The first plane that a face or its stored side refers to. -/
def firstPlane? (face : Face) (sidePlane : Option Nat) : Option (Plane Float32) :=
  (level.plane? face.plane).or (level.plane? sidePlane)

/-- The face refers to a plane that does not exist, and its stored side to one that does. -/
structure HidesPlane (face : Face) (sidePlane : Option Nat) : Prop where
  given : face.plane.isSome
  missing : level.plane? face.plane = none
  hidden : (level.plane? sidePlane).isSome

/-- A side has the first plane that its face or its stored side refers to, or else the zero
plane with one warning, and its points are those of that plane if the face has no triangle
for them. -/
structure TakesFirstPlane (face : Face) (sidePlane : Option Nat) (side : Warned Editor.Side) :
    Prop where
  plane_eq : side.value.plane = (level.firstPlane? face sidePlane).getD .zero
  warnings_eq : side.warnings.filter Warning.isMissingPlane =
    match level.firstPlane? face sidePlane with
    | some _ => []
    | none => [.missingPlane (face.plane.or sidePlane)]
  points_eq : level.triangleOf? face = none → (level.firstPlane? face sidePlane).isSome →
    side.value.points = side.value.plane.points

variable {level} {face : Face} {sidePlane : Option Nat}

theorem plane?_none : level.plane? none = none :=
  rfl

/-! ## Where a reference leads -/

/-- Where no plane is hidden, the first reference that is given leads to the first plane. -/
theorem plane?_or_eq_firstPlane? (h : ¬ level.HidesPlane face sidePlane) :
    level.plane? (face.plane.or sidePlane) = level.firstPlane? face sidePlane := by
  unfold firstPlane?
  cases hgiven : face.plane with
  | none => rw [Option.none_or, plane?_none, Option.none_or]
  | some reference =>
    rw [Option.some_or]
    cases hface : level.plane? (some reference) with
    | some plane => rw [Option.some_or]
    | none =>
      rw [Option.none_or]
      cases hside : level.plane? sidePlane with
      | none => rfl
      | some plane =>
        refine absurd ⟨?_, ?_, ?_⟩ h
        · rw [hgiven, Option.isSome_some]
        · rw [hgiven, hface]
        · rw [hside, Option.isSome_some]

/-- Where a plane is hidden, the face's own reference is followed, and leads nowhere. -/
theorem HidesPlane.or_eq (h : level.HidesPlane face sidePlane) :
    face.plane.or sidePlane = face.plane := by
  obtain ⟨reference, hreference⟩ := Option.isSome_iff_exists.1 h.given
  rw [hreference, Option.some_or]

theorem HidesPlane.firstPlane?_eq (h : level.HidesPlane face sidePlane) :
    level.firstPlane? face sidePlane = level.plane? sidePlane := by
  rw [firstPlane?, h.missing, Option.none_or]

theorem planeOrZero_of_some {reference : Option Nat} {plane : Plane Float32}
    (h : level.plane? reference = some plane) : level.planeOrZero reference = pure plane := by
  rw [planeOrZero, h]

theorem planeOrZero_of_none {reference : Option Nat} (h : level.plane? reference = none) :
    level.planeOrZero reference = .replacing (.missingPlane reference) .zero := by
  rw [planeOrZero, h]

/-! ## The side -/

variable (settings : Settings) (origin : Vec3 Float)

theorem plane_recoverFaceSide :
    (level.recoverFaceSide settings face sidePlane origin).value.plane =
      (level.planeOrZero (face.plane.or sidePlane)).value :=
  rfl

/-- The points of a face side without a triangle are those of the first plane. -/
theorem points_recoverFaceSide {plane : Plane Float32}
    (htriangle : level.triangleOf? face = none)
    (hfirst : level.firstPlane? face sidePlane = some plane) :
    (level.recoverFaceSide settings face sidePlane origin).value.points = plane.points := by
  have hpoints : (level.recoverFaceSide settings face sidePlane origin).value.points =
      (level.pointsOf face sidePlane).value := rfl
  rw [firstPlane?] at hfirst
  rw [hpoints]
  simp only [pointsOf, htriangle, hfirst, Warned.value_pure]

/-- Of all the warnings of a face side, only the lookup of its plane is about planes. -/
theorem filter_isMissingPlane_recoverFaceSide :
    (level.recoverFaceSide settings face sidePlane origin).warnings.filter
        Warning.isMissingPlane =
      (level.planeOrZero (face.plane.or sidePlane)).warnings := by
  have hbeside : ∀ w : Warning, w.IsBesidePlanes → w.isMissingPlane = false := fun _ h => h.2
  have hplane : (level.planeOrZero (face.plane.or sidePlane)).warnings.filter
      Warning.isMissingPlane = (level.planeOrZero (face.plane.or sidePlane)).warnings := by
    unfold planeOrZero
    cases level.plane? (face.plane.or sidePlane) <;> rfl
  simp only [recoverFaceSide, Warned.warnings_bind, Warned.warnings_pure, List.filter_append,
    (level.raises_faceTextureName settings face).filter_eq_nil hbeside,
    (level.raises_pointsOf face sidePlane).filter_eq_nil hbeside,
    (level.raises_projectionOf face).filter_eq_nil hbeside,
    (level.raises_materialOf face).filter_eq_nil hbeside, hplane,
    List.nil_append, List.append_nil]

theorem takesFirstPlane_of_not_hidesPlane (h : ¬ level.HidesPlane face sidePlane) :
    level.TakesFirstPlane face sidePlane
      (level.recoverFaceSide settings face sidePlane origin) := by
  have hfirst := plane?_or_eq_firstPlane? h
  cases hplane : level.firstPlane? face sidePlane with
  | some plane =>
    have hlookup := planeOrZero_of_some (hfirst.trans hplane)
    refine ⟨?_, ?_, fun htriangle _ => ?_⟩
    · rw [plane_recoverFaceSide, hlookup, hplane]
      rfl
    · rw [filter_isMissingPlane_recoverFaceSide, hlookup, hplane]
      rfl
    · rw [points_recoverFaceSide settings origin htriangle hplane, plane_recoverFaceSide, hlookup]
      rfl
  | none =>
    have hlookup := planeOrZero_of_none (hfirst.trans hplane)
    refine ⟨?_, ?_, fun _ hsome => ?_⟩
    · rw [plane_recoverFaceSide, hlookup, hplane]
      rfl
    · rw [filter_isMissingPlane_recoverFaceSide, hlookup, hplane]
      rfl
    · rw [hplane] at hsome
      exact absurd hsome Bool.false_ne_true

theorem HidesPlane.planeOrZero_eq (h : level.HidesPlane face sidePlane) :
    level.planeOrZero (face.plane.or sidePlane) =
      .replacing (.missingPlane face.plane) .zero := by
  rw [h.or_eq, planeOrZero_of_none h.missing]

/-- A face side has the first plane that it or its stored side refers to exactly if it hides
none. If it does, it has the zero plane with a warning, and without a triangle it has the
points of the plane that is hidden. -/
theorem takesFirstPlane_recoverFaceSide_iff (level : Level) (settings : Settings) (face : Face)
    (sidePlane : Option Nat) (origin : Vec3 Float) :
    let side := level.recoverFaceSide settings face sidePlane origin
    (level.TakesFirstPlane face sidePlane side ↔ ¬ level.HidesPlane face sidePlane) ∧
      (level.HidesPlane face sidePlane →
        side.value.plane = .zero ∧
        side.warnings.filter Warning.isMissingPlane = [.missingPlane face.plane] ∧
        ∃ plane, level.firstPlane? face sidePlane = some plane ∧
          (level.triangleOf? face = none → side.value.points = plane.points)) := by
  intro side
  have hhidden : level.HidesPlane face sidePlane →
      side.value.plane = .zero ∧
      side.warnings.filter Warning.isMissingPlane = [.missingPlane face.plane] ∧
      ∃ plane, level.firstPlane? face sidePlane = some plane ∧
        (level.triangleOf? face = none → side.value.points = plane.points) := by
    intro h
    obtain ⟨plane, hplane⟩ := Option.isSome_iff_exists.1 h.hidden
    have hfirst := h.firstPlane?_eq.trans hplane
    refine ⟨?_, ?_, plane, hfirst,
      fun htriangle => points_recoverFaceSide settings origin htriangle hfirst⟩
    · rw [plane_recoverFaceSide, h.planeOrZero_eq]
      rfl
    · rw [filter_isMissingPlane_recoverFaceSide, h.planeOrZero_eq]
      rfl
  refine ⟨⟨fun htakes h => ?_, takesFirstPlane_of_not_hidesPlane settings origin⟩, hhidden⟩
  obtain ⟨-, hwarnings, plane, hfirst, -⟩ := hhidden h
  -- The warning tells the two apart, also where the hidden plane is itself the zero plane.
  have hnone := htakes.warnings_eq
  rw [hfirst, hwarnings] at hnone
  exact absurd hnone (List.cons_ne_nil _ _)

/-- A wall across x. -/
def wall : Plane Float32 :=
  ⟨⟨1, 0, 0⟩, 5⟩

/-- A level with one plane and a face that refers to another. -/
def walled : Level where
  entities := #[.insert .empty "classname" "worldspawn"]
  models := #[⟨⟨0, 1⟩, ⟨0, 0⟩, ⟨0, 0⟩⟩]
  brushes := #[⟨0, none, .stored ⟨0, 1⟩⟩]
  brushSides := #[{ (default : BrushSide) with plane := some 0, face := some 0 }]
  planes := #[wall]
  faces := #[{ (default : Face) with plane := some 7, texture := some 0 }]
  textures := #[default]

/-- The plane of the stored side exists, and the side has its points, but not the plane. -/
theorem not_takesFirstPlane_walled :
    let side := walled.recoverFaceSide {} walled.faces[0] (some 0) .zero
    walled.firstPlane? walled.faces[0] (some 0) = some wall ∧
      side.value.plane = .zero ∧ side.warnings = [.missingPlane (some 7)] ∧
      side.value.points = wall.points ∧ side.value.points ≠ side.value.plane.points ∧
      ¬ walled.TakesFirstPlane walled.faces[0] (some 0) side := by
  intro side
  have hfirst : walled.firstPlane? walled.faces[0] (some 0) = some wall := rfl
  have hplane : side.value.plane = .zero := rfl
  have hpoints : side.value.points = wall.points :=
    points_recoverFaceSide {} .zero rfl hfirst
  refine ⟨hfirst, hplane, rfl, hpoints, ?_, fun htakes => ?_⟩
  · rw [hpoints, hplane]
    decide +kernel
  · have heq := htakes.plane_eq
    rw [hfirst, hplane] at heq
    exact absurd heq (by decide)

end Level

end Brushwork
