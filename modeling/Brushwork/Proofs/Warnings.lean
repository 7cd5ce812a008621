import Mathlib.Data.List.Basic
import Brushwork.Recovery.Level

/-!
# Which warnings a primitive raises

`Warned.Raises p x` : every warning raised on the way to `x` satisfies `p`. It is kept by
everything that values with warnings are put together by (`Raises.bind`, `Raises.map`,
`raises_forEach`), so it follows the recovery of a side, a patch or a terrain step by step.

The recovery of a single primitive warns only of the records it is made of
(`Warning.IsOfPrimitive`), and of a plane only where a side looks one up : everything else
warns of other records (`Warning.IsBesidePlanes`). A surface in the wrong model and a
displacement that does not exist are warned of by the entity alone, once for each face that
has them.
-/

namespace Brushwork

universe u v

/-- The warning is about a record that a single primitive is made of. -/
def Warning.IsOfPrimitive : Warning → Prop
  | misplacedSurface .. => False
  | outOfRange table _ _ => table = TableName.faces ∨ table = TableName.materials
  | _ => True

/-- The warning is that no plane could be found for a side. -/
def Warning.isMissingPlane : Warning → Bool
  | missingPlane _ => true
  | _ => false

/-- The warning is about a record that a single primitive is made of, and not about a
plane. -/
def Warning.IsBesidePlanes (w : Warning) : Prop :=
  w.IsOfPrimitive ∧ w.isMissingPlane = false

theorem Warning.IsBesidePlanes.isOfPrimitive {w : Warning} (h : w.IsBesidePlanes) :
    w.IsOfPrimitive :=
  h.1

namespace Warned

/-- Every warning raised on the way to the value satisfies `p`. -/
def Raises {α : Type u} (p : Warning → Prop) (x : Warned α) : Prop :=
  ∀ w ∈ x.warnings, p w

variable {α β : Type u} {p : Warning → Prop} {w : Warning}

theorem raises_pure (a : α) : (pure a : Warned α).Raises p := by
  intro w hw
  rw [warnings_pure] at hw
  exact absurd hw List.not_mem_nil

theorem raises_replacing (hw : p w) (a : α) : (replacing w a).Raises p := by
  intro w' hw'
  rw [warnings_replacing, List.mem_singleton] at hw'
  exact hw' ▸ hw

theorem raises_warn (hw : p w) : (warn w).Raises p :=
  raises_replacing hw ()

theorem raises_warnIf (condition : Bool) (hw : p w) : (warnIf condition w).Raises p := by
  cases condition with
  | true => exact raises_warn hw
  | false => exact raises_pure ()

theorem Raises.mono {q : Warning → Prop} {x : Warned α} (hx : x.Raises p)
    (hpq : ∀ {w}, p w → q w) : x.Raises q :=
  fun w hw => hpq (hx w hw)

theorem Raises.bind {x : Warned α} {f : α → Warned β} (hx : x.Raises p)
    (hf : (f x.value).Raises p) : (x >>= f).Raises p := by
  intro w hw
  rw [warnings_bind, List.mem_append] at hw
  exact hw.elim (hx w) (hf w)

theorem Raises.map {x : Warned α} (hx : x.Raises p) (f : α → β) : (f <$> x).Raises p := by
  intro w hw
  rw [warnings_map] at hw
  exact hx w hw

theorem raises_forEach {α : Type u} {β : Type v} {f : α → Warned β} {xs : List α}
    (hf : ∀ x ∈ xs, (f x).Raises p) : (forEach f xs).Raises p := by
  intro w hw
  rw [warnings_forEach, List.mem_flatMap] at hw
  obtain ⟨x, hx, hw⟩ := hw
  exact hf x hx w hw

/-- A test that no raised warning passes leaves none of them. -/
theorem Raises.filter_eq_nil {x : Warned α} (hx : x.Raises p) {q : Warning → Bool}
    (hq : ∀ w, p w → q w = false) : x.warnings.filter q = [] := by
  rw [List.filter_eq_nil_iff]
  intro w hw
  rw [hq w (hx w hw)]
  exact Bool.false_ne_true

end Warned

open Warned

theorem raises_patchOver (size : PatchSize) (texture : String) (points : List Vertex) :
    (patchOver size texture points).Raises Warning.IsBesidePlanes :=
  (raises_warnIf _ ⟨trivial, rfl⟩).bind (raises_pure _)

namespace Level

variable (level : Level) (settings : Settings)

/-! ## Sides -/

theorem raises_planeOrZero (reference : Option Nat) :
    (level.planeOrZero reference).Raises Warning.IsOfPrimitive := by
  unfold planeOrZero
  cases level.plane? reference with
  | some plane => exact raises_pure plane
  | none => exact raises_replacing trivial _

theorem raises_textureNameOrSkip (reference : Option Nat) :
    (level.textureNameOrSkip reference).Raises Warning.IsBesidePlanes := by
  unfold textureNameOrSkip
  cases level.texture? reference with
  | some texture => exact raises_pure texture.name
  | none => exact raises_replacing ⟨trivial, rfl⟩ _

theorem raises_indirectNameOrSkip (index : Nat) :
    (level.indirectNameOrSkip index).Raises Warning.IsBesidePlanes := by
  unfold indirectNameOrSkip
  cases level.indirectName index with
  | ok name => exact raises_pure name
  | error broken => exact raises_replacing ⟨trivial, rfl⟩ _

theorem raises_pointsOf (face : Face) (sidePlane : Option Nat) :
    (level.pointsOf face sidePlane).Raises Warning.IsBesidePlanes := by
  unfold pointsOf
  cases level.triangleOf? face with
  | some triangle => exact raises_pure triangle
  | none =>
    dsimp only
    cases (level.plane? face.plane).or (level.plane? sidePlane) with
    | some plane => exact raises_pure plane.points
    | none => exact raises_replacing ⟨trivial, rfl⟩ _

theorem raises_projectionOf (face : Face) :
    (level.projectionOf face).Raises Warning.IsBesidePlanes := by
  unfold projectionOf
  cases face.textureInfo with
  | none => exact raises_pure none
  | some index =>
    dsimp only
    cases level.textureInfos[index]? with
    | some info => exact raises_pure (some info.projection)
    | none => exact raises_replacing ⟨trivial, rfl⟩ _

theorem raises_materialOf (face : Face) :
    (level.materialOf face).Raises Warning.IsBesidePlanes := by
  unfold materialOf
  cases face.material with
  | none => exact raises_pure _
  | some index =>
    dsimp only
    cases level.materials[index]? with
    | some material => exact raises_pure material
    | none => exact raises_replacing ⟨Or.inr rfl, rfl⟩ _

theorem raises_faceTextureName (face : Face) :
    (level.faceTextureName settings face).Raises Warning.IsBesidePlanes := by
  unfold faceTextureName
  split
  · exact raises_pure nullTexture
  · exact level.raises_textureNameOrSkip face.texture

theorem raises_recoverFaceSide (face : Face) (sidePlane : Option Nat) (origin : Vec3 Float) :
    (level.recoverFaceSide settings face sidePlane origin).Raises Warning.IsOfPrimitive :=
  ((level.raises_faceTextureName settings face).mono (·.isOfPrimitive)).bind <|
    ((level.raises_pointsOf face sidePlane).mono (·.isOfPrimitive)).bind <|
      (level.raises_planeOrZero _).bind <|
        ((level.raises_projectionOf face).mono (·.isOfPrimitive)).bind <|
          ((level.raises_materialOf face).mono (·.isOfPrimitive)).bind (raises_pure _)

theorem raises_barePlane (side : BrushSide) (index : Nat) :
    (level.barePlane side index).Raises Warning.IsOfPrimitive := by
  unfold barePlane
  split
  · split
    · exact raises_pure _
    · exact level.raises_planeOrZero side.plane
  · exact level.raises_planeOrZero side.plane

theorem raises_bareTexture (side : BrushSide) :
    (level.bareTexture side).Raises Warning.IsBesidePlanes := by
  unfold bareTexture
  cases side.texture with
  | none => exact raises_pure _
  | some index =>
    dsimp only
    split
    · exact (level.raises_indirectNameOrSkip index).bind (raises_pure _)
    · exact (level.raises_textureNameOrSkip (some index)).bind (raises_pure _)

theorem raises_recoverBareSide (side : BrushSide) (index : Nat) (origin : Vec3 Float) :
    (level.recoverBareSide side index origin).Raises Warning.IsOfPrimitive :=
  (level.raises_barePlane side index).bind <|
    ((level.raises_bareTexture side).mono (·.isOfPrimitive)).bind (raises_pure _)

theorem raises_recoverSide (origin : Vec3 Float) (side : BrushSide) (index : Nat) :
    (level.recoverSide settings origin side index).Raises Warning.IsOfPrimitive := by
  unfold recoverSide
  have hbare := (level.raises_recoverBareSide side index origin).map some
  split
  · exact raises_pure none
  · cases side.face with
    | none => exact hbare
    | some reference =>
      dsimp only
      cases level.faces[reference]? with
      | none => exact (raises_warn (Or.inl rfl)).bind hbare
      | some face =>
        dsimp only
        split
        · exact raises_pure none
        · exact (level.raises_recoverFaceSide settings face side.plane origin).map some

theorem raises_recoverBrush (origin : Vec3 Float) (brush : Brush) (sides : List BrushSide) :
    (level.recoverBrush settings origin brush sides).Raises Warning.IsOfPrimitive := by
  refine (raises_forEach ?_).bind (raises_pure _)
  intro side _
  exact level.raises_recoverSide settings origin side.1 side.2

/-! ## Surfaces -/

theorem raises_recoverPatch (patch : Patch) :
    (level.recoverPatch patch).Raises Warning.IsBesidePlanes :=
  (level.raises_textureNameOrSkip _).bind (raises_patchOver _ _ _)

theorem raises_recoverFacePatch (face : Face) :
    (level.recoverFacePatch face).Raises Warning.IsBesidePlanes := by
  refine (level.raises_textureNameOrSkip face.texture).bind ?_
  cases face.patchSize with
  | some size => exact raises_patchOver _ _ _
  | none => exact raises_replacing ⟨trivial, rfl⟩ _

theorem raises_recoverDisplacement (displacement : Displacement) :
    (level.recoverDisplacement displacement).Raises Warning.IsBesidePlanes :=
  (raises_warnIf _ ⟨trivial, rfl⟩).bind ((raises_warnIf _ ⟨trivial, rfl⟩).bind (raises_pure _))

theorem raises_recoverFaceTerrain (face : Face) :
    (level.recoverFaceTerrain face).Raises Warning.IsBesidePlanes :=
  (raises_forEach fun _ _ => raises_warn ⟨trivial, rfl⟩).bind
    ((level.raises_textureNameOrSkip face.texture).bind (raises_pure _))

theorem raises_recoverTile (tile : TerrainTile) :
    (level.recoverTile tile).Raises Warning.IsBesidePlanes :=
  (level.raises_textureNameOrSkip _).bind (raises_pure _)

end Level

end Brushwork
