import Brushwork.Proofs.Machine.Side

/-!
# What a side is warned of

Everything that a side has is looked up by a reference. A lookup that leads nowhere gives a
placeholder and raises one warning, and no other lookup raises any (`Warned.Resolves`). So the
warnings of a side tell which of its parts are placeholders, in the order in which they are
looked up : the texture, the points, the plane, the projection and the material of a side that
became a face (`Level.AccountsForFace`), the plane and the texture of one that did not
(`Level.AccountsForBare`).

A face that does not exist is warned of before the rest, and the side is then recovered as one
without a face. A side that is dropped is not warned of (`Level.accounts_recoverSide`).
-/

namespace Brushwork

/-- What is wrong with a lookup : nothing if it found something. -/
def complaints {α : Type} : Except Warning α → List Warning
  | .ok _ => []
  | .error w => [w]

/-- What a lookup found, or else a placeholder. -/
def orPlaceholder {α : Type} (found : Except Warning α) (placeholder : α) : α :=
  found.toOption.getD placeholder

/-- An optional value as a lookup that gives a warning if there is none. -/
def orWarning {α : Type} (w : Warning) : Option α → Except Warning α
  | some a => .ok a
  | none => .error w

/-- The value is what a lookup found, or else a placeholder with the one warning. -/
structure Warned.Resolves {α : Type} (x : Warned α) (found : Except Warning α) (placeholder : α) :
    Prop where
  value_eq : x.value = orPlaceholder found placeholder
  warnings_eq : x.warnings = complaints found

namespace Level

variable (level : Level)

/-! ## Lookups -/

/-- The plane that a reference leads to. -/
def findPlane (reference : Option Nat) : Except Warning (Plane Float32) :=
  orWarning (.missingPlane reference) (level.plane? reference)

/-- The name of the texture that a reference leads to. -/
def findTexture (reference : Option Nat) : Except Warning String :=
  orWarning (.missingTexture TableName.textures reference)
    ((level.texture? reference).map (·.name))

/-- The texture of a face. That of a hidden face is not looked up. -/
def findFaceTexture (settings : Settings) (face : Face) : Except Warning String :=
  if settings.hideWideFaces && face.isWide then .ok nullTexture
  else level.findTexture face.texture

/-- The points of a face : its largest triangle, or else points of the first plane that it or
the stored side refers to. -/
def findPoints (face : Face) (sidePlane : Option Nat) : Except Warning (Triangle Float) :=
  orWarning .degenerateFace ((level.triangleOf? face).or
    (((level.plane? face.plane).or (level.plane? sidePlane)).map (·.points)))

/-- The projection that a face refers to; it need not refer to one. -/
def findProjection (face : Face) : Except Warning (Option (TextureProjection Float32)) :=
  match face.textureInfo with
  | none => .ok none
  | some index => orWarning (.missingTexture TableName.textureInfos (some index))
    ((level.textureInfos[index]?).map fun info => some info.projection)

/-- The material that a face refers to, the default one if it refers to none. -/
def findMaterial (face : Face) : Except Warning String :=
  match face.material with
  | none => .ok Editor.defaultMaterial
  | some index => orWarning (.outOfRange TableName.materials index level.materials.size)
    level.materials[index]?

/-- The plane of a side without a face : that of a box side, or the one it refers to. -/
def findBarePlane (side : BrushSide) (index : Nat) : Except Warning (Plane Float32) :=
  if h : index < 6 then
    if level.family.storesBoxSides then .ok (.boxSide ⟨index, h⟩ side.bound)
    else level.findPlane side.plane
  else level.findPlane side.plane

/-- The texture of a side without a face, the one for clips if it refers to none. -/
def findBareTexture (side : BrushSide) : Except Warning String :=
  match side.texture with
  | none => .ok clipTexture
  | some index =>
    if level.family.namesTexturesIndirectly then
      (level.indirectName index).mapError BrokenLink.warning
    else level.findTexture (some index)

/-- The projection of a side without a face, if its reference leads to one. -/
def bareProjection? (side : BrushSide) : Option (TextureProjection Float32) :=
  side.texture.bind fun index =>
    if level.family.namesTexturesIndirectly then (level.textureInfos[index]?).map (·.projection)
    else (level.textures[index]?).bind (·.projection)

theorem resolves_planeOrZero (reference : Option Nat) :
    (level.planeOrZero reference).Resolves (level.findPlane reference) .zero := by
  unfold planeOrZero findPlane
  cases level.plane? reference <;> exact ⟨rfl, rfl⟩

theorem resolves_textureNameOrSkip (reference : Option Nat) :
    (level.textureNameOrSkip reference).Resolves (level.findTexture reference) skipTexture := by
  unfold textureNameOrSkip findTexture
  cases level.texture? reference <;> exact ⟨rfl, rfl⟩

theorem resolves_indirectNameOrSkip (index : Nat) :
    (level.indirectNameOrSkip index).Resolves
      ((level.indirectName index).mapError BrokenLink.warning) skipTexture := by
  unfold indirectNameOrSkip
  cases level.indirectName index <;> exact ⟨rfl, rfl⟩

theorem resolves_faceTextureName (settings : Settings) (face : Face) :
    (level.faceTextureName settings face).Resolves (level.findFaceTexture settings face)
      skipTexture := by
  unfold faceTextureName findFaceTexture
  split
  · exact ⟨rfl, rfl⟩
  · exact level.resolves_textureNameOrSkip face.texture

theorem resolves_pointsOf (face : Face) (sidePlane : Option Nat) :
    (level.pointsOf face sidePlane).Resolves (level.findPoints face sidePlane) .zero := by
  unfold pointsOf findPoints
  cases level.triangleOf? face with
  | some triangle => exact ⟨rfl, rfl⟩
  | none => cases (level.plane? face.plane).or (level.plane? sidePlane) <;> exact ⟨rfl, rfl⟩

theorem resolves_projectionOf (face : Face) :
    (level.projectionOf face).Resolves (level.findProjection face) none := by
  unfold projectionOf findProjection
  cases face.textureInfo with
  | none => exact ⟨rfl, rfl⟩
  | some index =>
    dsimp only
    cases level.textureInfos[index]? <;> exact ⟨rfl, rfl⟩

theorem resolves_materialOf (face : Face) :
    (level.materialOf face).Resolves (level.findMaterial face) Editor.defaultMaterial := by
  unfold materialOf findMaterial
  cases face.material with
  | none => exact ⟨rfl, rfl⟩
  | some index =>
    dsimp only
    cases level.materials[index]? <;> exact ⟨rfl, rfl⟩

theorem resolves_barePlane (side : BrushSide) (index : Nat) :
    (level.barePlane side index).Resolves (level.findBarePlane side index) .zero := by
  unfold barePlane findBarePlane
  split
  · split
    · exact ⟨rfl, rfl⟩
    · exact level.resolves_planeOrZero side.plane
  · exact level.resolves_planeOrZero side.plane

/-- The name of the texture of a side without a face resolves, and its projection comes of the
same reference without a warning of its own. -/
theorem resolves_bareTexture (side : BrushSide) :
    (Prod.fst <$> level.bareTexture side).Resolves (level.findBareTexture side) skipTexture ∧
      (level.bareTexture side).value.2 = level.bareProjection? side := by
  have hfst : ∀ (x : Warned String) (projection : Option (TextureProjection Float32)),
      Prod.fst <$> (x >>= fun name => pure (name, projection)) = x :=
    fun x projection => by simp
  unfold bareTexture findBareTexture bareProjection?
  cases side.texture with
  | none => exact ⟨⟨rfl, rfl⟩, rfl⟩
  | some index =>
    dsimp only [Option.bind_some]
    split
    · rw [hfst]
      exact ⟨level.resolves_indirectNameOrSkip index, rfl⟩
    · rw [hfst]
      exact ⟨level.resolves_textureNameOrSkip (some index), rfl⟩

/-! ## Sides -/

/-- The face that a stored side refers to, if it exists. -/
def sideFace? (side : BrushSide) : Option Face :=
  side.face.bind (level.faces[·]?)

/-- The side is one that is not recovered : the compiler added it, or its face is to be
ignored. -/
def isDropped (side : BrushSide) : Bool :=
  side.isBevel || (level.sideFace? side).any (·.isIgnored)

/-- A side that became a face has what was looked up for it, and is warned of exactly what was
not found, in order. -/
structure AccountsForFace (settings : Settings) (face : Face) (sidePlane : Option Nat)
    (origin : Vec3 Float) (made : Warned (Option Editor.Side)) : Prop where
  value_eq :
    let plane := orPlaceholder (level.findPlane (face.plane.or sidePlane)) .zero
    made.value = some {
      texture := orPlaceholder (level.findFaceTexture settings face) skipTexture
      points := orPlaceholder (level.findPoints face sidePlane) .zero
      plane := plane
      mapping := .ofStored (orPlaceholder (level.findProjection face) none) plane origin
      material := orPlaceholder (level.findMaterial face) Editor.defaultMaterial
      flags := if settings.suppressFlags then 0 else face.flags }
  warnings_eq : made.warnings =
    complaints (level.findFaceTexture settings face) ++
      complaints (level.findPoints face sidePlane) ++
      complaints (level.findPlane (face.plane.or sidePlane)) ++
      complaints (level.findProjection face) ++ complaints (level.findMaterial face)

/-- A side without a face has the plane and the texture that were looked up for it, and is warned
of exactly what was not found, in order. -/
structure AccountsForBare (side : BrushSide) (index : Nat) (origin : Vec3 Float)
    (made : Warned (Option Editor.Side)) : Prop where
  value_eq :
    let plane := orPlaceholder (level.findBarePlane side index) .zero
    made.value = some {
      texture := orPlaceholder (level.findBareTexture side) skipTexture
      points := plane.points
      plane := plane
      mapping := .ofStored (level.bareProjection? side) plane origin
      material := Editor.defaultMaterial
      flags := 0 }
  warnings_eq : made.warnings =
    complaints (level.findBarePlane side index) ++ complaints (level.findBareTexture side)

variable {level} {settings : Settings} {origin : Vec3 Float} {side : BrushSide} {index : Nat}
  {face : Face}

theorem accountsForFace_recoverFaceSide (sidePlane : Option Nat) :
    level.AccountsForFace settings face sidePlane origin
      (some <$> level.recoverFaceSide settings face sidePlane origin) := by
  have htexture := level.resolves_faceTextureName settings face
  have hpoints := level.resolves_pointsOf face sidePlane
  have hplane := level.resolves_planeOrZero (face.plane.or sidePlane)
  have hprojection := level.resolves_projectionOf face
  have hmaterial := level.resolves_materialOf face
  refine ⟨?_, ?_⟩
  · rw [← htexture.value_eq, ← hpoints.value_eq, ← hplane.value_eq, ← hprojection.value_eq,
      ← hmaterial.value_eq]
    rfl
  · rw [← htexture.warnings_eq, ← hpoints.warnings_eq, ← hplane.warnings_eq,
      ← hprojection.warnings_eq, ← hmaterial.warnings_eq]
    simp only [recoverFaceSide, Warned.warnings_map, Warned.warnings_bind, Warned.warnings_pure,
      List.append_nil, List.append_assoc]

theorem accountsForBare_recoverBareSide :
    level.AccountsForBare side index origin (some <$> level.recoverBareSide side index origin) := by
  have hplane := level.resolves_barePlane side index
  obtain ⟨htexture, hprojection⟩ := level.resolves_bareTexture side
  refine ⟨?_, ?_⟩
  · rw [← hplane.value_eq, ← htexture.value_eq, ← hprojection]
    rfl
  · rw [← hplane.warnings_eq, ← htexture.warnings_eq, Warned.warnings_map]
    simp only [recoverBareSide, Warned.warnings_map, Warned.warnings_bind, Warned.warnings_pure,
      List.append_nil]

/-! ## Which sides are recovered -/

theorem recoverSide_of_isDropped (h : level.isDropped side = true) :
    level.recoverSide settings origin side index = pure none := by
  unfold recoverSide
  split
  next hbevel => rfl
  next hbevel =>
    have hignored : (level.sideFace? side).any (·.isIgnored) = true := by
      simpa [isDropped, hbevel] using h
    unfold sideFace? at hignored
    cases hreference : side.face with
    | none => simp [hreference] at hignored
    | some reference =>
      dsimp only
      cases hface : level.faces[reference]? with
      | none => simp [hreference, hface] at hignored
      | some face =>
        have hface : face.isIgnored = true := by simpa [hreference, hface] using hignored
        exact if_pos hface

theorem recoverSide_of_face (h : level.isDropped side = false)
    (hface : level.sideFace? side = some face) :
    level.recoverSide settings origin side index =
      some <$> level.recoverFaceSide settings face side.plane origin := by
  obtain ⟨reference, hreference, hlookup⟩ := Option.bind_eq_some_iff.1 hface
  obtain ⟨hbevel, hignored⟩ : side.isBevel = false ∧ face.isIgnored = false := by
    simpa [isDropped, hface] using h
  simp [recoverSide, hbevel, hreference, hlookup, hignored]

theorem recoverSide_of_no_face (h : level.isDropped side = false)
    (hface : level.sideFace? side = none) :
    level.recoverSide settings origin side index =
      ⟨some (level.recoverBareSide side index origin).value,
        side.face.toList.map (.outOfRange TableName.faces · level.faces.size) ++
          (level.recoverBareSide side index origin).warnings⟩ := by
  have hbevel : side.isBevel = false := by
    simpa [isDropped, hface] using h
  have hmap := Warned.warnings_map some (level.recoverBareSide side index origin)
  cases hreference : side.face with
  | none =>
    simp only [recoverSide, hbevel, hreference, Bool.false_eq_true, if_false]
    exact Warned.ext_parts rfl hmap
  | some reference =>
    have hlookup : level.faces[reference]? = none := by
      simpa [sideFace?, hreference] using hface
    simp only [recoverSide, hbevel, hreference, hlookup, Bool.false_eq_true, if_false]
    exact Warned.ext_parts rfl (congrArg (_ :: ·) hmap)

/-- A side comes of every stored side that is not dropped. -/
theorem isSome_recoverSide :
    (level.recoverSide settings origin side index).value.isSome = !level.isDropped side := by
  cases hdropped : level.isDropped side with
  | true =>
    rw [recoverSide_of_isDropped hdropped]
    rfl
  | false =>
    cases hface : level.sideFace? side with
    | none =>
      rw [recoverSide_of_no_face hdropped hface]
      rfl
    | some face =>
      rw [recoverSide_of_face hdropped hface]
      rfl

theorem recoverSide_of_bare (hbevel : side.isBevel = false) :
    level.recoverSide settings origin { side with face := none } index =
      some <$> level.recoverBareSide side index origin := by
  rw [recoverSide, if_neg (ne_true_of_eq_false hbevel)]
  rfl

/-- A side is dropped without a warning, or is recovered and is warned of exactly what was
replaced in it. A face that does not exist is warned of first, and makes no other difference. On
the machine the warnings are added to those of the session. -/
theorem accounts_recoverSide (level : Level) (settings : Settings) (origin : Vec3 Float)
    (side : BrushSide) (index : Nat) :
    let made := level.recoverSide settings origin side index
    let bare := level.recoverSide settings origin { side with face := none } index
    (made.value = none ↔ level.isDropped side = true) ∧
      (level.isDropped side = true → made.warnings = []) ∧
      (level.isDropped side = false → level.sideFace? side = none →
        made.value = bare.value ∧
        made.warnings = side.face.toList.map (.outOfRange TableName.faces · level.faces.size) ++
          bare.warnings ∧
        level.AccountsForBare side index origin bare) ∧
      (level.isDropped side = false → ∀ face, level.sideFace? side = some face →
        level.AccountsForFace settings face side.plane origin made) ∧
      (Machine.Fits level → ∀ overflow, Machine.Takes overflow 0
        (Machine.recoverSide level settings origin side index) made) := by
  intro made bare
  refine ⟨?_, fun hdropped => ?_, fun hkept hnone => ?_, fun hkept face hface => ?_,
    fun fits overflow => Machine.takes_recoverSide fits settings origin side index⟩
  · rw [← Option.not_isSome_iff_eq_none, isSome_recoverSide, Bool.not_eq_true, Bool.not_eq_false']
  · have hmade : made = _ := recoverSide_of_isDropped hdropped
    rw [hmade]
    rfl
  · have hbevel : side.isBevel = false := by
      simpa [isDropped, hnone] using hkept
    have hmade : made = _ := recoverSide_of_no_face hkept hnone
    have hbare : bare = _ := recoverSide_of_bare hbevel
    rw [hmade, hbare, Warned.warnings_map]
    exact ⟨rfl, rfl, accountsForBare_recoverBareSide⟩
  · have hmade : made = _ := recoverSide_of_face hkept hface
    rw [hmade]
    exact accountsForFace_recoverFaceSide side.plane

end Level

end Brushwork
