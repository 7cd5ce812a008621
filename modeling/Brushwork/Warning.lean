import Brushwork.Level.Face
import Brushwork.Number.Shortest

/-!
# Warnings

A broken record never stops a recovery : it is replaced by something plain and a warning is
raised. `Warned` is a value with the warnings raised on the way to it, in order, and
`Warning.message` the text a warning is shown by.
-/

namespace Brushwork

/-- The special surfaces that only the world should have. -/
inductive WorldSurface
  | displacement
  | terrain
  deriving DecidableEq, Repr

/-- What can be wrong with a record. -/
inductive Warning
  /-- No plane could be found for a side. -/
  | missingPlane (plane : Option Nat)
  /-- A surface of the world stands in another model. -/
  | misplacedSurface (surface : WorldSurface) (model : Nat)
  /-- A reference on the way to a texture leads nowhere. -/
  | missingTexture (table : String) (index : Option Nat)
  /-- A reference into a table of `size` entries leads nowhere. -/
  | outOfRange (table : String) (index size : Nat)
  /-- A face has no triangle and no plane. -/
  | degenerateFace
  /-- A vertex of a terrain is at no cell of its grid. -/
  | offGrid (position : Vec3 Float32)
  /-- There are fewer vertices than a displacement has. -/
  | shortDisplacement (expected found : Nat)
  /-- The power of a displacement is above the largest one. -/
  | displacementPower (power limit : Nat)
  /-- There are fewer control points than a patch has. -/
  | shortPatch (size : PatchSize) (expected found : Nat)
  /-- A patch has no size. -/
  | missingPatchSize (found : Nat)
  deriving DecidableEq

/-! ## Placeholders -/

/-- The texture of faces that only the compiler uses. -/
def nullTexture : String := "**nulltexture**"

/-- The texture of a reference that leads nowhere. -/
def skipTexture : String := "**skiptexture**"

/-- The texture of a side that has none. -/
def clipTexture : String := "**cliptexture**"

/-! ## Names of tables -/

namespace TableName

/-- The models. -/
def models : String := "models"

/-- The faces. -/
def faces : String := "faces"

/-- The textures stored with a name. -/
def textures : String := "textures"

/-- The projections with a reference to a texture record. -/
def textureInfos : String := "tex_info"

/-- The texture records. -/
def textureRecords : String := "tex_data"

/-- The offsets of texture names. -/
def nameOffsets : String := "tex_data_string_table"

/-- The names of materials. -/
def materials : String := "materials"

/-- The displacements. -/
def displacements : String := "displacements"

/-- The names of the models of placed props. -/
def staticPropModels : String := "static_prop_dictionary"

end TableName

/-! ## Texts -/

/-- The name of a special surface. -/
def WorldSurface.name : WorldSurface → String
  | displacement => "Displacement"
  | terrain => "Terrain"

/-- A reference that may be absent, in full. -/
def referenceText : Option Nat → String
  | none => "None"
  | some n => "Some(" ++ n.repr ++ ")"

/-- Texts in brackets with commas between them. -/
def bracketed (parts : List String) : String :=
  "[" ++ String.intercalate ", " parts ++ "]"

/-- The text that a warning is shown by. -/
def Warning.message : Warning → String
  | missingPlane plane =>
    "No plane could be resolved (reference " ++ referenceText plane ++ "), using a zero plane"
  | misplacedSurface surface model =>
    surface.name ++ " is not part of the world (found in model " ++ model.repr ++ ")"
  | missingTexture table index =>
    table ++ " index " ++ referenceText index ++ " is out of range, substituting \""
      ++ skipTexture ++ "\""
  | outOfRange table index size =>
    table ++ " index " ++ index.repr ++ " is out of range of " ++ size.repr ++ " elements"
  | degenerateFace => "Brush side with no points! Face has no usable triangle and no plane"
  | offGrid p =>
    "Terrain vertex " ++ bracketed [singleText p.x, singleText p.y, singleText p.z]
      ++ " doesn't lie on the terrain grid, dropping it"
  | shortDisplacement expected found =>
    "Displacement needs " ++ expected.repr ++ " vertices, only " ++ found.repr ++ " exist"
  | displacementPower power limit =>
    "Displacement power " ++ power.repr ++ " is larger than the maximum of " ++ limit.repr
      ++ ", clamping"
  | shortPatch size expected found =>
    "Patch of size " ++ bracketed [size.width.repr, size.height.repr] ++ " needs "
      ++ expected.repr ++ " control points, only " ++ found.repr ++ " are referenced"
  | missingPatchSize found =>
    "Patch face has no size, dropping its " ++ found.repr ++ " control points"

/-! ## Values with warnings -/

universe u v

/-- A value with the warnings raised on the way to it, oldest first. -/
structure Warned (α : Type u) where
  value : α
  warnings : List Warning

namespace Warned

instance : Monad Warned where
  pure a := ⟨a, []⟩
  bind x f :=
    let y := f x.value
    ⟨y.value, x.warnings ++ y.warnings⟩

/-- Raise a warning. -/
def warn (w : Warning) : Warned Unit :=
  ⟨(), [w]⟩

/-- Raise a warning if a condition holds. -/
def warnIf (condition : Bool) (w : Warning) : Warned Unit :=
  if condition then warn w else pure ()

/-- Raise a warning and go on with a value. -/
def replacing {α : Type u} (w : Warning) (a : α) : Warned α :=
  ⟨a, [w]⟩

/-- Apply a function to every element, with the warnings in the order of the elements. -/
def forEach {α : Type u} {β : Type v} (f : α → Warned β) (xs : List α) : Warned (List β) :=
  let results := xs.map f
  ⟨results.map value, results.flatMap warnings⟩

variable {α β : Type u}

theorem ext_parts {x y : Warned α} (hv : x.value = y.value) (hw : x.warnings = y.warnings) :
    x = y := by
  cases x; cases y; cases hv; cases hw; rfl

@[simp] theorem value_pure (a : α) : (pure a : Warned α).value = a :=
  rfl

@[simp] theorem warnings_pure (a : α) : (pure a : Warned α).warnings = [] :=
  rfl

@[simp] theorem value_bind (x : Warned α) (f : α → Warned β) :
    (x >>= f).value = (f x.value).value :=
  rfl

@[simp] theorem warnings_bind (x : Warned α) (f : α → Warned β) :
    (x >>= f).warnings = x.warnings ++ (f x.value).warnings :=
  rfl

@[simp] theorem value_map (f : α → β) (x : Warned α) : (f <$> x).value = f x.value :=
  rfl

@[simp] theorem warnings_map (f : α → β) (x : Warned α) : (f <$> x).warnings = x.warnings :=
  List.append_nil _

@[simp] theorem warnings_warn (w : Warning) : (warn w).warnings = [w] :=
  rfl

@[simp] theorem value_replacing (w : Warning) (a : α) : (replacing w a).value = a :=
  rfl

@[simp] theorem warnings_replacing (w : Warning) (a : α) : (replacing w a).warnings = [w] :=
  rfl

@[simp] theorem warnings_warnIf (condition : Bool) (w : Warning) :
    (warnIf condition w).warnings = if condition then [w] else [] := by
  cases condition <;> rfl

instance : LawfulMonad Warned :=
  LawfulMonad.mk' Warned
    (fun _ => ext_parts rfl (List.append_nil _))
    (fun _ _ => ext_parts rfl (List.nil_append _))
    (fun _ _ _ => ext_parts rfl (List.append_assoc ..))

end Warned

theorem Warned.value_forEach {α : Type u} {β : Type v} (f : α → Warned β) (xs : List α) :
    (forEach f xs).value = xs.map fun x => (f x).value := by
  simp [forEach]

theorem Warned.warnings_forEach {α : Type u} {β : Type v} (f : α → Warned β) (xs : List α) :
    (forEach f xs).warnings = xs.flatMap fun x => (f x).warnings := by
  simp [forEach, List.flatMap_map]

end Brushwork
