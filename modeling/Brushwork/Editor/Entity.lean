import Brushwork.Editor.Brush
import Brushwork.Level.Entity
import Brushwork.Level.Placed

/-!
# Editable entities

An entity of the editor has properties and brushes. Objects that the compiler moved to
tables of their own become entities without brushes again.
-/

namespace Brushwork.Editor

/-- An editable entity. -/
structure Entity where
  properties : Properties
  brushes : List Brush
  deriving DecidableEq

namespace Entity

/-- The entity with properties and no brushes. -/
def ofProperties (properties : Properties) : Entity :=
  ⟨properties, []⟩

/-- The entity of a class with no other properties. -/
def ofClass (classname : String) : Entity :=
  ofProperties (Properties.empty.insert "classname" classname)

/-- Set a property. -/
def insert (entity : Entity) (key value : String) : Entity :=
  { entity with properties := entity.properties.insert key value }

/-- The value of a property. -/
def get? (entity : Entity) (key : String) : Option String :=
  entity.properties.get? key

@[simp] theorem brushes_ofClass (classname : String) : (ofClass classname).brushes = [] :=
  rfl

@[simp] theorem brushes_insert (entity : Entity) (key value : String) :
    (entity.insert key value).brushes = entity.brushes :=
  rfl

end Entity

end Brushwork.Editor

namespace Brushwork

open Editor

/-- The entity of a placed prop. Its model is left out if the dictionary has no name for
it. -/
def StaticProp.toEntity (prop : StaticProp) (models : Array String) : Entity :=
  let placed := ((Entity.ofClass "prop_static").insert "origin" prop.origin.text).insert
    "angles" prop.angles.text
  let named := match models[prop.model]? with
    | some model => placed.insert modelKey model
    | none => placed
  let described := (((named.insert "skin" prop.skin.repr).insert
    "solid" prop.solidity.repr).insert
    "fademindist" (singleText prop.fadeMinDist)).insert
    "fademaxdist" (singleText prop.fadeMaxDist)
  if prop.castsNoShadow then described.insert "disableshadows" "1" else described

/-- The entity of a placed model. -/
def StaticModel.toEntity (model : StaticModel) : Entity :=
  ((((Entity.ofClass "misc_model").insert modelKey model.model).insert
    "origin" model.origin.text).insert
    "angles" model.angles.text).insert
    "scale" (singleText model.scale)

/-- The position of a sample point in single precision. -/
def Cubemap.position (cubemap : Cubemap) : Vec3 Float32 :=
  cubemap.origin.map Binary.ofInt

/-- The entity of a sample point. -/
def Cubemap.toEntity (cubemap : Cubemap) : Entity :=
  ((Entity.ofClass "env_cubemap").insert "origin" cubemap.position.text).insert
    "cubemapsize" cubemap.size.repr

/-! ## Placed objects have no brushes -/

@[simp] theorem StaticProp.brushes_toEntity (prop : StaticProp) (models : Array String) :
    (prop.toEntity models).brushes = [] := by
  unfold toEntity
  cases models[prop.model]? <;> cases prop.castsNoShadow <;> simp

@[simp] theorem StaticModel.brushes_toEntity (model : StaticModel) :
    model.toEntity.brushes = [] := by
  simp [toEntity]

@[simp] theorem Cubemap.brushes_toEntity (cubemap : Cubemap) :
    cubemap.toEntity.brushes = [] := by
  simp [toEntity]

end Brushwork
