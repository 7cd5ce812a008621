import Brushwork.Geometry.Plane

/-!
# Texture mappings

A compiled level maps a point to texture space by two scaled axes with offsets
(`TextureProjection.texel`). An editor keeps the axes at length one with the scale apart
(`TextureMapping`), relative to the entity that the brush belongs to.
`TextureMapping.ofProjection?` converts the first to the second.
-/

namespace Brushwork

universe u

/-- A mapping from the world to texture space; a texel is the reciprocal of an axis's length
wide. -/
structure TextureProjection (α : Type u) where
  uAxis : Vec3 α
  uOffset : α
  vAxis : Vec3 α
  vOffset : α
  deriving DecidableEq, Repr, Inhabited

namespace TextureProjection

variable {α : Type u} {β : Type u}

/-- Apply a function to every number. -/
def map (f : α → β) (p : TextureProjection α) : TextureProjection β :=
  ⟨p.uAxis.map f, f p.uOffset, p.vAxis.map f, f p.vOffset⟩

variable [Scalar α]

/-- The projection with both axes and both offsets zero. -/
def zero : TextureProjection α :=
  ⟨.zero, 0, .zero, 0⟩

/-- The texture coordinates of a point. -/
def texel (p : TextureProjection α) (point : Vec3 α) : Vec2 α :=
  ⟨point.dot p.uAxis + p.uOffset, point.dot p.vAxis + p.vOffset⟩

end TextureProjection

/-- A mapping with axes of length one, the width of a texel along each kept apart. -/
structure TextureMapping (α : Type u) where
  uAxis : Vec3 α
  uOffset : α
  vAxis : Vec3 α
  vOffset : α
  scale : Vec2 α
  rotation : α
  deriving DecidableEq, Repr, Inhabited

namespace TextureMapping

variable {α : Type u} [Scalar α]

/-- The default mapping of a plane with a normal. -/
def facing (normal : Vec3 α) : TextureMapping α :=
  let axes := AxisPair.facing normal
  ⟨axes.u, 0, axes.v, 0, .one, 0⟩

/-- The mapping of an entity at `origin` that agrees with a projection; none if an axis has
no length. -/
def ofProjection? (p : TextureProjection α) (origin : Vec3 α) :
    Option (TextureMapping α) :=
  let uLength := p.uAxis.length
  let vLength := p.vAxis.length
  if uLength == 0 || vLength == 0 then none
  else some {
    uAxis := p.uAxis / uLength
    uOffset := p.uOffset - p.uAxis.dot origin
    vAxis := p.vAxis / vLength
    vOffset := p.vOffset - p.vAxis.dot origin
    scale := ⟨1 / uLength, 1 / vLength⟩
    rotation := 0 }

/-- The mapping that agrees with a projection if there is one that can be converted, else
the default one of the plane. -/
def ofSide (p : Option (TextureProjection α)) (plane : Plane α) (origin : Vec3 α) :
    TextureMapping α :=
  (p.bind (ofProjection? · origin)).getD (facing plane.normal)

/-- The mapping of a side whose projection and plane are stored in single precision. -/
def ofStored (p : Option (TextureProjection Float32)) (plane : Plane Float32)
    (origin : Vec3 Float) : TextureMapping Float :=
  ofSide (p.map (·.map widen)) (plane.map widen) origin

end TextureMapping

end Brushwork
