import Brushwork.Number.Scalar

/-!
# Vectors

Vectors of two and three components over any type of scalars. The products are summed from
the first component to the last, and a vector is normalized by multiplying it by the
reciprocal of its length, so that floating-point results are determined to the bit.
-/

namespace Brushwork

universe u v

/-- A vector of two components. -/
structure Vec2 (α : Type u) where
  x : α
  y : α
  deriving DecidableEq, Repr, Inhabited

/-- A vector of three components. -/
structure Vec3 (α : Type u) where
  x : α
  y : α
  z : α
  deriving DecidableEq, Repr, Inhabited

namespace Vec2

variable {α : Type u} {β : Type v}

/-- Apply a function to every component. -/
def map (f : α → β) (v : Vec2 α) : Vec2 β :=
  ⟨f v.x, f v.y⟩

variable [Scalar α]

/-- The zero vector. -/
def zero : Vec2 α :=
  ⟨0, 0⟩

/-- The vector with both components one. -/
def one : Vec2 α :=
  ⟨1, 1⟩

instance : Sub (Vec2 α) where
  sub a b := ⟨a.x - b.x, a.y - b.y⟩

instance : HDiv (Vec2 α) α (Vec2 α) where
  hDiv a s := ⟨a.x / s, a.y / s⟩

/-- The components are equal as scalars. -/
def sameAs (a b : Vec2 α) : Bool :=
  a.x == b.x && a.y == b.y

/-- The smaller component. -/
def minComponent (v : Vec2 α) : α :=
  Scalar.least v.x v.y

/-- The larger component. -/
def maxComponent (v : Vec2 α) : α :=
  Scalar.greatest v.x v.y

end Vec2

namespace Vec3

variable {α : Type u} {β : Type v}

/-- Apply a function to every component. -/
def map (f : α → β) (v : Vec3 α) : Vec3 β :=
  ⟨f v.x, f v.y, f v.z⟩

/-- The first two components. -/
def xy (v : Vec3 α) : Vec2 α :=
  ⟨v.x, v.y⟩

variable [Scalar α]

/-- The zero vector. -/
def zero : Vec3 α :=
  ⟨0, 0, 0⟩

instance : Add (Vec3 α) where
  add a b := ⟨a.x + b.x, a.y + b.y, a.z + b.z⟩

instance : Sub (Vec3 α) where
  sub a b := ⟨a.x - b.x, a.y - b.y, a.z - b.z⟩

instance : HMul (Vec3 α) α (Vec3 α) where
  hMul a s := ⟨a.x * s, a.y * s, a.z * s⟩

instance : HDiv (Vec3 α) α (Vec3 α) where
  hDiv a s := ⟨a.x / s, a.y / s, a.z / s⟩

/-- The components are equal as scalars. -/
def sameAs (a b : Vec3 α) : Bool :=
  a.x == b.x && a.y == b.y && a.z == b.z

/-- The scalar product. -/
def dot (a b : Vec3 α) : α :=
  a.x * b.x + a.y * b.y + a.z * b.z

/-- The vector product. -/
def cross (a b : Vec3 α) : Vec3 α :=
  ⟨a.y * b.z - b.y * a.z, a.z * b.x - b.z * a.x, a.x * b.y - b.x * a.y⟩

/-- The square of the length. -/
def lengthSquared (v : Vec3 α) : α :=
  v.dot v

/-- The length. -/
def length (v : Vec3 α) : α :=
  Scalar.sqrt v.lengthSquared

/-- The vector of length one in the same direction. -/
def normalize (v : Vec3 α) : Vec3 α :=
  v * (1 / v.length)

/-- The vector of length one in the same direction, or zero if the length has no positive
finite reciprocal. -/
def normalizeOrZero (v : Vec3 α) : Vec3 α :=
  let factor := 1 / v.length
  if Scalar.isFinite factor && decide (0 < factor) then v * factor else zero

end Vec3

end Brushwork
