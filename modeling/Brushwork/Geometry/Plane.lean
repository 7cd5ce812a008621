import Brushwork.Geometry.Triangle

/-!
# Planes

A plane is a normal with a distance from the origin along it. A plane with a zero normal
stands for one that is missing.

`AxisPair.facing` gives the two directions textures run along by default on a plane : those
of the axis direction the plane faces most closely. `Plane.samplePoints` gives three points
of the plane, wound along its normal, with the second axis of the triangle along the first
texture direction.
-/

namespace Brushwork

universe u

/-! ## Default texture directions -/

/-- The two directions a texture runs along on a plane. -/
structure AxisPair (α : Type u) where
  u : Vec3 α
  v : Vec3 α
  deriving DecidableEq, Repr, Inhabited

namespace AxisPair

variable {α : Type u} [Scalar α]

/-- The texture directions of a floor or a ceiling. -/
def acrossZ : AxisPair α :=
  ⟨⟨1, 0, 0⟩, ⟨0, -1, 0⟩⟩

/-- The texture directions of a wall across x. -/
def acrossX : AxisPair α :=
  ⟨⟨0, 1, 0⟩, ⟨0, 0, -1⟩⟩

/-- The texture directions of a wall across y. -/
def acrossY : AxisPair α :=
  ⟨⟨1, 0, 0⟩, ⟨0, 0, -1⟩⟩

/-- The six axis directions a plane can face, each with the texture directions of planes
facing it. -/
def table : List (Vec3 α × AxisPair α) :=
  [(⟨0, 0, 1⟩, acrossZ), (⟨0, 0, -1⟩, acrossZ),
   (⟨1, 0, 0⟩, acrossX), (⟨-1, 0, 0⟩, acrossX),
   (⟨0, 1, 0⟩, acrossY), (⟨0, -1, 0⟩, acrossY)]

/-- The texture directions of the first axis direction nearest to `normal`; those of a floor
if `normal` points along none. -/
def facing (normal : Vec3 α) : AxisPair α :=
  match (Scalar.firstLargest (fun row => normal.dot row.1) table).2 with
  | some row => row.2
  | none => acrossZ

end AxisPair

/-! ## Planes -/

/-- The points whose scalar product with `normal` is `dist`. -/
structure Plane (α : Type u) where
  normal : Vec3 α
  dist : α
  deriving DecidableEq, Repr, Inhabited

namespace Plane

variable {α : Type u} {β : Type u}

/-- Apply a function to the normal and the distance. -/
def map (f : α → β) (p : Plane α) : Plane β :=
  ⟨p.normal.map f, f p.dist⟩

variable [Scalar α]

/-- The plane that stands for a missing one. -/
def zero : Plane α :=
  ⟨.zero, 0⟩

/-- The normal and the distance are equal as scalars. -/
def sameAs (p q : Plane α) : Bool :=
  p.normal.sameAs q.normal && p.dist == q.dist

/-- The normal is zero, so the plane describes nothing. -/
def isDegenerate (p : Plane α) : Bool :=
  p.normal.sameAs .zero

/-- How far a point is in front of the plane, in lengths of the normal. -/
def elevation (p : Plane α) (point : Vec3 α) : α :=
  p.normal.dot point - p.dist

/-- The outward directions of the sides of a box : the negative and the positive direction
of x, then of y, then of z. -/
def boxNormal : Fin 6 → Vec3 α
  | 0 => ⟨-1, 0, 0⟩
  | 1 => ⟨1, 0, 0⟩
  | 2 => ⟨0, -1, 0⟩
  | 3 => ⟨0, 1, 0⟩
  | 4 => ⟨0, 0, -1⟩
  | 5 => ⟨0, 0, 1⟩

/-- A side of the box whose least and greatest coordinates are given in turn : the plane
across the side's direction through `bound`. -/
def boxSide (side : Fin 6) (bound : α) : Plane α :=
  ⟨boxNormal side, if side.val % 2 = 0 then -bound else bound⟩

/-- The distance between sample points. -/
def sampleSpacing : α :=
  Scalar.ofNat 64

/-- Three points `a`, `b`, `c` of the plane such that `(a - b) × (c - b)` points along the
normal; three zero points for a degenerate plane. -/
def samplePoints (p : Plane α) : Triangle α :=
  if p.isDegenerate then .zero
  else
    let normal := p.normal.normalize
    let origin := normal * p.dist
    let axis := (AxisPair.facing normal).u
    let across : Vec3 α := axis - normal * axis.dot normal
    let u := across.normalizeOrZero
    let v := normal.cross u
    let spacing : α := sampleSpacing
    ⟨origin, origin + v * spacing, origin + u * spacing⟩

/-! ## Stored planes

A plane is stored in single precision; its points are worked out in double precision. -/

/-- Sample points of a stored plane. -/
def points (p : Plane Float32) : Triangle Float :=
  (p.map widen).samplePoints

/-- How far a stored point is in front of a stored plane, in single precision : positive in
front of it, negative behind it and zero on it. -/
def storedElevation (p : Plane Float32) (point : Vec3 Float32) : Float32 :=
  narrow ((p.map widen).elevation (point.map widen))

end Plane

end Brushwork
