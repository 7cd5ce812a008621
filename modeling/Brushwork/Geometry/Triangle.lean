import Brushwork.Geometry.Vector

/-!
# Triangles

Three points of a plane. `Triangle.largest?` picks from a list the triangle that fixes a
plane best : the first of the largest ones, if it is not too thin.
-/

namespace Brushwork

universe u

/-- Three points. -/
structure Triangle (α : Type u) where
  a : Vec3 α
  b : Vec3 α
  c : Vec3 α
  deriving DecidableEq, Repr, Inhabited

namespace Triangle

variable {α : Type u} [Scalar α]

/-- Three points at the origin. -/
def zero : Triangle α :=
  ⟨.zero, .zero, .zero⟩

/-- The square of twice the area. -/
def spread (t : Triangle α) : α :=
  ((t.b - t.a).cross (t.c - t.a)).lengthSquared

/-- A triangle whose spread is not above this is too thin to fix a plane. -/
def minSpread : α :=
  Scalar.ofDecimal 1 3

/-- The first of the triangles with the largest spread, unless it is too thin. -/
def largest? (ts : List (Triangle α)) : Option (Triangle α) :=
  let (best, triangle) := Scalar.firstLargest spread ts
  if minSpread < best then triangle else none

theorem mem_of_largest? {ts : List (Triangle α)} {t : Triangle α} (h : largest? ts = some t) :
    t ∈ ts := by
  unfold largest? at h
  dsimp only at h
  split at h
  · exact Scalar.mem_of_firstLargest h
  · cases h

end Triangle

end Brushwork
