import Brushwork.Geometry.Plane
import Brushwork.Table

/-!
# Brushes

A model is a group of brushes, faces and patches; model 0 is the world. A brush is a convex
solid bounded by sides. Most formats say where a brush's sides are; in some a brush only
says how many it has, and they follow those of the brush before it. `locateSides` finds
the sides of such brushes by a cursor that every one of them moves past its own sides.
-/

namespace Brushwork

/-- A group of brushes, faces and patches. -/
structure Model where
  brushes : Run
  faces : Run
  leafPatches : Run
  deriving DecidableEq, Repr, Inhabited

/-- Where the sides of a brush are stored. -/
inductive SideReference
  /-- At positions the brush gives. -/
  | stored (run : Run)
  /-- Directly after the sides of the brush before it. -/
  | following (count : Nat)
  deriving DecidableEq, Repr, Inhabited

/-- A convex solid. -/
structure Brush where
  /-- Content flags, whose meaning depends on the family. -/
  contents : Int32
  /-- The texture that holds the content flags, in families that keep them there. -/
  texture : Option Nat
  sides : SideReference
  deriving DecidableEq, Repr, Inhabited

/-- A stored side of a brush. -/
structure BrushSide where
  plane : Option Nat
  /-- The face that the side became, if it was visible. -/
  face : Option Nat
  /-- A texture or a texture mapping, as the family has it. -/
  texture : Option Nat
  /-- The bound of a box side, in families that store those without a plane. -/
  bound : Float32
  /-- Added by the compiler for collisions. -/
  isBevel : Bool
  deriving DecidableEq, Inhabited

/-! ## Finding the sides of a brush -/

/-- The largest position a cursor reaches. -/
def maxCursor : Nat :=
  UInt64.size - 1

/-- The positions of the sides of a brush in a table of `size` sides, and the cursor after
it. Only a brush whose sides follow the last ones reads and moves the cursor, by its whole
count even past the end of the table. -/
def SideReference.locate (size cursor : Nat) : SideReference → Span × Nat
  | .stored run => (run.clamp size, cursor)
  | .following count => ((Run.mk cursor count).clamp size, min (cursor + count) maxCursor)

/-- Brushes in order with the positions of their sides, and the cursor after the last. -/
def locateSides (size : Nat) : Nat → List Brush → List (Brush × Span) × Nat
  | cursor, [] => ([], cursor)
  | cursor, brush :: brushes =>
    let (span, next) := brush.sides.locate size cursor
    let (others, last) := locateSides size next brushes
    ((brush, span) :: others, last)

theorem map_fst_locateSides (size : Nat) :
    ∀ (cursor : Nat) (brushes : List Brush),
      (locateSides size cursor brushes).1.map Prod.fst = brushes
  | _, [] => rfl
  | cursor, brush :: brushes => by
    simp [locateSides, map_fst_locateSides size _ brushes]

theorem length_locateSides (size cursor : Nat) (brushes : List Brush) :
    (locateSides size cursor brushes).1.length = brushes.length := by
  rw [← List.length_map Prod.fst, map_fst_locateSides]

end Brushwork
