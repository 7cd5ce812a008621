import Brushwork.Geometry.Vector

/-!
# Placed objects

Objects that a mapper placed as entities and the compiler moved to tables of their own.
-/

namespace Brushwork

/-- A model placed in the level, chosen from a dictionary of names. -/
structure StaticProp where
  model : Nat
  origin : Vec3 Float32
  angles : Vec3 Float32
  solidity : Nat
  skin : Int
  fadeMinDist : Float32
  fadeMaxDist : Float32
  flags : Nat
  deriving DecidableEq, Inhabited

/-- Whether the prop casts no shadow. -/
def StaticProp.castsNoShadow (prop : StaticProp) : Bool :=
  prop.flags.testBit 4

/-- A model placed in the level by name. -/
structure StaticModel where
  model : String
  origin : Vec3 Float32
  angles : Vec3 Float32
  scale : Float32
  deriving DecidableEq, Inhabited

/-- A point from which reflections are sampled. -/
structure Cubemap where
  origin : Vec3 Int
  size : Int
  deriving DecidableEq, Inhabited

end Brushwork
