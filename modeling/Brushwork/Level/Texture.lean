import Brushwork.Geometry.TextureMapping

/-!
# Textures

Some families store a texture with its name and its projection in one record. Others store
a projection with a reference to a texture record, which leads by way of a table of offsets
to a name in a string of bytes, every name ended by a zero byte. `nameAt?` reads a name
from those bytes.
-/

namespace Brushwork

/-- A texture stored with its name. -/
structure Texture where
  name : String
  /-- Surface flags. -/
  flags : Int32
  /-- Content flags, in families that do not keep them with the brush. -/
  contents : Int32
  projection : Option (TextureProjection Float32)
  deriving DecidableEq, Inhabited

/-- A projection with a reference to a texture record. -/
structure TextureInfo where
  projection : TextureProjection Float32
  record : Option Nat
  deriving DecidableEq, Inhabited

/-- The bytes from position `offset` up to the first zero byte or the end; none if the
offset is past the end. -/
def nameBytes? (bytes : Array UInt8) (offset : Nat) : Option (List UInt8) :=
  if offset ≤ bytes.size then
    some ((bytes.extract offset bytes.size).toList.takeWhile (· ≠ 0))
  else none

/-- The name that starts at position `offset`, if its bytes encode one. -/
def nameAt? (bytes : Array UInt8) (offset : Nat) : Option String :=
  (nameBytes? bytes offset).bind fun name => String.fromUTF8? ⟨name.toArray⟩

end Brushwork
