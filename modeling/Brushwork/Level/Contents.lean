import Brushwork.Level.Family
import Brushwork.Level.Flags
import Brushwork.Level.Solid
import Brushwork.Level.Texture

/-!
# What brushes contain

Detail, water and manual visibility are properties of a brush that families store in
different places : in bits or values of the brush's own contents, or of the texture it
refers to. A `ContentsRule` says where one property is; `Family.contentsRules` gives the
rules of every family.
-/

namespace Brushwork

/-- Where a property of a brush is stored. -/
inductive ContentsRule
  /-- Nowhere : no brush has the property. -/
  | never
  /-- In a bit of the brush's contents. -/
  | brushBit (bit : Fin 32)
  /-- The brush's contents are one value. -/
  | brushEquals (value : Int32)
  /-- In a bit of the contents of the brush's texture. -/
  | textureBit (bit : Fin 32)
  /-- The surface flags of the brush's texture are one value. -/
  | textureFlagsEqual (value : Int32)
  deriving DecidableEq, Repr

/-- The texture a brush refers to, if it exists. -/
def Brush.texture? (brush : Brush) (textures : Array Texture) : Option Texture :=
  brush.texture.bind (textures[·]?)

/-- Whether a brush has the property that a rule describes. -/
def ContentsRule.holds (brush : Brush) (textures : Array Texture) : ContentsRule → Bool
  | never => false
  | brushBit bit => hasBit brush.contents bit
  | brushEquals value => brush.contents == value
  | textureBit bit => (brush.texture? textures).any (hasBit ·.contents bit)
  | textureFlagsEqual value => (brush.texture? textures).any (·.flags == value)

/-- The rules for the properties of a brush. -/
structure ContentsRules where
  detail : ContentsRule
  water : ContentsRule
  manualVis : ContentsRule
  deriving DecidableEq, Repr

namespace ContentsRules

/-- No property is stored. -/
def unclassified : ContentsRules :=
  ⟨.never, .never, .never⟩

/-- Water is the contents value -3. -/
def enumerated : ContentsRules :=
  ⟨.never, .brushEquals (-3), .never⟩

/-- Detail and water are bits 9 and 20 of the contents. -/
def lowBits : ContentsRules :=
  ⟨.brushBit 9, .brushBit 20, .never⟩

/-- Detail and water are bits 27 and 5 of the contents. -/
def brushBits : ContentsRules :=
  ⟨.brushBit 27, .brushBit 5, .never⟩

/-- Detail and water are bits 27 and 5 of the contents of the texture. -/
def textureBits : ContentsRules :=
  ⟨.textureBit 27, .textureBit 5, .never⟩

/-- As `textureBits`, and a texture with exactly these flags marks manual visibility. -/
def textureBitsAndFlags : ContentsRules :=
  { textureBits with manualVis := .textureFlagsEqual 0x40010990 }

end ContentsRules

/-- The rules of a family. -/
def Family.contentsRules : Family → ContentsRules
  | quake => .enumerated
  | nightfire => .lowBits
  | quake3 | raven | cod | cod2 | cod4 | stef2 | stef2Demo | fakk => .textureBits
  | mohaa => .textureBitsAndFlags
  | quake2 | daikatana | sin | sof | source17 | source18 | source19 | source20 | source21
  | source22 | source23 | source27 | vindictus | dmomam | tacticalInterventionEncrypted =>
    .brushBits
  | goldSrc | l4d2 | titanfall => .unclassified

end Brushwork
