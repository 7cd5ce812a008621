import Brushwork.Properties
import Brushwork.Text.Coordinates

/-!
# What an entity's properties say

An entity is its properties. Its class is the value of `classname`, its position that of
`origin`, and its model that of `model` : a star and a model number. An entity of class
`worldspawn` whose model is not given that way is the world and has model 0.
-/

namespace Brushwork

/-- The class of the entity that holds the world. -/
def worldClass : String := "worldspawn"

/-- The class of an entity whose brushes are water. -/
def waterClass : String := "func_water"

/-- The key of the model. -/
def modelKey : String := "model"

namespace Properties

/-- The class of an entity. -/
def classname? (p : Properties) : Option String :=
  p.get? "classname"

/-- Whether the entity holds the world. -/
def isWorld (p : Properties) : Bool :=
  p.classname? == some worldClass

/-- Whether the brushes of the entity are water whatever they contain. -/
def isWater (p : Properties) : Bool :=
  p.classname? == some waterClass

/-- The position of an entity, zero if it is not given or cannot be read. -/
def origin (p : Properties) : Vec3 Float32 :=
  ((p.get? "origin").bind Vec3.read?).getD .zero

/-- The text after the star of a model reference. -/
def starred? (value : String) : Option (List Char) :=
  match value.toList with
  | '*' :: number => some number
  | _ => none

/-- The number of the model that an entity's brushes belong to. -/
def modelNumber? (p : Properties) : Option Nat :=
  match (p.get? modelKey).bind starred? with
  | some number => readPosition? number
  | none => if p.isWorld then some 0 else none

end Properties

end Brushwork
