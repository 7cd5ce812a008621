import Brushwork.Geometry.Vector
import Brushwork.Number.Shortest
import Brushwork.Text.Blank

/-!
# Positions as text

A property holds a position as its three coordinates with a space between them.
`Vec3.text` writes one and `Vec3.read?` reads one back, taking any blanks around and
between the coordinates and ignoring what follows the third.
-/

namespace Brushwork

/-- The coordinates of a position, separated by spaces. -/
def Vec3.text (v : Vec3 Float32) : String :=
  singleText v.x ++ " " ++ singleText v.y ++ " " ++ singleText v.z

/-- The position whose coordinates are the first three words of a text. -/
def Vec3.read? (s : String) : Option (Vec3 Float32) :=
  match words s.toList with
  | x :: y :: z :: _ => do
    let x ← readNumber? x
    let y ← readNumber? y
    let z ← readNumber? z
    some ⟨x, y, z⟩
  | _ => none

end Brushwork
