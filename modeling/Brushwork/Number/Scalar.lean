import Brushwork.Number.Binary

/-!
# Scalars

Geometry is written over any type of scalars : the two floating-point types a level and
its brushes are stored in, and any ordered field in which the same formulas are exact.
`Scalar` holds the operations the formulas use. Comparisons are those of the type, so for
floating-point numbers every comparison with not-a-number is false and the two zeros are
equal.
-/

namespace Brushwork

universe u

/-- The operations of geometry on a type of numbers. -/
class Scalar (α : Type u) extends
    Zero α, One α, Add α, Sub α, Mul α, Div α, Neg α, BEq α, LT α, LE α where
  decidableLT : DecidableLT α
  decidableLE : DecidableLE α
  /-- The scalar nearest to `digits / 10 ^ places`. -/
  ofDecimal : (digits places : Nat) → α
  /-- The square root. -/
  sqrt : α → α
  /-- The absolute value. -/
  abs : α → α
  /-- The nearest whole number, halves away from zero. -/
  round : α → α
  /-- The whole part as a position in a table, zero for what is not positive. -/
  toPosition : α → Nat
  /-- Neither infinite nor not-a-number. -/
  isFinite : α → Bool
  /-- An upper bound of every scalar, where the type has one. -/
  top : α
  /-- A lower bound of every scalar, where the type has one. -/
  bottom : α

instance Scalar.instDecidableLT {α : Type u} [Scalar α] : DecidableLT α := Scalar.decidableLT

instance Scalar.instDecidableLE {α : Type u} [Scalar α] : DecidableLE α := Scalar.decidableLE

instance : Scalar Float32 where
  zero := 0
  one := 1
  decidableLT a b := inferInstanceAs (Decidable (a < b))
  decidableLE a b := inferInstanceAs (Decidable (a ≤ b))
  ofDecimal digits places := Binary.ofQuotient false digits (Nat.pow 10 places)
  sqrt := Float32.sqrt
  abs := Float32.abs
  round := Binary.round
  toPosition := Binary.toPosition
  isFinite := Binary.isFinite
  top := Binary.infinite false
  bottom := Binary.infinite true

instance : Scalar Float where
  zero := 0
  one := 1
  decidableLT a b := inferInstanceAs (Decidable (a < b))
  decidableLE a b := inferInstanceAs (Decidable (a ≤ b))
  ofDecimal digits places := Binary.ofQuotient false digits (Nat.pow 10 places)
  sqrt := Float.sqrt
  abs := Float.abs
  round := Binary.round
  toPosition := Binary.toPosition
  isFinite := Binary.isFinite
  top := Binary.infinite false
  bottom := Binary.infinite true

namespace Scalar

variable {α : Type u} [Scalar α]

/-- The scalar nearest to a natural number. -/
def ofNat (n : Nat) : α :=
  ofDecimal n 0

/-- The smaller of two scalars, the second if they are equal, as the two zeros are.
Not-a-number gives way to the other. -/
def least (a b : α) : α :=
  if b == b then (if a < b then a else b) else a

/-- The larger of two scalars, the second if they are equal, as the two zeros are.
Not-a-number gives way to the other. -/
def greatest (a b : α) : α :=
  if b == b then (if b < a then a else b) else a

/-- The scalars of a list that are numbers : those equal to themselves. -/
def ordinary (xs : List α) : List α :=
  xs.filter fun x => x == x

/-- The smallest number of a list, of equal ones the last. -/
def minimum (xs : List α) : α :=
  match ordinary xs with
  | [] => top
  | a :: as => as.foldl least a

/-- The largest number of a list, of equal ones the last. -/
def maximum (xs : List α) : α :=
  match ordinary xs with
  | [] => bottom
  | a :: as => as.foldl greatest a

/-- The first element of a list whose score is the largest, if that score is above zero,
together with the score. An element whose score compares with nothing is passed over. -/
def firstLargest {β : Type _} (score : β → α) (xs : List β) : α × Option β :=
  xs.foldl (fun best x => if best.1 < score x then (score x, some x) else best) (0, none)

/-- The element that is picked is one of the list. -/
theorem mem_of_firstLargest {β : Type _} {score : β → α} {xs : List β} {x : β}
    (h : (firstLargest score xs).2 = some x) : x ∈ xs := by
  revert h
  refine List.foldlRecOn (motive := fun best : α × Option β => best.2 = some x → x ∈ xs) xs _
    (fun hnone => ?_) fun best hbest y hy hx => ?_
  · cases hnone
  · split at hx
    · exact Option.some.inj hx ▸ hy
    · exact hbest hx

end Scalar

end Brushwork
