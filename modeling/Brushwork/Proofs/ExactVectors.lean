import Mathlib
import Brushwork.Geometry.TextureMapping
import Brushwork.Proofs.Number.Exact

/-!
# Vectors in exact arithmetic

A vector over the reals is one of three components (`Vec3.along`), and its operations are those of
the space of such vectors : the scalar product (`Vec3.dot_eq`), the vector product
(`Vec3.along_cross`), sums and multiples. What is proved about them there is then known of the
formulas of geometry.
-/

namespace Brushwork

open Matrix

namespace Vec3

/-- A vector by its components. -/
def along {α : Type*} (v : Vec3 α) : Fin 3 → α
  | 0 => v.x
  | 1 => v.y
  | 2 => v.z

theorem along_injective {α : Type*} : Function.Injective (along : Vec3 α → Fin 3 → α) := by
  intro a b h
  have hx := congrFun h 0
  have hy := congrFun h 1
  have hz := congrFun h 2
  cases a
  cases b
  simp_all [along]

variable (a b : Vec3 ℝ) (s : ℝ)

@[simp] theorem along_zero : (zero : Vec3 ℝ).along = 0 := by
  ext axis
  fin_cases axis <;> rfl

theorem along_eq_zero_iff : a.along = 0 ↔ a = zero := by
  rw [← along_zero, along_injective.eq_iff]

@[simp] theorem along_add : (a + b).along = a.along + b.along := by
  ext axis
  fin_cases axis <;> rfl

@[simp] theorem along_sub : (a - b).along = a.along - b.along := by
  ext axis
  fin_cases axis <;> rfl

@[simp] theorem along_mul : (a * s).along = s • a.along := by
  ext axis
  fin_cases axis <;> exact mul_comm _ s

@[simp] theorem along_div : (a / s).along = s⁻¹ • a.along := by
  ext axis
  fin_cases axis <;> exact div_eq_inv_mul _ s

@[simp] theorem along_cross : (a.cross b).along = a.along ⨯₃ b.along := by
  rw [cross_apply]
  ext axis
  fin_cases axis
  · exact congrArg (a.y * b.z - ·) (mul_comm b.y a.z)
  · exact congrArg (a.z * b.x - ·) (mul_comm b.z a.x)
  · exact congrArg (a.x * b.y - ·) (mul_comm b.x a.y)

theorem dot_eq : a.dot b = a.along ⬝ᵥ b.along := by
  rw [vec3_dotProduct]
  rfl

theorem lengthSquared_eq : a.lengthSquared = a.along ⬝ᵥ a.along :=
  a.dot_eq a

theorem length_eq_zero_iff : a.length = 0 ↔ a = zero := by
  have hlength : a.length = √(a.along ⬝ᵥ a.along) := congrArg Real.sqrt a.lengthSquared_eq
  have hnonneg : 0 ≤ a.along ⬝ᵥ a.along := by
    simpa using dotProduct_star_self_nonneg a.along
  rw [hlength, Real.sqrt_eq_zero hnonneg, dotProduct_self_eq_zero, along_eq_zero_iff]

theorem mk_sub_mk (x y z x' y' z' : ℝ) :
    (⟨x, y, z⟩ : Vec3 ℝ) - ⟨x', y', z'⟩ = ⟨x - x', y - y', z - z'⟩ :=
  rfl

variable {a b}

theorem sameAs_iff : a.sameAs b = true ↔ a = b := by
  cases a
  cases b
  simp [sameAs, and_assoc]

theorem normalize_of_unit (h : a.lengthSquared = 1) : a.normalize = a := by
  have hlength : a.length = 1 := by
    rw [length, h]
    exact Real.sqrt_one
  apply along_injective
  rw [normalize, along_mul, hlength, div_one, one_smul]

theorem normalizeOrZero_of_length_pos (h : 0 < a.length) :
    a.normalizeOrZero = a * (1 / a.length) := by
  simp [normalizeOrZero, h]

end Vec3

end Brushwork
