import Mathlib
import Brushwork.Proofs.ExactVectors

/-!
# Texture coordinates

A mapping with axes of length one and a projection give texture coordinates of their own
(`TextureMapping.texel`, `TextureProjection.texel`). In exact arithmetic a projection is converted
to a mapping that gives a point the coordinates the projection gave it before the entity was moved
to its origin (`TextureMapping.texel_ofProjection?`). For that it does not matter which numbers
other than zero the lengths of the axes are taken to be : an axis is divided by its length, and the
scale takes that back (`TextureMapping.dot_div_div`).
-/

namespace Brushwork

open Matrix

namespace TextureMapping

section Lengths

variable {α : Type} [Scalar α]

/-- The texture coordinates of a point. -/
def texel (m : TextureMapping α) (point : Vec3 α) : Vec2 α :=
  ⟨(m.uAxis / m.scale.x).dot point + m.uOffset, (m.vAxis / m.scale.y).dot point + m.vOffset⟩

/-- The mapping of an entity at `origin` that a projection is converted to if its axes are taken to
have given lengths; none if one of them is zero. -/
def ofLengths? (p : TextureProjection α) (origin : Vec3 α) (uLength vLength : α) :
    Option (TextureMapping α) :=
  if uLength == 0 || vLength == 0 then none
  else some {
    uAxis := p.uAxis / uLength
    uOffset := p.uOffset - p.uAxis.dot origin
    vAxis := p.vAxis / vLength
    vOffset := p.vOffset - p.vAxis.dot origin
    scale := ⟨1 / uLength, 1 / vLength⟩
    rotation := 0 }

theorem ofProjection?_eq_ofLengths? (p : TextureProjection α) (origin : Vec3 α) :
    ofProjection? p origin = ofLengths? p origin p.uAxis.length p.vAxis.length :=
  rfl

end Lengths

/-- Along an axis divided by its length, in units of the length's reciprocal. -/
theorem dot_div_div (axis origin point : Vec3 ℝ) (offset : ℝ) {length : ℝ} (h : length ≠ 0) :
    (axis / length / (1 / length)).dot point + (offset - axis.dot origin) =
      (point - origin).dot axis + offset := by
  have haxis : (axis / length / (1 / length)).along = axis.along := by
    rw [Vec3.along_div, Vec3.along_div, one_div, inv_inv, smul_inv_smul₀ h]
  rw [Vec3.dot_eq, haxis, Vec3.dot_eq, Vec3.dot_eq, Vec3.along_sub, sub_dotProduct,
    dotProduct_comm point.along, dotProduct_comm origin.along]
  ring

variable (p : TextureProjection ℝ) (origin : Vec3 ℝ)

theorem ofLengths?_eq_none_iff (uLength vLength : ℝ) :
    ofLengths? p origin uLength vLength = none ↔ uLength = 0 ∨ vLength = 0 := by
  simp [ofLengths?, or_iff_not_imp_left]

theorem texel_of_ofLengths? {uLength vLength : ℝ} {m : TextureMapping ℝ}
    (h : ofLengths? p origin uLength vLength = some m) (point : Vec3 ℝ) :
    m.texel point = p.texel (point - origin) := by
  have hne : ¬ (uLength = 0 ∨ vLength = 0) := by
    rw [← ofLengths?_eq_none_iff p origin, h]
    exact Option.some_ne_none m
  obtain ⟨hu, hv⟩ := not_or.1 hne
  rw [ofLengths?, if_neg (by simpa using hne)] at h
  rw [← Option.some.inj h]
  exact congrArg₂ Vec2.mk (dot_div_div p.uAxis origin point p.uOffset hu)
    (dot_div_div p.vAxis origin point p.vOffset hv)

/-- A converted projection gives each point the texture coordinates that the projection gives it
relative to the origin of the entity. A projection is converted unless one of its axes is zero, in
which case a side has the default mapping of its plane. The same holds for any lengths that the
axes are taken to have. -/
theorem texel_ofProjection? :
    (∀ m, ofProjection? p origin = some m →
      ∀ point, m.texel point = p.texel (point - origin)) ∧
    (ofProjection? p origin = none ↔ p.uAxis = .zero ∨ p.vAxis = .zero) ∧
    (∀ plane, ofProjection? p origin = none →
      ofSide (some p) plane origin = facing plane.normal) ∧
    ofProjection? p origin = ofLengths? p origin p.uAxis.length p.vAxis.length ∧
    ∀ uLength vLength : ℝ,
      (ofLengths? p origin uLength vLength = none ↔ uLength = 0 ∨ vLength = 0) ∧
      ∀ m, ofLengths? p origin uLength vLength = some m →
        ∀ point, m.texel point = p.texel (point - origin) := by
  have heq := ofProjection?_eq_ofLengths? p origin
  refine ⟨fun m hm => texel_of_ofLengths? p origin (heq ▸ hm), ?_, fun plane hnone => ?_, heq,
    fun uLength vLength => ⟨ofLengths?_eq_none_iff p origin uLength vLength,
      fun m => texel_of_ofLengths? p origin⟩⟩
  · rw [heq, ofLengths?_eq_none_iff, Vec3.length_eq_zero_iff, Vec3.length_eq_zero_iff]
  · rw [ofSide, Option.bind_some, hnone, Option.getD_none]

/-- A projection with two texels a unit along x and a quarter texel along z. -/
theorem texel_ofProjection?_moved :
    let p : TextureProjection ℝ := ⟨⟨2, 0, 0⟩, 8, ⟨0, 0, -1 / 4⟩, 0⟩
    ∃ m, ofProjection? p ⟨32, 0, 16⟩ = some m ∧ m.texel ⟨40, 8, 24⟩ = ⟨24, -2⟩ := by
  intro p
  obtain ⟨htexel, hnone, -⟩ := texel_ofProjection? p ⟨32, 0, 16⟩
  have hsome : ofProjection? p ⟨32, 0, 16⟩ ≠ none := by
    rw [ne_eq, hnone, not_or]
    exact ⟨fun h => two_ne_zero (congrArg Vec3.x h),
      fun h => (by norm_num : (-1 / 4 : ℝ) ≠ 0) (congrArg Vec3.z h)⟩
  obtain ⟨m, hm⟩ := Option.ne_none_iff_exists'.1 hsome
  refine ⟨m, hm, (htexel m hm _).trans ?_⟩
  norm_num [TextureProjection.texel, Vec3.dot, Vec3.mk_sub_mk, p]

end TextureMapping

end Brushwork
