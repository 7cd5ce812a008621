import Mathlib
import Brushwork.Proofs.FacingAxes
import Brushwork.Proofs.Number.Widening

/-!
# The sample points of a plane

In exact arithmetic the sample points of a plane with a normal of length one are a corner at its
distance along the normal and two more, along its first texture direction and across that
(`Plane.samplePoints_eq_cornersAt`). What is left of that direction along the plane is not zero,
because the two texture directions and the normal span a volume (`Plane.across_ne_zero`). So the
three points fix the plane (`Plane.IsFixedBy`), by whatever positive number the direction is
scaled (`Plane.isFixedBy_cornersAt`).
-/

namespace Brushwork

open Matrix

/-! ## Three points in space -/

section Space

variable {a b c n u : Fin 3 → ℝ}

/-- Points of one line span no area. -/
theorem cross_sub_eq_zero_of_collinear (h : Collinear ℝ {a, b, c}) :
    (a - b) ⨯₃ (c - b) = 0 := by
  obtain ⟨start, direction, hline⟩ := (collinear_iff_exists_forall_eq_smul_vadd _).1 h
  obtain ⟨i, rfl⟩ := hline a (by simp)
  obtain ⟨j, rfl⟩ := hline b (by simp)
  obtain ⟨k, rfl⟩ := hline c (by simp)
  simp only [vadd_eq_add, add_sub_add_right_eq_sub, ← sub_smul, map_smul, LinearMap.smul_apply,
    cross_self, smul_zero]

/-- A corner and the ends of two legs, one along `u` and one across it and `n`, are wound along
`n`. -/
theorem cross_legs (h : n ⬝ᵥ u = 0) (a : Fin 3 → ℝ) (s : ℝ) :
    (a - (a + s • n ⨯₃ u)) ⨯₃ (a + s • u - (a + s • n ⨯₃ u)) = (s ^ 2 * (u ⬝ᵥ u)) • n := by
  have hdouble : n ⨯₃ u ⨯₃ u = -((u ⬝ᵥ u) • n) := by
    rw [cross_cross_eq_smul_sub_smul, h, zero_smul, zero_sub]
  calc (a - (a + s • n ⨯₃ u)) ⨯₃ (a + s • u - (a + s • n ⨯₃ u))
      = (-(s • n ⨯₃ u)) ⨯₃ (s • u - s • n ⨯₃ u) := by
        rw [sub_add_cancel_left, add_sub_add_left_eq_sub]
    _ = -(s • s • n ⨯₃ u ⨯₃ u) := by
        simp
    _ = (s ^ 2 * (u ⬝ᵥ u)) • n := by
        rw [hdouble, smul_neg, smul_neg, neg_neg, smul_smul, smul_smul, ← sq]

theorem not_collinear_of_cross_sub {k : ℝ} (hk : k ≠ 0) (hn : n ≠ 0)
    (h : (a - b) ⨯₃ (c - b) = k • n) : ¬ Collinear ℝ {a, b, c} := fun hcollinear =>
  smul_ne_zero hk hn (h.symm.trans (cross_sub_eq_zero_of_collinear hcollinear))

end Space

namespace Plane

/-! ## Corners of a plane -/

section Corners

variable {α : Type} [Scalar α]

/-- What is left of the first texture direction of a plane along the plane, if the normal has
length one. -/
def across (p : Plane α) : Vec3 α :=
  let axis := (AxisPair.facing p.normal).u
  axis - p.normal * axis.dot p.normal

/-- A corner at the distance of a plane along its normal, with the first texture direction along
the plane scaled by a number, and the ends of two legs : the second is along that direction and
the first across it. -/
def cornersAt (p : Plane α) (scale : α) : Triangle α :=
  let origin := p.normal * p.dist
  let u := p.across * scale
  let v := p.normal.cross u
  let spacing : α := sampleSpacing
  ⟨origin, origin + v * spacing, origin + u * spacing⟩

end Corners

/-- Three points lie on a plane but not on one line, and are wound along the normal. -/
structure IsFixedBy (p : Plane ℝ) (t : Triangle ℝ) : Prop where
  dot_a : p.normal.dot t.a = p.dist
  dot_b : p.normal.dot t.b = p.dist
  dot_c : p.normal.dot t.c = p.dist
  not_collinear : ¬ Collinear ℝ {t.a.along, t.b.along, t.c.along}
  exists_winding : ∃ k : ℝ, 0 < k ∧ (t.a - t.b).cross (t.c - t.b) = p.normal * k

variable {p : Plane ℝ}

theorem sampleSpacing_pos : (0 : ℝ) < sampleSpacing := by
  simp [sampleSpacing, Scalar.ofNat, Scalar.ofDecimal]

section Components

variable (p) (scale : ℝ)

theorem along_a_cornersAt : (p.cornersAt scale).a.along = p.dist • p.normal.along :=
  Vec3.along_mul ..

theorem along_b_cornersAt : (p.cornersAt scale).b.along =
    p.dist • p.normal.along +
      (sampleSpacing : ℝ) • p.normal.along ⨯₃ (scale • p.across.along) := by
  simp [cornersAt]

theorem along_c_cornersAt : (p.cornersAt scale).c.along =
    p.dist • p.normal.along + (sampleSpacing : ℝ) • scale • p.across.along := by
  simp [cornersAt]

end Components

section Unit

variable (h : p.normal.lengthSquared = 1)
include h

theorem normal_dot_normal : p.normal.along ⬝ᵥ p.normal.along = 1 := by
  rwa [← Vec3.lengthSquared_eq]

theorem normal_ne_zero : p.normal ≠ .zero := by
  intro hzero
  have hone := normal_dot_normal h
  simp [hzero] at hone

theorem normal_dot_across : p.normal.along ⬝ᵥ p.across.along = 0 := by
  simp only [across, Vec3.along_sub, Vec3.along_mul, Vec3.dot_eq, dotProduct_sub, dotProduct_smul,
    normal_dot_normal h, smul_eq_mul, mul_one]
  rw [dotProduct_comm, sub_self]

/-- A first texture direction along the normal would span no volume with it. -/
theorem across_ne_zero : p.across ≠ .zero := by
  intro hzero
  have hspan := AxisPair.abs_dot_cross_facing (normal_ne_zero h)
  have haxis : (AxisPair.facing p.normal).u.along =
      (AxisPair.facing p.normal).u.dot p.normal • p.normal.along := by
    have halong := congrArg Vec3.along hzero
    rwa [across, Vec3.along_sub, Vec3.along_mul, Vec3.along_zero, sub_eq_zero] at halong
  rw [Vec3.dot_eq, Vec3.along_cross, haxis, map_smul, LinearMap.smul_apply, dotProduct_smul,
    dot_self_cross, smul_zero, abs_zero] at hspan
  exact (p.normal.maxAbs_pos (normal_ne_zero h)).ne hspan

/-- However long the legs are made, their ends and their corner fix the plane. -/
theorem isFixedBy_cornersAt {scale : ℝ} (hscale : 0 < scale) : p.IsFixedBy (p.cornersAt scale) := by
  have hunit := normal_dot_normal h
  have ha := along_a_cornersAt p scale
  have hb := along_b_cornersAt p scale
  have hc := along_c_cornersAt p scale
  have hperp : p.normal.along ⬝ᵥ scale • p.across.along = 0 := by
    rw [dotProduct_smul, normal_dot_across h, smul_zero]
  have hleg : scale • p.across.along ≠ 0 :=
    smul_ne_zero hscale.ne' (mt (Vec3.along_eq_zero_iff _).1 (across_ne_zero h))
  generalize scale • p.across.along = u at hb hc hperp hleg
  have hk : 0 < (sampleSpacing : ℝ) ^ 2 * (u ⬝ᵥ u) :=
    mul_pos (pow_pos sampleSpacing_pos 2) (by simpa using dotProduct_star_self_pos_iff.2 hleg)
  have hlegs := cross_legs hperp (p.dist • p.normal.along) sampleSpacing
  rw [← hb, ← hc, ← ha] at hlegs
  refine ⟨?_, ?_, ?_, ?_, _, hk, Vec3.along_injective ?_⟩
  · simp [Vec3.dot_eq, ha, hunit]
  · simp [Vec3.dot_eq, hb, hunit, dotProduct_add]
  · simp [Vec3.dot_eq, hc, hunit, dotProduct_add, hperp]
  · exact not_collinear_of_cross_sub hk.ne'
      (mt (Vec3.along_eq_zero_iff _).1 (normal_ne_zero h)) hlegs
  · rw [Vec3.along_cross, Vec3.along_sub, Vec3.along_sub, Vec3.along_mul, hlegs]

theorem length_across_pos : 0 < p.across.length :=
  (Real.sqrt_nonneg _).lt_of_ne' (mt (Vec3.length_eq_zero_iff _).1 (across_ne_zero h))

/-- The sample points are the corners with the direction along the plane scaled to length one. -/
theorem samplePoints_eq_cornersAt : p.samplePoints = p.cornersAt (1 / p.across.length) := by
  have hdegenerate : p.isDegenerate = false := by
    rw [← Bool.not_eq_true, isDegenerate, Vec3.sameAs_iff]
    exact normal_ne_zero h
  have hnormal : p.normal.normalize = p.normal := Vec3.normalize_of_unit h
  have hacross : p.across.normalizeOrZero = p.across * (1 / p.across.length) :=
    Vec3.normalizeOrZero_of_length_pos (length_across_pos h)
  rw [across] at hacross
  unfold samplePoints
  rw [hdegenerate, hnormal]
  simp only [Bool.false_eq_true, if_false]
  rw [hacross]
  rfl

end Unit

/-! ## Planes with a zero normal -/

theorem samplePoints_of_isDegenerate {α : Type} [Scalar α] {p : Plane α}
    (h : p.isDegenerate = true) : p.samplePoints = .zero :=
  if_pos h

/-- A stored plane with a zero normal of any signs has three zero points. -/
theorem points_of_isDegenerate {p : Plane Float32} (h : p.isDegenerate = true) :
    p.points = .zero := by
  refine samplePoints_of_isDegenerate ?_
  simp only [isDegenerate, Vec3.sameAs, Bool.and_eq_true] at h ⊢
  exact ⟨⟨Binary.widen_beq_zero h.1.1, Binary.widen_beq_zero h.1.2⟩, Binary.widen_beq_zero h.2⟩

/-- Three points are generated on a plane with a normal of length one that fix it : the texture
direction they are taken along has a part along the plane, and whatever positive number that is
scaled by, the points lie on the plane, not on one line, and are wound along the normal. A plane
with a zero normal has three zero points. -/
theorem isFixedBy_samplePoints (p : Plane ℝ) (h : p.normal.lengthSquared = 1) :
    (p.across ≠ .zero ∧ p.normal.dot p.across = 0) ∧
    (∀ scale : ℝ, 0 < scale → p.IsFixedBy (p.cornersAt scale)) ∧
    (∃ scale : ℝ, 0 < scale ∧ p.samplePoints = p.cornersAt scale) ∧
    p.IsFixedBy p.samplePoints ∧
    (∀ dist : ℝ, samplePoints ⟨.zero, dist⟩ = .zero) ∧
    ∀ stored : Plane Float32, stored.isDegenerate = true → stored.points = .zero := by
  have hscale : 0 < 1 / p.across.length := one_div_pos.2 (length_across_pos h)
  have hpoints := samplePoints_eq_cornersAt h
  refine ⟨⟨across_ne_zero h, ?_⟩, fun scale => isFixedBy_cornersAt h, ⟨_, hscale, hpoints⟩, ?_,
    fun dist => samplePoints_of_isDegenerate ?_, fun stored => points_of_isDegenerate⟩
  · rw [Vec3.dot_eq, normal_dot_across h]
  · rw [hpoints]
    exact isFixedBy_cornersAt h hscale
  · rw [isDegenerate, Vec3.sameAs_iff]

/-- A plane across the edge between two walls. -/
theorem isFixedBy_samplePoints_edge :
    let p : Plane ℝ := ⟨⟨2 / 3, 2 / 3, 1 / 3⟩, 6⟩
    p.normal.lengthSquared = 1 ∧ p.across ≠ .zero ∧ p.IsFixedBy p.samplePoints := by
  intro p
  have hunit : p.normal.lengthSquared = 1 := by
    norm_num [Vec3.lengthSquared, Vec3.dot, p]
  obtain ⟨hacross, -, -, hfixed, -⟩ := isFixedBy_samplePoints p hunit
  exact ⟨hunit, hacross.1, hfixed⟩

end Plane

end Brushwork
