import Mathlib
import Brushwork.Proofs.ExactVectors
import Brushwork.Proofs.LargestTriangle

/-!
# The texture directions of a plane

In exact arithmetic the row of the table that decides about the texture directions of a plane is
the first of those whose direction the normal points along most. How far it does is the largest
absolute component of the normal (`AxisPair.dot_eq_maxAbs`), and so is the volume spanned by the
normal and the two directions (`AxisPair.abs_dot_cross`). It is not zero, so that the texture
coordinates of a point of the plane fix the point (`Vec3.injOn_dots`).
-/

namespace Brushwork

open Matrix Scalar

/-- Real numbers are ordered by themselves. -/
theorem Scalar.comparesBy_id : ComparesBy (id : ℝ → ℝ) where
  lt_iff x y := by simp [IsNumber]
  le_iff x y := by simp [IsNumber]

theorem Scalar.isNumber_real (x : ℝ) : IsNumber x := by
  simp [IsNumber]

namespace Vec3

variable {n u v : Vec3 ℝ}

/-- The largest absolute component. -/
noncomputable def maxAbs (n : Vec3 ℝ) : ℝ :=
  max |n.x| (max |n.y| |n.z|)

theorem maxAbs_pos (h : n ≠ zero) : 0 < n.maxAbs := by
  by_contra hnot
  simp only [maxAbs, lt_max_iff, abs_pos, not_or, ne_eq, not_not] at hnot
  obtain ⟨hx, hy, hz⟩ := hnot
  refine h (n.along_eq_zero_iff.1 ?_)
  ext axis
  fin_cases axis
  · exact hx
  · exact hy
  · exact hz

/-- If three directions span a volume, the products with two of them tell points apart that have
the same product with the third. -/
theorem injOn_dots (h : n.dot (u.cross v) ≠ 0) (d : ℝ) :
    Set.InjOn (fun p : Vec3 ℝ => (p.dot u, p.dot v)) {p | n.dot p = d} := by
  intro p hp q hq heq
  obtain ⟨hu, hv⟩ := Prod.mk.inj heq
  have hn : n.dot p = n.dot q := hp.trans hq.symm
  simp only [dot_eq, along_cross] at h hu hv hn
  have hdet : Matrix.det ![n.along, u.along, v.along] ≠ 0 := by
    rwa [← triple_product_eq_det]
  have hzero : p.along - q.along = 0 := by
    refine eq_zero_of_mulVec_eq_zero hdet (funext fun row => ?_)
    fin_cases row
    · exact (dotProduct_sub ..).trans (sub_eq_zero.2 hn)
    · exact (dotProduct_comm ..).trans ((sub_dotProduct ..).trans (sub_eq_zero.2 hu))
    · exact (dotProduct_comm ..).trans ((sub_dotProduct ..).trans (sub_eq_zero.2 hv))
  exact along_injective (sub_eq_zero.1 hzero)

end Vec3

namespace AxisPair

variable (n : Vec3 ℝ) {row : Vec3 ℝ × AxisPair ℝ}

theorem forall_dot_le_iff (m : ℝ) : (∀ row ∈ table, n.dot row.1 ≤ m) ↔ n.maxAbs ≤ m := by
  have hrows : (∀ row ∈ table, n.dot row.1 ≤ m) ↔
      n.z ≤ m ∧ -n.z ≤ m ∧ n.x ≤ m ∧ -n.x ≤ m ∧ n.y ≤ m ∧ -n.y ≤ m := by
    simp [table, Vec3.dot]
  rw [hrows, Vec3.maxAbs, max_le_iff, max_le_iff, abs_le', abs_le', abs_le']
  tauto

theorem dot_eq_maxAbs (hrow : row ∈ table) (hle : ∀ other ∈ table, n.dot other.1 ≤ n.dot row.1) :
    n.dot row.1 = n.maxAbs :=
  le_antisymm ((forall_dot_le_iff n n.maxAbs).2 le_rfl row hrow) ((forall_dot_le_iff n _).1 hle)

/-- The directions of a row span a unit square across its axis. -/
theorem abs_dot_cross (hrow : row ∈ table) :
    |n.dot (row.2.u.cross row.2.v)| = |n.dot row.1| := by
  revert row
  simp [table, acrossX, acrossY, acrossZ, Vec3.dot, Vec3.cross]

variable {n}

theorem exists_facing_eq (h : n ≠ .zero) :
    ∃ row, facing n = row.2 ∧ IsFirstLargest (fun row => n.dot row.1) table row := by
  have hleads := leads_firstLargest comparesBy_id (fun row => n.dot row.1) table
  unfold facing
  generalize firstLargest (fun row : Vec3 ℝ × AxisPair ℝ => n.dot row.1) table = best at hleads
  cases hleads with
  | none hnone =>
    have hle := (forall_dot_le_iff n 0).1 fun row hrow => not_lt.1 (hnone row hrow)
    exact absurd (n.maxAbs_pos h) hle.not_gt
  | @some row _ hfirst => exact ⟨row, rfl, hfirst⟩

/-- The texture directions of a plane span a volume with its normal. -/
theorem abs_dot_cross_facing (h : n ≠ .zero) :
    |n.dot ((facing n).u.cross (facing n).v)| = n.maxAbs := by
  obtain ⟨row, heq, hfirst⟩ := exists_facing_eq h
  have hmax := dot_eq_maxAbs n hfirst.mem fun other hother =>
    hfirst.score_le other hother (isNumber_real _)
  rw [heq, abs_dot_cross n hfirst.mem, hmax, abs_of_pos (n.maxAbs_pos h)]

/-- The texture directions of a plane are those of the first row of the table with a direction that
the normal points along most. How far it does is its largest absolute component, and so is the
volume that it spans with the two directions, by which the points of the plane are told apart. -/
theorem facing_nearest (h : n ≠ .zero) :
    ∃ before row after, table = before ++ row :: after ∧ facing n = row.2 ∧
      (∀ other ∈ table, n.dot other.1 ≤ n.dot row.1) ∧
      (∀ other ∈ before, n.dot other.1 < n.dot row.1) ∧
      n.dot row.1 = max |n.x| (max |n.y| |n.z|) ∧ 0 < n.dot row.1 ∧
      |n.dot ((facing n).u.cross (facing n).v)| = n.dot row.1 ∧
      ∀ d, Set.InjOn (fun p : Vec3 ℝ => (p.dot (facing n).u, p.dot (facing n).v))
        {p | n.dot p = d} := by
  obtain ⟨row, heq, hfirst⟩ := exists_facing_eq h
  have hle : ∀ other ∈ table, n.dot other.1 ≤ n.dot row.1 := fun other hother =>
    hfirst.score_le other hother (isNumber_real _)
  have hmax : n.dot row.1 = n.maxAbs := dot_eq_maxAbs n hfirst.mem hle
  have hpos : 0 < n.maxAbs := n.maxAbs_pos h
  have hspan := abs_dot_cross_facing h
  obtain ⟨before, after, htable, hbefore⟩ := hfirst.exists_before
  refine ⟨before, row, after, htable, heq, hle, fun other hother =>
    hbefore other hother (isNumber_real _), hmax, hmax ▸ hpos, hspan.trans hmax.symm, ?_⟩
  exact Vec3.injOn_dots (abs_pos.1 (hspan ▸ hpos))

/-- A normal that points along the ceiling as much as along a wall has the texture directions of
the ceiling, which comes before it. -/
theorem facing_nearest_edge :
    let n : Vec3 ℝ := ⟨1, 0, -1⟩
    n ≠ .zero ∧ facing n = .acrossZ ∧ |n.dot ((facing n).u.cross (facing n).v)| = 1 := by
  intro n
  have hne : n ≠ .zero := fun h => one_ne_zero (congrArg Vec3.x h)
  have hceiling : facing n = .acrossZ := by
    norm_num [facing, firstLargest, table, Vec3.dot, n]
  obtain ⟨before, row, after, -, -, -, -, hmax, -, hspan, -⟩ := facing_nearest hne
  exact ⟨hne, hceiling, by rw [hspan, hmax]; simp [n]⟩

end AxisPair

end Brushwork
