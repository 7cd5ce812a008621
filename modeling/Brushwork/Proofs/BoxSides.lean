import Mathlib
import Brushwork.Proofs.SideWarnings
import Brushwork.Proofs.ExactVectors

/-!
# The sides of a box

Some families store the first six sides of a brush as the bounds of a box. A side of a recovered
brush comes of each stored side that is not dropped, in order, and the place that decides about
its plane is counted over all of them : a side without a face has the plane of a side of the box
if its place is below six (`Plane.IsBoxSide`), and the one its reference leads to from then on
(`Level.recoverBrush_boxSides`). If none of the six is dropped or has a face, the points behind
their planes are those between the bounds (`Level.StartsWithBox.forall_elevation_le_iff`).
-/

namespace Brushwork

open Binary

/-- Every component is a finite number. -/
def Vec3.IsFinite (v : Vec3 Float32) : Prop :=
  ∀ axis, isFinite (v.along axis) = true

instance (v : Vec3 Float32) : Decidable v.IsFinite :=
  inferInstanceAs (Decidable (∀ axis, isFinite (v.along axis) = true))

/-! ## The planes of a box -/

namespace Plane

/-- The plane is the one at place `i` among those of a box : across axis `i / 2` through a bound,
in the negative direction if `i` is even. -/
structure IsBoxSide (plane : Plane Float32) (i : Nat) (bound : Float32) : Prop where
  normal_eq : ∀ axis : Fin 3, plane.normal.along axis =
    if axis.val = i / 2 then (if i % 2 = 0 then -1 else 1) else 0
  dist_eq : plane.dist = if i % 2 = 0 then -bound else bound

theorem isBoxSide_boxSide (i : Fin 6) (bound : Float32) : (boxSide i bound).IsBoxSide i bound where
  normal_eq axis := by
    fin_cases i <;> fin_cases axis <;> rfl
  dist_eq := rfl

/-- The elevation of a point in exact arithmetic, by components. -/
theorem elevation_exact (plane : Plane Float32) (p : Vec3 Float32) :
    (plane.map exact).elevation (p.map exact) =
      ∑ axis, exact (plane.normal.along axis) * exact (p.along axis) - exact plane.dist := by
  rw [Fin.sum_univ_three]
  rfl

/-- The points behind the plane of a box are those on the inner side of its bound. -/
theorem IsBoxSide.elevation_le_iff {plane : Plane Float32} {i : Nat} {bound : Float32}
    (h : plane.IsBoxSide i bound) {axis : Fin 3} (haxis : axis.val = i / 2)
    {p : Vec3 Float32} (hbound : isFinite bound = true) (hp : isFinite (p.along axis) = true) :
    (plane.map exact).elevation (p.map exact) ≤ 0 ↔
      if i % 2 = 0 then bound ≤ p.along axis else p.along axis ≤ bound := by
  have hnegative : exact (-1) = -1 := by
    rw [exact_neg (by decide), exact_one]
  have hnormal : ∀ a : Fin 3, exact (plane.normal.along a) =
      if a = axis then (if i % 2 = 0 then -1 else 1) else 0 := by
    intro a
    rw [h.normal_eq, ← haxis, apply_ite exact, apply_ite exact, exact_zero, exact_one, hnegative]
    simp only [Fin.ext_iff]
  rw [elevation_exact]
  -- Only the component along the axis is left of the sum.
  simp only [hnormal, ite_mul, zero_mul, Finset.sum_ite_eq', Finset.mem_univ, if_true]
  rw [h.dist_eq]
  split_ifs
  · rw [exact_neg hbound, le_iff_exact_le hbound hp]
    constructor <;> intro h <;> linarith
  · rw [le_iff_exact_le hp hbound]
    constructor <;> intro h <;> linarith

end Plane

/-! ## The sides of a brush -/

/-- What is found in the elements of a list, each beside the element. -/
theorem forall₂_filterMap {α β : Type*} (f : α → Option β) :
    ∀ xs : List α,
      List.Forall₂ (fun x y => f x = some y) (xs.filter fun x => (f x).isSome) (xs.filterMap f)
  | [] => .nil
  | x :: xs => by
    have ih := forall₂_filterMap f xs
    cases h : f x with
    | none => simpa [h] using ih
    | some y => simpa [h] using ih

/-- A condition on one of two lists beside each other is one on the other. -/
theorem forall_mem_iff_of_forall₂ {α β : Type*} {R : α → β → Prop} {P : α → Prop} {Q : β → Prop} :
    ∀ {xs : List α} {ys : List β}, List.Forall₂ R xs ys → (∀ x ∈ xs, ∀ y, R x y → (P x ↔ Q y)) →
      ((∀ x ∈ xs, P x) ↔ ∀ y ∈ ys, Q y)
  | _, _, .nil, _ => by simp
  | x :: xs, y :: ys, .cons hxy h, hpq => by
    obtain ⟨hhead, htail⟩ := List.forall_mem_cons.1 hpq
    rw [List.forall_mem_cons, List.forall_mem_cons, hhead y hxy,
      forall_mem_iff_of_forall₂ h htail]

theorem Family.storesBoxSides_iff (family : Family) :
    family.storesBoxSides = true ↔ family ∈ [cod, cod2, cod4] := by
  cases family <;> decide

namespace Level

/-- The stored sides of a brush start with six that are recovered without a face, and hold the
bounds of a box. -/
structure StartsWithBox (level : Level) (sides : List BrushSide) (lowest highest : Vec3 Float32) :
    Prop where
  bounds_eq : (sides.take 6).map (·.bound) =
    [lowest.x, highest.x, lowest.y, highest.y, lowest.z, highest.z]
  lowest_isFinite : lowest.IsFinite
  highest_isFinite : highest.IsFinite
  isBare : ∀ side ∈ sides.take 6, side.isBevel = false ∧ level.sideFace? side = none

variable {level : Level} {settings : Settings} {origin : Vec3 Float}

/-- The plane of a side without a face is decided by its place among all stored sides. -/
theorem plane_recoverSide_of_no_face (hbox : level.family.storesBoxSides = true)
    {record : BrushSide} {index : Nat} {side : Editor.Side}
    (hside : (level.recoverSide settings origin record index).value = some side)
    (hface : level.sideFace? record = none) :
    (index < 6 → side.plane.IsBoxSide index record.bound) ∧
      (6 ≤ index → side.plane = (level.plane? record.plane).getD .zero) := by
  have hkept : level.isDropped record = false := by
    have hsome : (level.recoverSide settings origin record index).value.isSome = true := by
      rw [hside, Option.isSome_some]
    rwa [isSome_recoverSide, Bool.not_eq_true'] at hsome
  rw [recoverSide_of_no_face hkept hface] at hside
  have hplane : side.plane = (level.barePlane record index).value := by
    rw [← Option.some.inj hside]
    rfl
  rw [hplane]
  constructor
  · intro hindex
    rw [barePlane, dif_pos hindex, if_pos hbox]
    exact Plane.isBoxSide_boxSide ⟨index, hindex⟩ record.bound
  · intro hindex
    rw [barePlane, dif_neg (Nat.not_lt.2 hindex), planeOrZero]
    cases level.plane? record.plane <;> rfl

/-- What comes of the stored sides of a brush that are not dropped, each beside the stored side
and its place. -/
theorem forall₂_recoverBrush (level : Level) (settings : Settings) (origin : Vec3 Float)
    (brush : Brush) (sides : List BrushSide) :
    ∃ made, (level.recoverBrush settings origin brush sides).value.shape = .sides made ∧
      List.Forall₂
        (fun record side =>
          (level.recoverSide settings origin record.1 record.2).value = some side)
        (sides.zipIdx.filter fun record => !level.isDropped record.1) made := by
  let recovered : BrushSide × Nat → Option Editor.Side := fun record =>
    (level.recoverSide settings origin record.1 record.2).value
  refine ⟨sides.zipIdx.filterMap recovered, ?_, ?_⟩
  · have hshape : (level.recoverBrush settings origin brush sides).value.shape =
        .sides ((Warned.forEach
          (fun record => level.recoverSide settings origin record.1 record.2)
            sides.zipIdx).value.filterMap id) := rfl
    rw [hshape, Warned.value_forEach, List.filterMap_map]
    rfl
  · have hsome : (fun record => !level.isDropped record.1) = fun record =>
        (recovered record).isSome := funext fun _ => isSome_recoverSide.symm
    rw [hsome]
    exact forall₂_filterMap recovered _

theorem StartsWithBox.length_take {sides : List BrushSide} {lowest highest : Vec3 Float32}
    (h : level.StartsWithBox sides lowest highest) : (sides.take 6).length = 6 := by
  rw [← List.length_map (f := (·.bound)), h.bounds_eq]
  rfl

/-- A box at the start of a brush is kept. -/
theorem StartsWithBox.take_filter {sides : List BrushSide} {lowest highest : Vec3 Float32}
    (h : level.StartsWithBox sides lowest highest) :
    (sides.zipIdx.filter fun record => !level.isDropped record.1).take 6 =
      (sides.take 6).zipIdx := by
  have hkept : (sides.take 6).zipIdx.filter (fun record => !level.isDropped record.1) =
      (sides.take 6).zipIdx := by
    refine List.filter_eq_self.2 fun record hrecord => ?_
    obtain ⟨hbevel, hface⟩ := h.isBare record.1 (List.fst_mem_of_mem_zipIdx hrecord)
    simp [isDropped, hbevel, hface]
  have hlength : (sides.take 6).zipIdx.length = 6 := by
    rw [List.length_zipIdx, h.length_take]
  have hsplit : (sides.take 6 ++ sides.drop 6).zipIdx = _ := List.zipIdx_append
  rw [List.take_append_drop] at hsplit
  rw [hsplit, List.filter_append, hkept, List.take_append_of_le_length hlength.ge,
    List.take_of_length_le hlength.le]

theorem StartsWithBox.isFinite_bound {sides : List BrushSide} {lowest highest : Vec3 Float32}
    (h : level.StartsWithBox sides lowest highest) {side : BrushSide}
    (hside : side ∈ sides.take 6) : isFinite side.bound = true := by
  have hmem := List.mem_map_of_mem (f := (·.bound)) hside
  rw [h.bounds_eq] at hmem
  have hlow := h.lowest_isFinite
  have hhigh := h.highest_isFinite
  simp only [List.mem_cons, List.not_mem_nil, or_false] at hmem
  rcases hmem with hx | hx | hy | hy | hz | hz
  · exact hx ▸ hlow 0
  · exact hx ▸ hhigh 0
  · exact hy ▸ hlow 1
  · exact hy ▸ hhigh 1
  · exact hz ▸ hlow 2
  · exact hz ▸ hhigh 2

/-- Points are behind the six planes of a box exactly if they are between its bounds. -/
theorem StartsWithBox.forall_elevation_le_iff (hbox : level.family.storesBoxSides = true)
    {sides : List BrushSide} {lowest highest : Vec3 Float32}
    (h : level.StartsWithBox sides lowest highest) {made : List Editor.Side}
    (hmade : List.Forall₂
      (fun record side => (level.recoverSide settings origin record.1 record.2).value = some side)
      (sides.take 6).zipIdx made)
    {p : Vec3 Float32} (hp : p.IsFinite) :
    (∀ side ∈ made, (side.plane.map exact).elevation (p.map exact) ≤ 0) ↔
      ∀ axis, lowest.along axis ≤ p.along axis ∧ p.along axis ≤ highest.along axis := by
  -- Whether the point is on the inner side of a bound depends on the bound and its place alone.
  let Inside : Float32 × Nat → Prop := fun bound =>
    let along := p.along (Fin.ofNat 3 (bound.2 / 2))
    if bound.2 % 2 = 0 then bound.1 ≤ along else along ≤ bound.1
  have hsides : (∀ record ∈ (sides.take 6).zipIdx, Inside (record.1.bound, record.2)) ↔
      ∀ side ∈ made, (side.plane.map exact).elevation (p.map exact) ≤ 0 := by
    refine forall_mem_iff_of_forall₂ hmade fun record hrecord side hside => ?_
    have hmem := List.fst_mem_of_mem_zipIdx hrecord
    have hlt : record.2 < 6 := by
      have hlt := List.snd_lt_of_mem_zipIdx hrecord
      rw [List.length_take] at hlt
      omega
    have hplane := (plane_recoverSide_of_no_face hbox hside (h.isBare _ hmem).2).1 hlt
    have haxis : (Fin.ofNat 3 (record.2 / 2)).val = record.2 / 2 := Nat.mod_eq_of_lt (by omega)
    exact (hplane.elevation_le_iff haxis (h.isFinite_bound hmem) (hp _)).symm
  have hbounds : (∀ record ∈ (sides.take 6).zipIdx, Inside (record.1.bound, record.2)) ↔
      ∀ bound ∈ ((sides.take 6).map (·.bound)).zipIdx, Inside bound := by
    rw [List.zipIdx_map]
    exact List.forall_mem_map.symm
  rw [← hsides, hbounds, h.bounds_eq]
  simp [Inside, Vec3.along, Fin.forall_fin_succ, and_assoc]

/-- In the families that store boxes, the sides of a brush come in order of the stored sides that
are not dropped, and one without a face has the plane that its place among all of them decides.
If the first six hold the bounds of a box, the points behind their planes are those between the
bounds. -/
theorem recoverBrush_boxSides (level : Level) (settings : Settings) (origin : Vec3 Float)
    (brush : Brush) (sides : List BrushSide) (hfamily : level.family ∈ [.cod, .cod2, .cod4]) :
    ∃ made, (level.recoverBrush settings origin brush sides).value.shape = .sides made ∧
      List.Forall₂
        (fun record side =>
          (level.recoverSide settings origin record.1 record.2).value = some side ∧
          (level.sideFace? record.1 = none →
            (record.2 < 6 → side.plane.IsBoxSide record.2 record.1.bound) ∧
            (6 ≤ record.2 → side.plane = (level.plane? record.1.plane).getD .zero)))
        (sides.zipIdx.filter fun record => !level.isDropped record.1) made ∧
      ∀ lowest highest, level.StartsWithBox sides lowest highest →
        (made.take 6).length = 6 ∧
        ∀ p : Vec3 Float32, p.IsFinite →
          ((∀ side ∈ made.take 6, (side.plane.map exact).elevation (p.map exact) ≤ 0) ↔
            ∀ axis, lowest.along axis ≤ p.along axis ∧ p.along axis ≤ highest.along axis) := by
  have hbox := level.family.storesBoxSides_iff.2 hfamily
  obtain ⟨made, hshape, hmade⟩ := level.forall₂_recoverBrush settings origin brush sides
  refine ⟨made, hshape, hmade.imp fun record side hside =>
    ⟨hside, plane_recoverSide_of_no_face hbox hside⟩, fun lowest highest hstart => ?_⟩
  have htake := List.forall₂_take 6 hmade
  rw [hstart.take_filter] at htake
  refine ⟨?_, fun p hp => hstart.forall_elevation_le_iff hbox htake hp⟩
  rw [← htake.length_eq, List.length_zipIdx, hstart.length_take]

/-- A level with the sides of one brush : a box, a side that the compiler added, and one more. -/
def crate : Level where
  family := .cod2
  planes := #[⟨⟨1, 1, 0⟩, 12⟩]
  brushSides := ([-8, 8, -4, 4, 0, 16].map (fun bound => { (default : BrushSide) with bound }) ++
    [{ (default : BrushSide) with isBevel := true },
      { (default : BrushSide) with plane := some 0 }]).toArray

/-- The middle of the box is behind its planes. -/
theorem recoverBrush_boxSides_crate :
    let sides := crate.brushSides.toList
    let middle : Vec3 Float32 := ⟨0, 0, 8⟩
    crate.family ∈ [.cod, .cod2, .cod4] ∧ crate.StartsWithBox sides ⟨-8, -4, 0⟩ ⟨8, 4, 16⟩ ∧
      ∃ made, (crate.recoverBrush {} .zero default sides).value.shape = .sides made ∧
        ∀ side ∈ made.take 6, (side.plane.map exact).elevation (middle.map exact) ≤ 0 := by
  intro sides middle
  have hfamily : crate.family ∈ [.cod, .cod2, .cod4] := by decide
  have hbox : crate.StartsWithBox sides ⟨-8, -4, 0⟩ ⟨8, 4, 16⟩ :=
    ⟨by decide, by decide, by decide, by decide⟩
  obtain ⟨made, hshape, -, hinside⟩ :=
    recoverBrush_boxSides crate {} .zero default sides hfamily
  obtain ⟨-, hpoint⟩ := hinside _ _ hbox
  exact ⟨hfamily, hbox, made, hshape, (hpoint middle (by decide)).2 (by decide)⟩

end Level

end Brushwork
