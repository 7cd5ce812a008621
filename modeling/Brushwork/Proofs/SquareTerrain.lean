import Mathlib
import Brushwork.Proofs.TerrainVertices
import Brushwork.Proofs.Number.Quotient
import Brushwork.Proofs.Number.Widening

/-!
# Square terrain

The vertices of a square stand at equal distances along both axes (`Square`). If single precision
has their coordinates and the distances from the first row and column exactly (`Square.IsExact`),
the grid found from the vertices is the square's own (`Square.IsExact.ofPositions_eq`) : the least
coordinates are those of the first vertex, the greatest those of the last, and the quotients by
the spacing are whole. Every vertex is then at its own cell (`Square.IsExact.cell?_vertex`), so
any order of them gives the same terrain (`Level.recoverFaceTerrain_eq`), that of the square.
-/

namespace Brushwork

open Binary

/-! ## The least and the greatest of a list -/

/-- A fold that keeps the first of two elements if it precedes the second ends with the element
that precedes all others. -/
theorem foldl_eq_of_precedes {α : Type} {op : α → α → α} {r : α → α → Prop} [DecidableRel r]
    (hasymm : ∀ a b, r a b → ¬ r b a) {m : α} :
    ∀ {xs : List α} {a : α}, (∀ b ∈ xs, ∀ a, op a b = if r a b then a else b) →
      (∀ x ∈ a :: xs, x = m ∨ r m x) → m ∈ a :: xs → xs.foldl op a = m
  | [], _, _, _, hmem => (List.mem_singleton.1 hmem).symm
  | b :: xs, a, hop, hfirst, hmem => by
    obtain ⟨hopb, hopxs⟩ := List.forall_mem_cons.1 hop
    obtain ⟨ha, hrest⟩ := List.forall_mem_cons.1 hfirst
    obtain ⟨hb, hxs⟩ := List.forall_mem_cons.1 hrest
    rw [List.foldl_cons, hopb]
    -- Whichever of the two is dropped is not the one that precedes all others.
    split_ifs with hab
    · refine foldl_eq_of_precedes hasymm hopxs (List.forall_mem_cons.2 ⟨ha, hxs⟩) ?_
      have hne : m ≠ b ∨ m = a := by
        rcases ha with rfl | hma
        · exact Or.inr rfl
        · exact Or.inl fun heq => hasymm _ _ hab (heq ▸ hma)
      simp only [List.mem_cons] at hmem ⊢
      tauto
    · refine foldl_eq_of_precedes hasymm hopxs hrest ?_
      have hne : m ≠ a ∨ m = b := by
        rcases hb with rfl | hmb
        · exact Or.inr rfl
        · exact Or.inl fun heq => hab (heq ▸ hmb)
      simp only [List.mem_cons] at hmem ⊢
      tauto

namespace Scalar

variable {m : Float32} {xs : List Float32}

theorem not_lt_of_lt (a b : Float32) (h : a < b) : ¬ b < a := by
  rw [lt_iff] at h ⊢
  exact fun h' => lt_asymm h.2.2 h'.2.2

theorem ordinary_eq_self (h : ∀ x ∈ xs, isNaN x = false) : ordinary xs = xs :=
  List.filter_eq_self.2 fun x hx => by rw [beq_self, h x hx, Bool.not_false]

/-- A number of a list that is below all others is the least. -/
theorem minimum_eq (hnumber : ∀ x ∈ xs, isNaN x = false) (hfirst : ∀ x ∈ xs, x = m ∨ m < x)
    (hmem : m ∈ xs) : minimum xs = m := by
  rw [minimum, ordinary_eq_self hnumber]
  cases xs with
  | nil => exact absurd hmem List.not_mem_nil
  | cons a xs =>
    refine foldl_eq_of_precedes (r := (· < ·)) not_lt_of_lt (fun b hb a => if_pos ?_) hfirst hmem
    rw [beq_self, hnumber b (List.mem_cons_of_mem _ hb), Bool.not_false]

/-- A number of a list that is above all others is the greatest. -/
theorem maximum_eq (hnumber : ∀ x ∈ xs, isNaN x = false) (hlast : ∀ x ∈ xs, x = m ∨ x < m)
    (hmem : m ∈ xs) : maximum xs = m := by
  rw [maximum, ordinary_eq_self hnumber]
  cases xs with
  | nil => exact absurd hmem List.not_mem_nil
  | cons a xs =>
    refine foldl_eq_of_precedes (r := (· > ·)) (fun a b => not_lt_of_lt b a)
      (fun b hb a => if_pos ?_) hlast hmem
    rw [beq_self, hnumber b (List.mem_cons_of_mem _ hb), Bool.not_false]

end Scalar

/-! ## Coordinates at equal distances -/

/-- Coordinates are at equal distances from a start, and single precision has them and their
distances from the first one exactly. -/
structure IsEven (coordinate : Nat → Float32) (count : Nat) (start spacing : ℚ) : Prop where
  hasValue : ∀ i < count, HasValue (coordinate i) (start + i * spacing)
  hasValue_sub : ∀ i < count, HasValue (coordinate i - coordinate 0) (i * spacing)

instance (coordinate : Nat → Float32) (count : Nat) (start spacing : ℚ) :
    Decidable (IsEven coordinate count start spacing) :=
  decidable_of_iff ((∀ i < count, HasValue (coordinate i) (start + i * spacing)) ∧
    ∀ i < count, HasValue (coordinate i - coordinate 0) (i * spacing))
    ⟨fun h => ⟨h.1, h.2⟩, fun h => ⟨h.1, h.2⟩⟩

namespace IsEven

variable {coordinate : Nat → Float32} {count : Nat} {start spacing : ℚ} {i j : Nat}

theorem lt_of_lt (h : IsEven coordinate count start spacing) (hspacing : 0 < spacing) (hij : i < j)
    (hj : j < count) : coordinate i < coordinate j := by
  have hi := h.hasValue i (hij.trans hj)
  have hj := h.hasValue j hj
  rw [lt_iff_value_lt hi.isFinite hj.isFinite, hi.value_eq, hj.value_eq]
  have hcast : (i : ℚ) < j := Nat.cast_lt.2 hij
  gcongr

theorem eq_or_lt_of_le (h : IsEven coordinate count start spacing) (hspacing : 0 < spacing)
    (hij : i ≤ j) (hj : j < count) : coordinate i = coordinate j ∨ coordinate i < coordinate j :=
  hij.eq_or_lt.imp (congrArg coordinate) fun hlt => h.lt_of_lt hspacing hlt hj

theorem hasValue_zero (h : IsEven coordinate count start spacing) (hcount : 0 < count) :
    HasValue (coordinate 0) start := by
  have hfirst := h.hasValue 0 hcount
  rwa [Nat.cast_zero, zero_mul, add_zero] at hfirst

/-- The first and the last of the coordinates are the least and the greatest of a list of them. -/
theorem minimum_maximum (h : IsEven coordinate count start spacing) (hspacing : 0 < spacing)
    (hcount : 0 < count) {xs : List Float32}
    (hxs : ∀ x, x ∈ xs ↔ ∃ i < count, coordinate i = x) :
    Scalar.minimum xs = coordinate 0 ∧ Scalar.maximum xs = coordinate (count - 1) := by
  have hnumber : ∀ x ∈ xs, isNaN x = false := fun x hx => by
    obtain ⟨i, hi, rfl⟩ := (hxs x).1 hx
    exact isNaN_eq_false_of_isFinite (h.hasValue i hi).isFinite
  constructor
  · refine Scalar.minimum_eq hnumber (fun x hx => ?_) ((hxs _).2 ⟨0, hcount, rfl⟩)
    obtain ⟨i, hi, rfl⟩ := (hxs x).1 hx
    exact (h.eq_or_lt_of_le hspacing (Nat.zero_le i) hi).imp_left Eq.symm
  · have hlast : count - 1 < count := Nat.sub_lt hcount one_pos
    refine Scalar.maximum_eq hnumber (fun x hx => ?_) ((hxs _).2 ⟨count - 1, hlast, rfl⟩)
    obtain ⟨i, hi, rfl⟩ := (hxs x).1 hx
    exact h.eq_or_lt_of_le hspacing (Nat.le_sub_one_of_lt hi) hlast

/-- The extent of the coordinates, divided by the number of distances, is the distance. -/
theorem hasValue_spacing (h : IsEven coordinate count start spacing) (hcount : 2 ≤ count)
    (hle : count ≤ 2 ^ 24) :
    HasValue ((coordinate (count - 1) - coordinate 0) / Scalar.ofNat (count - 1)) spacing := by
  have hlast := h.hasValue_sub (count - 1) (by omega)
  have hfirst := h.hasValue_sub 1 (by omega)
  have hnat := hasValue_ofNat (n := count - 1) (by omega)
  -- The first distance is a number that has the spacing as its value.
  have hvalue : value (coordinate 1 - coordinate 0) = spacing := by
    rw [hfirst.value_eq, Nat.cast_one, one_mul]
  rw [← hvalue]
  refine hasValue_div hlast.isFinite hnat.isFinite hfirst.isFinite ?_ ?_
  · rw [hnat.value_eq, Nat.cast_ne_zero]
    omega
  · rw [hlast.value_eq, hnat.value_eq, hvalue, mul_comm]

/-- A distance from the first coordinate, divided by the spacing, is a position. -/
theorem isNear (h : IsEven coordinate count start spacing) (hspacing : 0 < spacing)
    (hle : count ≤ 2 ^ 24) (hi : i < count) {s : Float32} (hs : HasValue s spacing) :
    HeightField.IsNear ((coordinate i - coordinate 0) / s) i := by
  have hsub := h.hasValue_sub i hi
  have hnat := hasValue_ofNat (hi.trans_le hle)
  have hdiv : HasValue ((coordinate i - coordinate 0) / s) (value (Scalar.ofNat i : Float32)) := by
    refine hasValue_div hsub.isFinite hs.isFinite hnat.isFinite ?_ ?_
    · rw [hs.value_eq]
      exact hspacing.ne'
    · rw [hsub.value_eq, hnat.value_eq, hs.value_eq]
  have hnumber : isNaN (HeightField.tolerance : Float32) = false := by decide
  have hzero := code_sub_of_value_eq hdiv.isFinite hnat.isFinite hdiv.value_eq
  refine (abs_le_iff _ hnumber HeightField.isNegative_tolerance).2 ?_
  rw [hzero]
  exact Nat.zero_le _

end IsEven

/-! ## Squares of vertices -/

/-- Vertices in rows and columns at equal distances from a corner. -/
structure Square where
  /-- The number of rows and of columns. -/
  side : Nat
  corner : Vec2 ℚ
  spacing : ℚ
  /-- The coordinate of a column along x. -/
  column : Nat → Float32
  /-- The coordinate of a row along y. -/
  row : Nat → Float32
  height : (row col : Nat) → Float32

namespace Square

variable (square : Square)

/-- The vertex at a row and a column. -/
def vertex (row col : Nat) : Vec3 Float32 :=
  ⟨square.column col, square.row row, square.height row col⟩

/-- The vertices, row after row. -/
def vertices : List (Vec3 Float32) :=
  (List.range square.side).flatMap fun row => (List.range square.side).map (square.vertex row)

/-- Single precision has the coordinates of the vertices and their distances from the corner
exactly. -/
structure IsExact : Prop where
  column : IsEven square.column square.side square.corner.x square.spacing
  row : IsEven square.row square.side square.corner.y square.spacing

instance : Decidable square.IsExact :=
  decidable_of_iff (IsEven square.column square.side square.corner.x square.spacing ∧
    IsEven square.row square.side square.corner.y square.spacing)
    ⟨fun h => ⟨h.1, h.2⟩, fun h => ⟨h.1, h.2⟩⟩

/-- The grid of the square. -/
def field : HeightField Float32 :=
  ⟨square.side, ⟨square.column 0, square.row 0⟩, square.column (square.side - 1) - square.column 0⟩

/-- The terrain of the square. -/
def terrain (texture : String) (flags : Int32) : Editor.FaceTerrain where
  heights := .ofFn square.side square.height
  alphas := .filled square.side 0
  texture := texture
  flags := flags
  start := ⟨widen (square.column 0), widen (square.row 0), 0⟩
  sideLength := widen (square.column (square.side - 1) - square.column 0)
  textureShift := .zero
  textureRotation := 0
  textureScale := .one

variable {square}

theorem length_vertices : square.vertices.length = square.side * square.side := by
  simp [vertices, List.length_flatMap]

variable {vertices : List (Vec3 Float32)}

theorem mem_iff_of_perm (hperm : vertices.Perm square.vertices) {v : Vec3 Float32} :
    v ∈ vertices ↔ ∃ row < square.side, ∃ col < square.side, square.vertex row col = v := by
  rw [hperm.mem_iff]
  simp [Square.vertices, List.mem_flatMap]

theorem mem_map_iff_of_perm (hperm : vertices.Perm square.vertices) {β : Type}
    (f : Vec3 Float32 → β) {b : β} : b ∈ vertices.map f ↔
      ∃ row < square.side, ∃ col < square.side, f (square.vertex row col) = b := by
  simp only [List.mem_map, mem_iff_of_perm hperm]
  constructor
  · rintro ⟨_, ⟨row, hrow, col, hcol, rfl⟩, hb⟩
    exact ⟨row, hrow, col, hcol, hb⟩
  · rintro ⟨row, hrow, col, hcol, hb⟩
    exact ⟨_, ⟨row, hrow, col, hcol, rfl⟩, hb⟩

section

variable (h : square.IsExact) (hside : 2 ≤ square.side) (hspacing : 0 < square.spacing)
include h hside hspacing

/-- The grid found from the vertices of a square in any order is its own. -/
theorem IsExact.ofPositions_eq (hperm : vertices.Perm square.vertices) :
    HeightField.ofPositions (vertices.map (·.xy)) = square.field := by
  have hpos : 0 < square.side := by omega
  have hlength : (vertices.map (·.xy)).length = square.side * square.side := by
    rw [List.length_map, hperm.length_eq, length_vertices]
  have hne : (vertices.map (·.xy)).isEmpty = false := by
    rw [List.isEmpty_eq_false_iff, ← List.length_pos_iff, hlength]
    exact Nat.mul_pos hpos hpos
  have hxs : ∀ x, x ∈ (vertices.map (·.xy)).map (·.x) ↔ ∃ i < square.side, square.column i = x := by
    intro x
    rw [List.map_map, mem_map_iff_of_perm hperm]
    exact ⟨fun ⟨_, _, col, hcol, hx⟩ => ⟨col, hcol, hx⟩,
      fun ⟨col, hcol, hx⟩ => ⟨0, hpos, col, hcol, hx⟩⟩
  have hys : ∀ y, y ∈ (vertices.map (·.xy)).map (·.y) ↔ ∃ i < square.side, square.row i = y := by
    intro y
    rw [List.map_map, mem_map_iff_of_perm hperm]
    exact ⟨fun ⟨row, hrow, _, _, hy⟩ => ⟨row, hrow, hy⟩,
      fun ⟨row, hrow, hy⟩ => ⟨row, hrow, 0, hpos, hy⟩⟩
  obtain ⟨hminx, hmaxx⟩ := h.column.minimum_maximum hspacing hpos hxs
  obtain ⟨hminy, -⟩ := h.row.minimum_maximum hspacing hpos hys
  rw [HeightField.ofPositions, hne, hlength, nearestRoot_mul_self, hminx, hmaxx, hminy]
  rfl

variable (hle : square.side ≤ 2 ^ 24)
include hle

/-- Every vertex of a square is at its own cell. -/
theorem IsExact.cell?_vertex {row col : Nat} (hrow : row < square.side)
    (hcol : col < square.side) :
    square.field.cell? (square.vertex row col).xy = some (row, col) := by
  have hs : HasValue square.field.spacing square.spacing := by
    have hone : 1 < square.field.side := hside
    rw [HeightField.spacing, if_pos hone]
    exact h.column.hasValue_spacing hside hle
  have hzero : HasValue (0 : Float32) 0 := ⟨by decide, value_eq_zero_iff.2 (by decide)⟩
  have hspaced : square.field.IsSpaced := by
    refine ⟨(lt_iff_value_lt hzero.isFinite hs.isFinite).2 ?_, hs.isFinite⟩
    rwa [hzero.value_eq, hs.value_eq]
  refine (HeightField.cell?_eq_some_iff hle).2 ⟨hrow, hcol, Or.inl (.near hspaced ?_ ?_)⟩
  · exact h.column.isNear hspacing hle hcol hs
  · exact h.row.isNear hspacing hle hrow hs

variable (hperm : vertices.Perm square.vertices)
include hperm

/-- Of the vertices of a square in any order, one is at each cell. -/
theorem IsExact.findRev?_cell? {row col : Nat} (hrow : row < square.side)
    (hcol : col < square.side) :
    (vertices.findRev? fun v => square.field.cell? v.xy = some (row, col)) =
      some (square.vertex row col) := by
  have hcell := h.cell?_vertex hside hspacing hle hrow hcol
  have hmem : square.vertex row col ∈ vertices.reverse := by
    rw [List.mem_reverse, mem_iff_of_perm hperm]
    exact ⟨row, hrow, col, hcol, rfl⟩
  rw [List.findRev?_eq_find?_reverse]
  cases hfound : vertices.reverse.find? fun v => square.field.cell? v.xy = some (row, col) with
  | none => exact absurd (decide_eq_true hcell) (List.find?_eq_none.1 hfound _ hmem)
  | some v =>
    have hv : square.field.cell? v.xy = some (row, col) := by
      simpa using List.find?_some hfound
    obtain ⟨row', hrow', col', hcol', rfl⟩ := (mem_iff_of_perm hperm).1
      (List.mem_reverse.1 (List.mem_of_find?_eq_some hfound))
    rw [h.cell?_vertex hside hspacing hle hrow' hcol', Option.some.injEq, Prod.mk.injEq] at hv
    rw [hv.1, hv.2]

/-- The vertices of a square in any order give it its heights. -/
theorem IsExact.heights_eq :
    square.field.heights vertices = .ofFn square.side square.height := by
  refine Grid.ext_get? (square.field.side_heights vertices) fun row col hrow hcol => ?_
  rw [square.field.side_heights] at hrow hcol
  rw [HeightField.heights, HeightField.get?_foldl_place square.field vertices hrow hcol,
    h.findRev?_cell? hside hspacing hle hperm hrow hcol]
  exact (Grid.get?_ofFn square.height hrow hcol).symm

/-- No vertex of a square is dropped. -/
theorem IsExact.offGrid_eq_nil : square.field.offGrid vertices = [] := by
  refine List.filter_eq_nil_iff.2 fun v hv => ?_
  obtain ⟨row, hrow, col, hcol, rfl⟩ := (mem_iff_of_perm hperm).1 hv
  rw [h.cell?_vertex hside hspacing hle hrow hcol]
  exact Bool.false_ne_true

end

end Square

namespace Level

/-- The terrain of a face whose vertices are those of a square in any order is that of the
square. -/
theorem recoverFaceTerrain_eq {level : Level} {face : Face} {square : Square}
    (h : square.IsExact) (hside : 2 ≤ square.side) (hspacing : 0 < square.spacing)
    (hcount : face.vertices.count < 2 ^ 32)
    (hperm : (level.terrainVertices face).Perm square.vertices) :
    level.recoverFaceTerrain face =
      (square.terrain · (((level.texture? face.texture).map (·.flags)).getD 0)) <$>
        level.textureNameOrSkip face.texture := by
  have hfield : level.terrainField face = square.field := h.ofPositions_eq hside hspacing hperm
  have hle : square.side ≤ 2 ^ 24 := by
    have hfieldLe : (level.terrainField face).side ≤ 2 ^ 24 := side_terrainField_le hcount
    rwa [hfield] at hfieldLe
  refine Warned.ext_parts ?_ ?_
  · have hvalue : (level.recoverFaceTerrain face).value =
        { square.terrain (level.textureNameOrSkip face.texture).value
            (((level.texture? face.texture).map (·.flags)).getD 0) with
          heights := (level.terrainField face).heights (level.terrainVertices face)
          alphas := .filled (level.terrainField face).side 0
          start := ⟨widen (level.terrainField face).corner.x,
            widen (level.terrainField face).corner.y, 0⟩
          sideLength := widen (level.terrainField face).width } := rfl
    rw [hvalue, hfield, h.heights_eq hside hspacing hle hperm]
    rfl
  · rw [warnings_recoverFaceTerrain, hfield, h.offGrid_eq_nil hside hspacing hle hperm,
      Warned.warnings_map]
    rfl

/-- The vertices of a square, in any order, are restored exactly : no vertex is warned of, every
height is at its row and column, and the corner and the extent are those of the square. A face
counts its vertices in 32 bits. -/
theorem restores_square (level : Level) (face : Face) (square : Square) (h : square.IsExact)
    (hside : 2 ≤ square.side) (hspacing : 0 < square.spacing)
    (hcount : face.vertices.count < 2 ^ 32)
    (hperm : (level.terrainVertices face).Perm square.vertices) :
    let terrain := level.recoverFaceTerrain face
    terrain.warnings.filterMap Warning.offGridPosition? = [] ∧
      terrain.value.heights = .ofFn square.side square.height ∧
      terrain.value.alphas = .filled square.side 0 ∧
      HasValue terrain.value.start.x square.corner.x ∧
      HasValue terrain.value.start.y square.corner.y ∧
      terrain.value.start.z = 0 ∧
      HasValue terrain.value.sideLength ((square.side - 1) * square.spacing) ∧
      ∀ vertices, ({ level with vertices }.terrainVertices face).Perm square.vertices →
        { level with vertices }.recoverFaceTerrain face = terrain := by
  intro terrain
  have hpos : 0 < square.side := by omega
  have heq : terrain = _ := recoverFaceTerrain_eq h hside hspacing hcount hperm
  rw [heq]
  refine ⟨?_, rfl, rfl, ?_, ?_, rfl, ?_, fun vertices hperm' => ?_⟩
  · rw [Warned.warnings_map]
    exact filterMap_offGridPosition?_textureNameOrSkip _
  · exact hasValue_widen (h.column.hasValue_zero hpos)
  · exact hasValue_widen (h.row.hasValue_zero hpos)
  · rw [← Nat.cast_pred hpos]
    exact hasValue_widen (h.column.hasValue_sub _ (Nat.sub_lt hpos one_pos))
  · exact recoverFaceTerrain_eq h hside hspacing hcount hperm'

/-- A square of three rows and columns. -/
def meadow : Square where
  side := 3
  corner := ⟨100, -50⟩
  spacing := 32
  column i := 100 + Scalar.ofNat i * 32
  row i := -50 + Scalar.ofNat i * 32
  height row col := Scalar.ofNat (10 * row + col)

/-- A level with a terrain over the vertices of the square, in another order. -/
def meadowLevel : Level where
  family := .stef2
  faces := #[{ (default : Face) with vertices := ⟨0, 9⟩, flags := Face.terrainKind }]
  vertices := #[(1, 1), (2, 2), (0, 0), (2, 0), (0, 2), (2, 1), (0, 1), (1, 2), (1, 0)].map
    fun cell => ⟨meadow.vertex cell.1 cell.2, .zero⟩

/-- The square in another order has its second height in the second column, and an extent of two
distances. -/
theorem restores_meadow :
    let face := meadowLevel.faces[0]
    let terrain := meadowLevel.recoverFaceTerrain face
    meadow.IsExact ∧ (meadowLevel.terrainVertices face).Perm meadow.vertices ∧
      terrain.value.heights = .ofFn 3 meadow.height ∧ HasValue terrain.value.sideLength 64 := by
  intro face terrain
  have hexact : meadow.IsExact := by decide +kernel
  have hperm : (meadowLevel.terrainVertices face).Perm meadow.vertices := by decide +kernel
  obtain ⟨-, hheights, -, -, -, -, hextent, -⟩ :=
    meadowLevel.restores_square face meadow hexact (by decide) (by decide) (by decide) hperm
  refine ⟨hexact, hperm, hheights, ?_⟩
  have hvalue : ((meadow.side : ℚ) - 1) * meadow.spacing = 64 := by norm_num [meadow]
  rwa [hvalue] at hextent

end Level

end Brushwork
