import Mathlib
import Brushwork.Proofs.Number.Position
import Brushwork.Proofs.Heights
import Brushwork.Recovery.Terrain

/-!
# The cells that the vertices of a terrain lie on

A position lies on a cell of a height field if both of its coordinates, counted in cells, are
within the tolerance of the column and the row (`HeightField.IsOn`). Without a spacing to count
in, only the corner lies on one. The cell that a position is given is the one it lies on, with
one exception (`HeightField.cell?_eq_some_iff`) : of two coordinates, one that is not a number
is passed over when they are tested, and stands for the first column or row. The position then
slips to a cell that it does not lie on (`HeightField.SlipsTo`).

So every vertex of a terrain is written to the cell it lies on, or dropped with a warning,
exactly if none of them slips (`Level.fills_isOn_iff`).
-/

namespace Brushwork

open Binary

namespace HeightField

variable (field : HeightField Float32) (position : Vec2 Float32)

/-- The distance from one column to the next can be divided by. -/
def IsSpaced : Prop :=
  0 < field.spacing ∧ Scalar.isFinite field.spacing = true

/-- The coordinates of a position in cells. -/
def inCells : Vec2 Float32 :=
  (position - field.corner) / field.spacing

/-- A coordinate in cells is no further from a position than the tolerance. -/
def IsNear (coordinate : Float32) (i : Nat) : Prop :=
  Scalar.abs (coordinate - Scalar.ofNat i) ≤ tolerance

instance : Decidable field.IsSpaced :=
  inferInstanceAs (Decidable (0 < field.spacing ∧ Scalar.isFinite field.spacing = true))

instance (coordinate : Float32) (i : Nat) : Decidable (IsNear coordinate i) :=
  inferInstanceAs (Decidable (Scalar.abs (coordinate - Scalar.ofNat i) ≤ tolerance))

/-- A position lies on a cell : both of its coordinates are near, or without a spacing it is
the corner. -/
inductive IsOn : Nat → Nat → Prop
  | near {row col : Nat} (hspaced : field.IsSpaced)
    (hcol : IsNear (field.inCells position).x col) (hrow : IsNear (field.inCells position).y row) :
    IsOn row col
  | corner (hspaced : ¬ field.IsSpaced) (hcorner : position.sameAs field.corner = true) : IsOn 0 0

/-- A position lies beside a row or a column : only one of its coordinates is a number and near,
and for the other, which is no number, it is taken to lie in the first. -/
inductive SlipsTo : Nat → Nat → Prop
  | row {row : Nat} (hspaced : field.IsSpaced) (hcol : isNaN (field.inCells position).x = true)
    (hrow : IsNear (field.inCells position).y row) : SlipsTo row 0
  | col {col : Nat} (hspaced : field.IsSpaced) (hrow : isNaN (field.inCells position).y = true)
    (hcol : IsNear (field.inCells position).x col) : SlipsTo 0 col

variable {field position}

/-! ## Coordinates in cells -/

theorem code_tolerance_lt : code (tolerance : Float32) < 126 * 2 ^ 23 := by
  have hcode : code (tolerance : Float32) = 1008981770 := by decide
  rw [hcode]
  decide

theorem isNegative_tolerance : isNegative (tolerance : Float32) = false := by
  decide

/-- Only a finite coordinate is near to a position. -/
theorem IsNear.isFinite {x : Float32} {i : Nat} (h : IsNear x i) (hi : i < 2 ^ 24) :
    Binary.isFinite x = true :=
  isFinite_of_abs_sub_le isNegative_tolerance code_tolerance_lt hi h

theorem IsNear.not_isNaN {x : Float32} {i : Nat} (h : IsNear x i) (hi : i < 2 ^ 24) :
    ¬ isNaN x = true := by
  rw [isNaN_eq_false_of_isFinite (h.isFinite hi)]
  exact Bool.false_ne_true

/-- A coordinate in cells passes the tests on it and stands for a position. What is not a number
passes every test. -/
def Snaps (x : Float32) (i : Nat) : Prop :=
  toPosition (round x) = i ∧ (isNaN (round x) = true ∨ 0 ≤ round x) ∧
    (isNaN (x - round x).abs = true ∨ (x - round x).abs ≤ tolerance)

theorem snaps_iff {x : Float32} {i : Nat} (hi : i < 2 ^ 24) :
    Snaps x i ↔ isNaN x = true ∧ i = 0 ∨ IsNear x i :=
  Binary.snaps_iff isNegative_tolerance code_tolerance_lt hi

/-- The position that a vector in cells is snapped to. -/
theorem snap?_eq_some_iff {c r : Vec2 Float32} :
    snap? c = some r ↔ r = c.map Scalar.round ∧
      (((c - r).map Scalar.abs).maxComponent ≤ tolerance ∧ 0 ≤ r.minComponent) := by
  unfold snap?
  dsimp only
  split_ifs with h
  · constructor
    · rintro ⟨⟩
      exact ⟨rfl, h⟩
    · rintro ⟨rfl, -⟩
      rfl
  · refine iff_of_false nofun ?_
    rintro ⟨rfl, hr⟩
    exact h hr

/-- A vector in cells is snapped if both coordinates snap, and each test is passed by a number :
the larger distance is one if a coordinate is finite. -/
theorem exists_snap?_iff_snaps {c : Vec2 Float32} {row col : Nat} :
    (∃ r, snap? c = some r ∧ Scalar.toPosition r.y = row ∧ Scalar.toPosition r.x = col) ↔
      Snaps c.x col ∧ Snaps c.y row ∧ ¬ (isNaN c.x = true ∧ isNaN c.y = true) ∧
        (isFinite c.x = true ∨ isFinite c.y = true) := by
  have hmax : ((c - c.map Scalar.round).map Scalar.abs).maxComponent ≤ tolerance ↔ _ :=
    Scalar.greatest_le_iff (c.x - round c.x).abs (c.y - round c.y).abs tolerance
  have hmin : 0 ≤ (c.map Scalar.round).minComponent ↔ _ :=
    Scalar.le_least_iff (round c.x) (round c.y) 0
  have hboth : (isNaN (c.x - round c.x).abs = true ∧ isNaN (c.y - round c.y).abs = true) ↔
      ¬ (isFinite c.x = true ∨ isFinite c.y = true) := by
    rw [isNaN_abs, isNaN_abs, isNaN_sub_round, isNaN_sub_round, Bool.not_eq_true',
      Bool.not_eq_true', not_or, Bool.not_eq_true, Bool.not_eq_true]
  rw [hboth, not_not] at hmax
  rw [← isNaN_round c.x, ← isNaN_round c.y]
  simp only [snap?_eq_some_iff]
  constructor
  · rintro ⟨r, ⟨rfl, hdistance, hsign⟩, hy, hx⟩
    obtain ⟨hdx, hdy, hfinite⟩ := hmax.1 hdistance
    obtain ⟨hsx, hsy, hnumber⟩ := hmin.1 hsign
    exact ⟨⟨hx, hsx, hdx⟩, ⟨hy, hsy, hdy⟩, hnumber, hfinite⟩
  · rintro ⟨⟨hx, hsx, hdx⟩, ⟨hy, hsy, hdy⟩, hnumber, hfinite⟩
    exact ⟨_, ⟨rfl, hmax.2 ⟨hdx, hdy, hfinite⟩, hmin.2 ⟨hsx, hsy, hnumber⟩⟩, hy, hx⟩

/-- A vector in cells is snapped to the row and the column that its coordinates are near to. If
one of the coordinates is no number, it is snapped to the first. -/
theorem exists_snap?_iff {c : Vec2 Float32} {row col : Nat} (hrow : row < 2 ^ 24)
    (hcol : col < 2 ^ 24) :
    (∃ r, snap? c = some r ∧ Scalar.toPosition r.y = row ∧ Scalar.toPosition r.x = col) ↔
      IsNear c.x col ∧ IsNear c.y row ∨
        isNaN c.x = true ∧ col = 0 ∧ IsNear c.y row ∨
        isNaN c.y = true ∧ row = 0 ∧ IsNear c.x col := by
  rw [exists_snap?_iff_snaps, snaps_iff hcol, snaps_iff hrow]
  constructor
  · rintro ⟨⟨hnanx, hcol⟩ | hnearx, ⟨hnany, hrow⟩ | hneary, hnumber, -⟩
    · exact absurd ⟨hnanx, hnany⟩ hnumber
    · exact Or.inr (Or.inl ⟨hnanx, hcol, hneary⟩)
    · exact Or.inr (Or.inr ⟨hnany, hrow, hnearx⟩)
    · exact Or.inl ⟨hnearx, hneary⟩
  · rintro (⟨hx, hy⟩ | ⟨hnan, hzero, hy⟩ | ⟨hnan, hzero, hx⟩)
    · exact ⟨Or.inr hx, Or.inr hy, fun h => hx.not_isNaN hcol h.1, Or.inl (hx.isFinite hcol)⟩
    · exact ⟨Or.inl ⟨hnan, hzero⟩, Or.inr hy, fun h => hy.not_isNaN hrow h.2,
        Or.inr (hy.isFinite hrow)⟩
    · exact ⟨Or.inr hx, Or.inl ⟨hnan, hzero⟩, fun h => hx.not_isNaN hcol h.1,
        Or.inl (hx.isFinite hcol)⟩

/-! ## The cell of a position -/

theorem scaled?_of_isSpaced (h : field.IsSpaced) :
    field.scaled? position = some (field.inCells position) :=
  if_pos h

theorem scaled?_of_not_isSpaced (h : ¬ field.IsSpaced) :
    field.scaled? position = if position.sameAs field.corner then some .zero else none :=
  if_neg h

theorem isOn_iff_of_isSpaced (h : field.IsSpaced) {row col : Nat} :
    field.IsOn position row col ↔
      IsNear (field.inCells position).x col ∧ IsNear (field.inCells position).y row := by
  constructor
  · rintro (⟨-, hcol, hrow⟩ | ⟨hspaced, -⟩)
    · exact ⟨hcol, hrow⟩
    · exact absurd h hspaced
  · exact fun ⟨hcol, hrow⟩ => .near h hcol hrow

theorem isOn_iff_of_not_isSpaced (h : ¬ field.IsSpaced) {row col : Nat} :
    field.IsOn position row col ↔
      position.sameAs field.corner = true ∧ row = 0 ∧ col = 0 := by
  constructor
  · rintro (⟨hspaced, -, -⟩ | ⟨-, hcorner⟩)
    · exact absurd hspaced h
    · exact ⟨hcorner, rfl, rfl⟩
  · rintro ⟨hcorner, rfl, rfl⟩
    exact .corner h hcorner

theorem slipsTo_iff {row col : Nat} :
    field.SlipsTo position row col ↔ field.IsSpaced ∧
      (isNaN (field.inCells position).x = true ∧ col = 0 ∧ IsNear (field.inCells position).y row ∨
        isNaN (field.inCells position).y = true ∧ row = 0 ∧
          IsNear (field.inCells position).x col) := by
  constructor
  · rintro (⟨hspaced, hcol, hrow⟩ | ⟨hspaced, hrow, hcol⟩)
    · exact ⟨hspaced, Or.inl ⟨hcol, rfl, hrow⟩⟩
    · exact ⟨hspaced, Or.inr ⟨hrow, rfl, hcol⟩⟩
  · rintro ⟨hspaced, ⟨hcol, rfl, hrow⟩ | ⟨hrow, rfl, hcol⟩⟩
    · exact .row hspaced hcol hrow
    · exact .col hspaced hrow hcol

/-- A position that slips to a cell lies on none. -/
theorem SlipsTo.not_isOn {row col row' col' : Nat} (h : field.SlipsTo position row col)
    (hrow : row' < 2 ^ 24) (hcol : col' < 2 ^ 24) : ¬ field.IsOn position row' col' := by
  intro hon
  cases h with
  | row hspaced hx _ =>
    exact ((isOn_iff_of_isSpaced hspaced).1 hon).1.not_isNaN hcol hx
  | col hspaced hy _ =>
    exact ((isOn_iff_of_isSpaced hspaced).1 hon).2.not_isNaN hrow hy

theorem cell?_eq_some_iff_exists {row col : Nat} :
    field.cell? position = some (row, col) ↔ row < field.side ∧ col < field.side ∧
      ∃ cell, field.scaled? position = some cell ∧
        ∃ r, snap? cell = some r ∧ Scalar.toPosition r.y = row ∧ Scalar.toPosition r.x = col := by
  simp only [cell?, Option.bind_eq_some_iff, Option.ite_none_right_eq_some, Option.some.injEq,
    Prod.mk.injEq]
  constructor
  · rintro ⟨r, ⟨cell, hcell, hr⟩, ⟨hrow, hcol⟩, rfl, rfl⟩
    exact ⟨hrow, hcol, cell, hcell, r, hr, rfl, rfl⟩
  · rintro ⟨hrow, hcol, cell, hcell, r, hr, rfl, rfl⟩
    exact ⟨r, ⟨cell, hcell, hr⟩, ⟨hrow, hcol⟩, rfl, rfl⟩

theorem snap?_zero : snap? (.zero : Vec2 Float32) = some .zero := by
  decide +kernel

/-- A position is given the cell in the grid that it lies on or slips to. -/
theorem cell?_eq_some_iff (hside : field.side ≤ 2 ^ 24) {row col : Nat} :
    field.cell? position = some (row, col) ↔ row < field.side ∧ col < field.side ∧
      (field.IsOn position row col ∨ field.SlipsTo position row col) := by
  rw [cell?_eq_some_iff_exists]
  refine and_congr_right fun hrow => and_congr_right fun hcol => ?_
  by_cases hspaced : field.IsSpaced
  · simp only [scaled?_of_isSpaced hspaced, Option.some.injEq, exists_eq_left']
    rw [exists_snap?_iff (hrow.trans_le hside) (hcol.trans_le hside),
      isOn_iff_of_isSpaced hspaced, slipsTo_iff, and_iff_right hspaced]
  · have hslips : ¬ field.SlipsTo position row col := fun h => hspaced (slipsTo_iff.1 h).1
    rw [scaled?_of_not_isSpaced hspaced, isOn_iff_of_not_isSpaced hspaced, or_iff_left hslips]
    have hfirst : Scalar.toPosition (0 : Float32) = 0 := by decide
    constructor
    · rintro ⟨cell, hcell, r, hr, rfl, rfl⟩
      obtain ⟨hcorner, hzero⟩ := Option.ite_none_right_eq_some.1 hcell
      obtain rfl := Option.some.inj hzero
      obtain rfl := Option.some.inj (hr.symm.trans snap?_zero)
      exact ⟨hcorner, hfirst, hfirst⟩
    · rintro ⟨hcorner, rfl, rfl⟩
      exact ⟨.zero, if_pos hcorner, .zero, snap?_zero, hfirst, hfirst⟩

end HeightField

namespace Level

/-! ## The terrain of a face -/

variable (level : Level)

/-- The vertices of the terrain of a face. -/
def terrainVertices (face : Face) : List (Vec3 Float32) :=
  (level.verticesOf face).map (·.position)

/-- The grid that the vertices of the terrain of a face lie on. -/
def terrainField (face : Face) : HeightField Float32 :=
  .ofPositions ((level.terrainVertices face).map (·.xy))

variable {level} {face : Face}

theorem side_terrainField_le (hcount : face.vertices.count < 2 ^ 32) :
    (level.terrainField face).side ≤ 2 ^ 24 := by
  refine HeightField.side_ofPositions_le ?_
  have hlength : (level.verticesOf face).length ≤ face.vertices.count := by
    rw [verticesOf, Run.read_eq_take_drop]
    exact List.length_take_le ..
  rw [List.length_map, terrainVertices, List.length_map]
  omega

variable (level face)

theorem heights_recoverFaceTerrain :
    (level.recoverFaceTerrain face).value.heights =
      (level.terrainField face).heights (level.terrainVertices face) :=
  rfl

theorem warnings_recoverFaceTerrain :
    (level.recoverFaceTerrain face).warnings =
      ((level.terrainField face).offGrid (level.terrainVertices face)).map .offGrid
        ++ (level.textureNameOrSkip face.texture).warnings := by
  have hforEach : (Warned.forEach (fun vertex => Warned.warn (.offGrid vertex))
      ((level.terrainField face).offGrid (level.terrainVertices face))).warnings =
        ((level.terrainField face).offGrid (level.terrainVertices face)).map .offGrid := by
    rw [Warned.warnings_forEach]
    exact List.map_eq_flatMap.symm
  rw [← hforEach]
  unfold recoverFaceTerrain
  simp only [Warned.warnings_bind, Warned.warnings_pure, List.append_nil]
  rfl

/-- The cell that a vertex is given is the one that it lies on or slips to. -/
theorem fills_recoverFaceTerrain (hcount : face.vertices.count < 2 ^ 32) :
    (level.terrainField face).Fills
      (fun position row col => (level.terrainField face).IsOn position row col ∨
        (level.terrainField face).SlipsTo position row col)
      (level.terrainVertices face) (level.recoverFaceTerrain face).value.heights
      ((level.terrainField face).offGrid (level.terrainVertices face)) := by
  rw [heights_recoverFaceTerrain]
  refine ((level.terrainField face).fills_cell? _).congr fun vertex _ row col hrow hcol => ?_
  rw [HeightField.cell?_eq_some_iff (side_terrainField_le hcount), and_iff_right hrow,
    and_iff_right hcol]

/-- The terrain of a face is filled by the cells that its vertices lie on or slip to, and the
vertices on no cell are dropped with a warning. So it is filled by the cells that the vertices
lie on exactly if no vertex slips to a cell. -/
theorem fills_isOn_iff (hcount : face.vertices.count < 2 ^ 32) :
    let vertices := level.terrainVertices face
    let field := level.terrainField face
    let terrain := level.recoverFaceTerrain face
    ∃ dropped, terrain.warnings =
        dropped.map .offGrid ++ (level.textureNameOrSkip face.texture).warnings ∧
      field.Fills (fun position row col => field.IsOn position row col ∨
        field.SlipsTo position row col) vertices terrain.value.heights dropped ∧
      (field.Fills field.IsOn vertices terrain.value.heights dropped ↔
        ∀ vertex ∈ vertices, ∀ row col, row < field.side → col < field.side →
          ¬ field.SlipsTo vertex.xy row col) := by
  intro vertices field terrain
  have hfills := level.fills_recoverFaceTerrain face hcount
  have hside : field.side ≤ 2 ^ 24 := side_terrainField_le hcount
  refine ⟨_, level.warnings_recoverFaceTerrain face, hfills, fun hon => ?_, fun hslips => ?_⟩
  · intro vertex hvertex row col hrow hcol hslips
    -- A vertex that slips lies on no cell, and is not dropped.
    have hdropped := hon.mem_dropped_iff.2 ⟨hvertex, fun _ _ hrow hcol =>
      hslips.not_isOn (hrow.trans_le hside) (hcol.trans_le hside)⟩
    exact (hfills.mem_dropped_iff.1 hdropped).2 row col hrow hcol (Or.inr hslips)
  · exact hfills.congr fun vertex hvertex row col hrow hcol =>
      or_iff_left (hslips vertex hvertex row col hrow hcol)

/-- A level with a patch of ground over three corners of a square and another vertex. -/
def ground (last : Vec3 Float32) : Level where
  family := .stef2
  entities := #[.insert .empty "classname" "worldspawn"]
  models := #[⟨⟨0, 0⟩, ⟨0, 1⟩, ⟨0, 0⟩⟩]
  faces := #[{ (default : Face) with
    texture := some 0, vertices := ⟨0, 4⟩, flags := Face.terrainKind }]
  vertices := #[⟨⟨0, 0, 1⟩, .zero⟩, ⟨⟨8, 0, 2⟩, .zero⟩, ⟨⟨0, 8, 3⟩, .zero⟩, ⟨last, .zero⟩]
  textures := #[default]

/-- The last corner of the square lies on its cell, as the others do. -/
theorem fills_isOn_ground :
    let level := ground ⟨8, 8, 4⟩
    let face := level.faces[0]
    face.vertices.count < 2 ^ 32 ∧ ∃ dropped,
      (level.terrainField face).Fills (level.terrainField face).IsOn (level.terrainVertices face)
        (level.recoverFaceTerrain face).value.heights dropped := by
  intro level face
  have hcount : face.vertices.count < 2 ^ 32 := by decide
  obtain ⟨dropped, -, -, hfills⟩ := level.fills_isOn_iff face hcount
  refine ⟨hcount, dropped, hfills.2 ?_⟩
  have hnumber : ∀ vertex ∈ level.terrainVertices face,
      isNaN ((level.terrainField face).inCells vertex.xy).x = false ∧
        isNaN ((level.terrainField face).inCells vertex.xy).y = false := by
    decide +kernel
  intro vertex hvertex row col _ _ hslips
  obtain ⟨hx, hy⟩ := hnumber vertex hvertex
  cases hslips with
  | row _ hcol _ => exact Bool.false_ne_true (hx.symm.trans hcol)
  | col _ hrow _ => exact Bool.false_ne_true (hy.symm.trans hrow)

/-- A vertex without a second coordinate lies on no cell, but its height replaces that of the
vertex that lies on the second cell of the first row, and it is not warned of. -/
theorem not_fills_isOn_ground :
    let level := ground ⟨8, nan, 4⟩
    let face := level.faces[0]
    let field := level.terrainField face
    let terrain := level.recoverFaceTerrain face
    field.IsOn ⟨8, 0⟩ 0 1 ∧
      (∀ row col, row < field.side → col < field.side → ¬ field.IsOn ⟨8, nan⟩ row col) ∧
      terrain.value.heights.get? 0 1 = some 4 ∧ terrain.warnings = [] ∧
      ¬ field.Fills field.IsOn (level.terrainVertices face) terrain.value.heights [] := by
  intro level face field terrain
  have hspaced : field.IsSpaced := by decide +kernel
  have hslips : field.SlipsTo ⟨8, nan⟩ 0 1 :=
    .col hspaced (by decide +kernel) (by decide +kernel)
  have hside : field.side = 2 := by decide +kernel
  have hnone : ∀ row col, row < field.side → col < field.side →
      ¬ field.IsOn ⟨8, nan⟩ row col :=
    fun row col hrow hcol => hslips.not_isOn (by omega) (by omega)
  have hvertex : ⟨8, nan, 4⟩ ∈ level.terrainVertices face := by decide +kernel
  refine ⟨.near hspaced (by decide +kernel) (by decide +kernel), hnone, by decide +kernel,
    by decide +kernel, fun hfills => ?_⟩
  exact absurd (hfills.mem_dropped_iff.2 ⟨hvertex, hnone⟩) List.not_mem_nil

end Level

end Brushwork
