/-!
# Square grids

A grid of `side * side` cells in row-major order. A cell outside the grid is never read or
written (`isSome_get?_iff`), a cell inside has the value last written to it
(`get?_set_self`), and a write changes no other cell (`get?_set_of_ne`).
-/

namespace Brushwork

universe u

/-- A square of cells, row after row. -/
structure Grid (α : Type u) where
  side : Nat
  cells : Array α
  size_cells : cells.size = side * side

namespace Grid

variable {α : Type u}

theorem ext_cells {g h : Grid α} (hside : g.side = h.side) (hcells : g.cells = h.cells) :
    g = h := by
  cases g; cases h; cases hside; cases hcells; rfl

instance [DecidableEq α] : DecidableEq (Grid α) := fun g h =>
  if hs : g.side = h.side then
    if hc : g.cells = h.cells then isTrue (ext_cells hs hc)
    else isFalse fun e => hc (e ▸ rfl)
  else isFalse fun e => hs (e ▸ rfl)

/-- The grid without cells. -/
def empty : Grid α :=
  ⟨0, #[], rfl⟩

instance : Inhabited (Grid α) := ⟨empty⟩

/-- A grid with the same value in every cell. -/
def filled (side : Nat) (value : α) : Grid α :=
  ⟨side, .replicate (side * side) value, Array.size_replicate⟩

/-- A grid with the value of `f` at every row and column. -/
def ofFn (side : Nat) (f : (row col : Nat) → α) : Grid α :=
  ⟨side, .ofFn fun i : Fin (side * side) => f (i.val / side) (i.val % side), Array.size_ofFn⟩

/-- The position of a cell, if the row and the column are inside the grid. -/
def position? (side row col : Nat) : Option Nat :=
  if row < side ∧ col < side then some (row * side + col) else none

/-- The value of a cell. -/
def get? (g : Grid α) (row col : Nat) : Option α :=
  (position? g.side row col).bind (g.cells[·]?)

/-- Change a cell; none if the grid has no such cell. -/
def set? (g : Grid α) (row col : Nat) (value : α) : Option (Grid α) :=
  (position? g.side row col).map fun i =>
    ⟨g.side, g.cells.setIfInBounds i value, by simpa using g.size_cells⟩

/-- Change a cell, or nothing if the grid has no such cell. -/
def set (g : Grid α) (row col : Nat) (value : α) : Grid α :=
  (g.set? row col value).getD g

/-- The cells of a row. -/
def row (g : Grid α) (r : Nat) : List α :=
  (g.cells.extract (r * g.side) ((r + 1) * g.side)).toList

/-- The rows in order. -/
def rows (g : Grid α) : List (List α) :=
  (List.range g.side).map g.row

/-- Whether the grid has no cells. -/
def isEmpty (g : Grid α) : Bool :=
  g.cells.isEmpty

@[simp] theorem side_filled (side : Nat) (value : α) : (filled side value).side = side :=
  rfl

@[simp] theorem side_ofFn (side : Nat) (f : Nat → Nat → α) : (ofFn side f).side = side :=
  rfl

theorem position?_eq_some_iff {side row col i : Nat} :
    position? side row col = some i ↔ row < side ∧ col < side ∧ row * side + col = i := by
  unfold position?
  split
  case isTrue h => simp [h.1, h.2]
  case isFalse h => simpa using fun hr hc _ => h ⟨hr, hc⟩

theorem lt_of_position? {side row col i : Nat} (h : position? side row col = some i) :
    i < side * side := by
  obtain ⟨hr, hc, rfl⟩ := position?_eq_some_iff.1 h
  calc row * side + col < row * side + side := by omega
    _ = (row + 1) * side := by rw [Nat.add_mul, Nat.one_mul]
    _ ≤ side * side := Nat.mul_le_mul_right side hr

/-- Distinct cells have distinct positions. -/
theorem position?_inj {side row col row' col' i : Nat}
    (h : position? side row col = some i) (h' : position? side row' col' = some i) :
    row = row' ∧ col = col' := by
  obtain ⟨-, hc, hi⟩ := position?_eq_some_iff.1 h
  obtain ⟨-, hc', hi'⟩ := position?_eq_some_iff.1 h'
  have hpos : 0 < side := by omega
  constructor
  · have := congrArg (· / side) (hi.trans hi'.symm)
    simpa [Nat.mul_comm _ side, Nat.mul_add_div hpos, Nat.div_eq_of_lt hc,
      Nat.div_eq_of_lt hc'] using this
  · have := congrArg (· % side) (hi.trans hi'.symm)
    simpa [Nat.mul_comm _ side, Nat.mul_add_mod, Nat.mod_eq_of_lt hc,
      Nat.mod_eq_of_lt hc'] using this

@[simp] theorem side_set (g : Grid α) (row col : Nat) (value : α) :
    (g.set row col value).side = g.side := by
  unfold set set?
  cases position? g.side row col <;> rfl

theorem cells_set {g : Grid α} {row col i : Nat} (value : α)
    (h : position? g.side row col = some i) :
    (g.set row col value).cells = g.cells.setIfInBounds i value := by
  simp [set, set?, h]

theorem set_eq_self {g : Grid α} {row col : Nat} (value : α)
    (h : position? g.side row col = none) : g.set row col value = g := by
  simp [set, set?, h]

/-- A cell is inside the grid exactly if it has a value. -/
theorem isSome_get?_iff (g : Grid α) (row col : Nat) :
    (g.get? row col).isSome ↔ row < g.side ∧ col < g.side := by
  unfold get?
  cases h : position? g.side row col with
  | some i =>
    have hi := lt_of_position? h
    obtain ⟨hr, hc, -⟩ := position?_eq_some_iff.1 h
    simp [g.size_cells, hi, hr, hc]
  | none =>
    simp only [position?, ite_eq_right_iff, reduceCtorEq, imp_false] at h
    simpa using h

/-- Grids are equal if all their cells are. -/
theorem ext_get? {g h : Grid α} (hside : g.side = h.side)
    (hget : ∀ row col, row < g.side → col < g.side → g.get? row col = h.get? row col) : g = h := by
  refine ext_cells hside (Array.ext_getElem? fun i => ?_)
  rcases Nat.lt_or_ge i (g.side * g.side) with hi | hi
  · have hpos : 0 < g.side := Nat.pos_of_ne_zero fun hzero => by simp [hzero] at hi
    have hrow : i / g.side < g.side := Nat.div_lt_of_lt_mul hi
    have hcol : i % g.side < g.side := Nat.mod_lt i hpos
    have hposition : position? g.side (i / g.side) (i % g.side) = some i :=
      position?_eq_some_iff.2 ⟨hrow, hcol, Nat.div_add_mod' i g.side⟩
    have hcell := hget _ _ hrow hcol
    rwa [get?, get?, ← hside, hposition] at hcell
  · have hi' : h.side * h.side ≤ i := hside ▸ hi
    rw [Array.getElem?_eq_none (Nat.le_trans (Nat.le_of_eq g.size_cells) hi),
      Array.getElem?_eq_none (Nat.le_trans (Nat.le_of_eq h.size_cells) hi')]

/-- A cell that is inside the grid has the value that was written to it. -/
theorem get?_set_self {g : Grid α} {row col : Nat} (value : α) (hr : row < g.side)
    (hc : col < g.side) : (g.set row col value).get? row col = some value := by
  have h : position? g.side row col = some (row * g.side + col) := if_pos ⟨hr, hc⟩
  have hi := lt_of_position? h
  simp [get?, h, cells_set value h, g.size_cells, hi]

/-- Writing to a cell changes no other. -/
theorem get?_set_of_ne {g : Grid α} {row col row' col' : Nat} (value : α)
    (hne : (row, col) ≠ (row', col')) :
    (g.set row col value).get? row' col' = g.get? row' col' := by
  cases h : position? g.side row col with
  | none => rw [set_eq_self value h]
  | some i =>
    unfold get?
    rw [side_set, cells_set value h]
    cases h' : position? g.side row' col' with
    | none => rfl
    | some j =>
      have hij : i ≠ j := by
        rintro rfl
        obtain ⟨rfl, rfl⟩ := position?_inj h h'
        exact hne rfl
      simp [Array.getElem?_setIfInBounds, hij]

@[simp] theorem length_rows (g : Grid α) : g.rows.length = g.side := by
  simp [rows]

theorem length_row (g : Grid α) {r : Nat} (h : r < g.side) : (g.row r).length = g.side := by
  have hend : (r + 1) * g.side ≤ g.side * g.side := Nat.mul_le_mul_right g.side h
  have hlength : (r + 1) * g.side - r * g.side = g.side := by
    rw [Nat.add_mul, Nat.one_mul, Nat.add_sub_cancel_left]
  rw [row, Array.length_toList, Array.size_extract, g.size_cells, Nat.min_eq_left hend, hlength]

theorem get?_filled {side row col : Nat} (value : α) (hr : row < side) (hc : col < side) :
    (filled side value).get? row col = some value := by
  have h : position? side row col = some (row * side + col) := if_pos ⟨hr, hc⟩
  have hi := lt_of_position? h
  simp [get?, h, filled, hi]

theorem get?_ofFn {side row col : Nat} (f : Nat → Nat → α) (hr : row < side)
    (hc : col < side) : (ofFn side f).get? row col = some (f row col) := by
  have h : position? side row col = some (row * side + col) := if_pos ⟨hr, hc⟩
  have hi := lt_of_position? h
  have hrow : (row * side + col) / side = row := by
    rw [Nat.mul_comm, Nat.mul_add_div (by omega), Nat.div_eq_of_lt hc, Nat.add_zero]
  have hcol : (row * side + col) % side = col := by
    rw [Nat.mul_comm, Nat.mul_add_mod, Nat.mod_eq_of_lt hc]
  simp [get?, h, ofFn, Array.getElem?_ofFn, hi, hrow, hcol]

end Grid

end Brushwork
