import Brushwork.Grid

/-!
# Grids after a history of writes

A grid is made empty, with one value everywhere or with the value of a function at every row
and column (`Grid.Start`), and then written to, cell by cell. `Grid.IsSquareOf` says what it
is for such a grid to be a square of values : the cells that can be read and written are
those inside the square, a write changes no cell but its own, and the rows are the cells cut
into pieces as long as the side (`Grid.rows_eq_chunks`).

A cell is only changed by the writes to it, so after a run of steps a cell has the value that
the last of them gave it (`Grid.get?_foldl`), or the one that it started with.
`Grid.isSquareOf_writeAll` says so for every start and every history of writes. The cells that
a grid starts with are those that the loops over its rows and columns push one after another
(`Grid.cells_ofFn`).
-/

namespace Brushwork

universe u v

variable {α : Type u}

/-! ## Pieces of a list -/

/-- The pieces of a size that a list starts with, one after another. What is left over at the
end is no piece. -/
def chunks (size : Nat) (xs : List α) : List (List α) :=
  if 0 < size ∧ size ≤ xs.length then xs.take size :: chunks size (xs.drop size) else []
termination_by xs.length
decreasing_by rw [List.length_drop]; omega

/-- Rows of one length are the pieces of that length that the rows together are cut into. -/
theorem chunks_flatten {size : Nat} (hsize : 0 < size) :
    ∀ {rows : List (List α)}, (∀ row ∈ rows, row.length = size) →
      chunks size rows.flatten = rows
  | [], _ => by
    have hshort : ¬(0 < size ∧ size ≤ ([] : List (List α)).flatten.length) :=
      fun h => Nat.not_le_of_gt hsize h.2
    rw [chunks, if_neg hshort]
  | row :: rows, h => by
    have hrow : row.length = size := h row List.mem_cons_self
    have hlong : 0 < size ∧ size ≤ (row ++ rows.flatten).length := by
      rw [List.length_append]
      omega
    have ih := chunks_flatten hsize fun row hmem => h row (List.mem_cons_of_mem _ hmem)
    rw [List.flatten_cons, chunks, if_pos hlong, List.take_left' hrow, List.drop_left' hrow, ih]

namespace Grid

/-! ## The cells in order -/

/-- The first rows together are the first cells. -/
theorem flatten_map_row (g : Grid α) :
    ∀ n : Nat, ((List.range n).map g.row).flatten = (g.cells.extract 0 (n * g.side)).toList
  | 0 => by simp
  | n + 1 => by
    have hle : n * g.side ≤ (n + 1) * g.side := Nat.mul_le_mul_right _ (Nat.le_succ n)
    rw [List.range_succ, List.map_append, List.flatten_append, flatten_map_row g n,
      List.map_singleton, List.flatten_singleton, row, ← Array.toList_append,
      Array.extract_append_extract, Nat.min_eq_left (Nat.zero_le _), Nat.max_eq_right hle]

/-- The rows together are the cells. -/
theorem flatten_rows (g : Grid α) : g.rows.flatten = g.cells.toList := by
  rw [rows, flatten_map_row, ← g.size_cells, Array.extract_size]

theorem length_of_mem_rows {g : Grid α} {row : List α} (h : row ∈ g.rows) :
    row.length = g.side := by
  obtain ⟨r, hr, rfl⟩ := List.mem_map.1 h
  exact g.length_row (List.mem_range.1 hr)

/-- The rows are the pieces of the cells that are as long as the side. -/
theorem rows_eq_chunks (g : Grid α) : g.rows = chunks (max g.side 1) g.cells.toList := by
  rw [← flatten_rows, chunks_flatten (Nat.le_max_right g.side 1)]
  intro row hrow
  -- a grid of side zero has no rows, so the length of the pieces does not matter there
  have hside : 0 < g.side := by
    rw [← length_rows]
    exact List.length_pos_of_mem hrow
  rw [length_of_mem_rows hrow, Nat.max_eq_left hside]

/-- Outside the square there is no cell. -/
theorem get?_eq_none {g : Grid α} {row col : Nat} (h : ¬(row < g.side ∧ col < g.side)) :
    g.get? row col = none := by
  rw [get?, position?, if_neg h, Option.bind_none]

theorem getElem?_row (g : Grid α) {row : Nat} (hrow : row < g.side) (col : Nat) :
    (g.row row)[col]? = g.get? row col := by
  have hlength := g.length_row hrow
  rcases Nat.lt_or_ge col g.side with hcol | hcol
  · rw [Grid.row, Array.length_toList, Array.size_extract] at hlength
    rw [Grid.row, Array.getElem?_toList, Array.getElem?_extract, hlength, if_pos hcol, get?,
      position?, if_pos ⟨hrow, hcol⟩, Option.bind_some]
  · rw [List.getElem?_eq_none (hlength ▸ hcol), get?_eq_none fun h => Nat.not_lt.2 hcol h.2]

/-- The entries of the rows are the cells at their rows and columns. -/
theorem getElem?_rows (g : Grid α) (row col : Nat) :
    g.rows[row]?.bind (·[col]?) = g.get? row col := by
  rcases Nat.lt_or_ge row g.side with hrow | hrow
  · rw [rows, List.getElem?_map, List.getElem?_range hrow, Option.map_some, Option.bind_some,
      getElem?_row g hrow]
  · rw [List.getElem?_eq_none (g.length_rows ▸ hrow), Option.bind_none,
      get?_eq_none fun h => Nat.not_lt.2 hrow h.1]

/-! ## The cells of a function -/

/-- The values of a function, pushed one after another, row by row. -/
def pushed (side : Nat) (f : (row col : Nat) → α) : Array α := Id.run do
  let mut cells := #[]
  for row in [0:side] do
    for col in [0:side] do
      cells := cells.push (f row col)
  return cells

theorem toList_pushed (side : Nat) (f : Nat → Nat → α) :
    (pushed side f).toList =
      ((List.range side).map fun row => (List.range side).map (f row)).flatten :=
  calc (pushed side f).toList
      = ((List.range side).foldl
          (fun cells row => cells ++ ((List.range side).map (f row)).toArray) #[]).toList := by
        simp [pushed, List.range_eq_range']
    _ = (List.range side).foldl (fun cells row => cells ++ (List.range side).map (f row)) [] :=
        (List.foldl_hom Array.toList fun _ _ => by rw [Array.toList_append]).symm
    _ = ((List.range side).map fun row => (List.range side).map (f row)).flatten :=
        List.foldl_append_eq_append

theorem rows_ofFn (side : Nat) (f : Nat → Nat → α) :
    (ofFn side f).rows = (List.range side).map fun row => (List.range side).map (f row) := by
  refine List.map_congr_left fun row hrow => List.ext_getElem? fun col => ?_
  have hrow : row < side := List.mem_range.1 hrow
  rw [getElem?_row _ hrow, List.getElem?_map]
  rcases Nat.lt_or_ge col side with hcol | hcol
  · rw [get?_ofFn f hrow hcol, List.getElem?_range hcol, Option.map_some]
  · rw [get?_eq_none fun h => Nat.not_lt.2 hcol h.2,
      List.getElem?_eq_none (List.length_range ▸ hcol), Option.map_none]

/-- A grid of a function has the cells that the loops over its rows and columns push. -/
theorem cells_ofFn (side : Nat) (f : Nat → Nat → α) : (ofFn side f).cells = pushed side f := by
  rw [← Array.toList_inj, toList_pushed, ← flatten_rows, rows_ofFn]

/-! ## Writing to cells -/

/-- A cell can be written to exactly if it is inside the square. -/
theorem set?_eq (g : Grid α) (row col : Nat) (value : α) :
    g.set? row col value =
      if row < g.side ∧ col < g.side then some (g.set row col value) else none := by
  unfold set set? position?
  split <;> rfl

theorem isSome_set?_iff (g : Grid α) (row col : Nat) (value : α) :
    (g.set? row col value).isSome ↔ row < g.side ∧ col < g.side := by
  rw [set?_eq, Option.isSome_ite]

/-- A write changes its own cell and no other. Where neither cell is inside the square there
is nothing to change. -/
theorem get?_set {g : Grid α} {row col row' col' : Nat} (value : α)
    (hinside : row < g.side ∧ col < g.side ∨ row' < g.side ∧ col' < g.side) :
    (g.set row col value).get? row' col' =
      if row = row' ∧ col = col' then some value else g.get? row' col' := by
  split
  case isTrue h =>
    obtain ⟨rfl, rfl⟩ := h
    obtain ⟨hrow, hcol⟩ := or_self_iff.1 hinside
    exact get?_set_self value hrow hcol
  case isFalse h => exact get?_set_of_ne value fun heq => h (Prod.mk.inj heq)

theorem side_foldl {β : Type v} {step : Grid α → β → Grid α}
    (hside : ∀ g x, (step g x).side = g.side) :
    ∀ (xs : List β) (g : Grid α), (xs.foldl step g).side = g.side
  | [], _ => rfl
  | x :: xs, g => (side_foldl hside xs (step g x)).trans (hside g x)

/-- Where each step gives a cell a value or leaves it as it is, the last one to give it a
value decides. -/
theorem get?_foldl {β : Type v} {step : Grid α → β → Grid α} {gives : β → Prop}
    [DecidablePred gives] {value : β → α} {row col : Nat}
    (hside : ∀ g x, (step g x).side = g.side)
    (hstep : ∀ (g : Grid α) (x : β), row < g.side → col < g.side →
      (step g x).get? row col = if gives x then some (value x) else g.get? row col) :
    ∀ (xs : List β) {g : Grid α}, row < g.side → col < g.side →
      (xs.foldl step g).get? row col =
        ((xs.findRev? fun x => gives x).map value).or (g.get? row col)
  | [], _, _, _ => rfl
  | x :: xs, g, hrow, hcol => by
    -- the rest of the run starts from the grid after the first step, which has the same side
    rw [List.foldl_cons, get?_foldl hside hstep xs (by rwa [hside]) (by rwa [hside]),
      hstep g x hrow hcol, List.findRev?]
    cases xs.findRev? fun x => gives x with
    | some later => rfl
    | none => by_cases hx : gives x <;> simp [hx]

/-- A write of a value to a cell. -/
structure Write (α : Type u) where
  row : Nat
  col : Nat
  value : α

/-- The grid after a history of writes. A write to no cell of the grid changes nothing. -/
def writeAll (g : Grid α) (history : List (Write α)) : Grid α :=
  history.foldl (fun g write => g.set write.row write.col write.value) g

/-- The value that was last written to a cell. -/
def lastWritten? (history : List (Write α)) (row col : Nat) : Option α :=
  (history.findRev? fun write => write.row = row ∧ write.col = col).map (·.value)

@[simp] theorem side_writeAll (g : Grid α) (history : List (Write α)) :
    (g.writeAll history).side = g.side :=
  side_foldl (fun _ _ => side_set ..) history g

/-- After a history a cell has the value that was last written to it, or the one that it had
before. -/
theorem get?_writeAll (g : Grid α) (history : List (Write α)) {row col : Nat}
    (hrow : row < g.side) (hcol : col < g.side) :
    (g.writeAll history).get? row col =
      (lastWritten? history row col).or (g.get? row col) := by
  refine get?_foldl (fun _ _ => side_set ..) (fun h write hrow hcol => ?_) history hrow hcol
  exact get?_set write.value (.inr ⟨hrow, hcol⟩)

/-! ## Squares of values -/

/-- A grid has `side` rows of `side` cells, and no other cells. -/
structure HasSide (g : Grid α) (side : Nat) : Prop where
  side_eq : g.side = side
  size_cells : g.cells.size = side * side
  length_rows : g.rows.length = side
  length_row : ∀ row ∈ g.rows, row.length = side

theorem hasSide (g : Grid α) : g.HasSide g.side where
  side_eq := rfl
  size_cells := g.size_cells
  length_rows := g.length_rows
  length_row _ := length_of_mem_rows

/-- What a grid of a side is if its cells are to have given values. -/
structure IsSquareOf (g : Grid α) (side : Nat) (value? : (row col : Nat) → Option α) : Prop
    extends g.HasSide side where
  /-- The cells that can be read are those inside the square. -/
  isSome_get?_iff : ∀ row col, (g.get? row col).isSome ↔ row < side ∧ col < side
  /-- So are the cells that can be written to. -/
  isSome_set?_iff : ∀ row col value, (g.set? row col value).isSome ↔ row < side ∧ col < side
  get?_eq : ∀ row col, row < side → col < side → g.get? row col = value? row col
  /-- A write that succeeds changes its own cell and no other. -/
  get?_of_set? : ∀ row col value changed, g.set? row col value = some changed →
    changed.side = side ∧ ∀ row' col', changed.get? row' col' =
      if row = row' ∧ col = col' then some value else g.get? row' col'
  /-- The rows are the cells cut into pieces, with nothing left over. -/
  rows_eq : g.rows = chunks (max side 1) g.cells.toList
  flatten_rows : g.rows.flatten = g.cells.toList
  getElem?_rows : ∀ row col, g.rows[row]?.bind (·[col]?) = g.get? row col

/-- A grid is the square of the values in its cells. -/
theorem isSquareOf {g : Grid α} {value? : Nat → Nat → Option α}
    (hget : ∀ row col, row < g.side → col < g.side → g.get? row col = value? row col) :
    g.IsSquareOf g.side value? where
  toHasSide := g.hasSide
  isSome_get?_iff := g.isSome_get?_iff
  isSome_set?_iff := g.isSome_set?_iff
  get?_eq := hget
  get?_of_set? row col value changed h := by
    rw [set?_eq] at h
    obtain ⟨hinside, hchanged⟩ := Option.ite_none_right_eq_some.1 h
    obtain rfl := Option.some.inj hchanged
    exact ⟨side_set .., fun row' col' => get?_set value (.inl hinside)⟩
  rows_eq := g.rows_eq_chunks
  flatten_rows := g.flatten_rows
  getElem?_rows := g.getElem?_rows

/-- What a grid starts as, before anything is written to it. -/
inductive Start (α : Type u)
  | empty
  | filled (side : Nat) (value : α)
  | ofFn (side : Nat) (f : (row col : Nat) → α)

namespace Start

def grid : Start α → Grid α
  | empty => .empty
  | filled side value => .filled side value
  | ofFn side f => .ofFn side f

def side : Start α → Nat
  | empty => 0
  | filled side _ => side
  | ofFn side _ => side

/-- The cells at the start : none, copies of a value, or what is pushed in order. -/
def cells : Start α → Array α
  | empty => #[]
  | filled side value => .replicate (side * side) value
  | ofFn side f => pushed side f

/-- The value of a cell at the start. -/
def value? : Start α → (row col : Nat) → Option α
  | empty, _, _ => none
  | filled _ value, _, _ => some value
  | ofFn _ f, row, col => some (f row col)

@[simp] theorem side_grid : ∀ start : Start α, start.grid.side = start.side
  | empty => rfl
  | filled side value => side_filled side value
  | ofFn side f => side_ofFn side f

theorem cells_grid : ∀ start : Start α, start.grid.cells = start.cells
  | empty => rfl
  | filled .. => rfl
  | ofFn side f => cells_ofFn side f

theorem get?_grid {row col : Nat} : ∀ {start : Start α}, row < start.side → col < start.side →
    start.grid.get? row col = start.value? row col
  | empty, hrow, _ => absurd hrow (Nat.not_lt_zero row)
  | filled _ value, hrow, hcol => get?_filled value hrow hcol
  | ofFn _ f, hrow, hcol => get?_ofFn f hrow hcol

end Start

/-- After every history of writes a grid is the square of the values that were last written
to its cells, and of those it started with in the other cells. -/
theorem isSquareOf_writeAll (start : Start α) (history : List (Write α)) :
    start.grid.cells = start.cells ∧
      (start.grid.writeAll history).IsSquareOf start.side fun row col =>
        (lastWritten? history row col).or (start.value? row col) := by
  have hside : (start.grid.writeAll history).side = start.side := by
    rw [side_writeAll, Start.side_grid]
  refine ⟨start.cells_grid, hside ▸ isSquareOf fun row col hrow hcol => ?_⟩
  rw [hside] at hrow hcol
  rw [get?_writeAll start.grid history (by rwa [Start.side_grid]) (by rwa [Start.side_grid]),
    Start.get?_grid hrow hcol]

/-- A cell that is written to twice, and a write past the last column. -/
example :
    ((Start.ofFn 3 fun row col => row * 10 + col).grid.writeAll
      [⟨1, 2, 7⟩, ⟨0, 3, 8⟩, ⟨1, 2, 9⟩]).rows = [[0, 1, 2], [10, 11, 9], [20, 21, 22]] := by
  decide

end Grid

end Brushwork
