import Mathlib.Algebra.Order.BigOperators.Group.List
import Mathlib.Algebra.Order.Group.Nat
import Mathlib.Data.Nat.Bitwise
import Brushwork.Grid
import Brushwork.Level.Basic

/-!
# Words and faults

A machine counts in words of 64 bits and reads tables at positions, and every one of its
operations can fail : a sum may be too large for a word, a divisor zero, a shift as wide as
the word, a position or a range outside the table. `Checked` is a value or such a `Fault`.

Every operation comes with the condition under which it does not fail (`add_eq`, `div_eq`,
`slice_eq`, ...). Reading a run of a table and writing to a cell of a grid guard their
operations themselves, so they fail for no run and for no cell (`readRun_eq`,
`setCell_eq`).

Only counts of work are not bounded by the tables : entities can share a model. A machine
either stops at a count that is no word or goes on with what is left of it (`Overflow`), and
everything about machines is said for both kinds. Of a level it is only asked that its
tables fit in memory and its numbers have the width that they are stored in (`Fits`).
-/

namespace Brushwork.Machine

/-- What stops a machine. -/
inductive Fault
  /-- A number that is no word : too large, or below zero. -/
  | overflow
  /-- A division by zero. -/
  | divisionByZero
  /-- A shift by the width of the word or more. -/
  | shift
  /-- A position outside the table. -/
  | position
  /-- A range that ends before it starts, or outside the table. -/
  | range
  deriving DecidableEq, Repr

/-- A value, or the fault that stopped the machine on the way to it. -/
abbrev Checked := Except Fault

/-- What a machine does with a count of work that is no word. -/
inductive Overflow
  /-- It stops, as it does with every other number that is none. -/
  | stops
  /-- It goes on with the lower part of the count. -/
  | wraps
  deriving DecidableEq, Repr

/-- The number of words. -/
def wordSize : Nat := UInt64.size

/-- The number of words of half the width, in which a level stores references. -/
def halfSize : Nat := UInt32.size

/-! ## Arithmetic -/

/-- A number as a word. -/
def word (n : Nat) : Checked Nat :=
  if n < wordSize then pure n else throw .overflow

/-- The sum of two words. -/
def add (a b : Nat) : Checked Nat :=
  word (a + b)

/-- The product of two words. -/
def mul (a b : Nat) : Checked Nat :=
  word (a * b)

/-- The difference of two words. -/
def sub (a b : Nat) : Checked Nat :=
  if b ≤ a then pure (a - b) else throw .overflow

/-- The quotient of two words. -/
def div (a b : Nat) : Checked Nat :=
  if b = 0 then throw .divisionByZero else pure (a / b)

/-- The remainder of two words. -/
def rem (a b : Nat) : Checked Nat :=
  if b = 0 then throw .divisionByZero else pure (a % b)

/-- A word of `width` bits moved to the left by `n` bits. -/
def shiftLeft (width a n : Nat) : Checked Nat :=
  if n < width then pure ((a <<< n) % 2 ^ width) else throw .shift

/-- The sum of two counts of work. -/
def count (overflow : Overflow) (a b : Nat) : Checked Nat :=
  match overflow with
  | .stops => add a b
  | .wraps => pure ((a + b) % wordSize)

/-- The sum of two words, or the largest word. -/
def saturatingAdd (a b : Nat) : Nat :=
  min (a + b) (wordSize - 1)

/-- The lower half of a word. -/
def toHalf (n : Nat) : Nat :=
  n % halfSize

variable {a b n width : Nat}

theorem add_eq (h : a + b < wordSize) : add a b = pure (a + b) :=
  if_pos h

/-- Counts are summed up without a fault where the machine does not stop at large ones. -/
theorem count_eq {overflow : Overflow} (h : overflow = .stops → a + b < wordSize) :
    count overflow a b = pure ((a + b) % wordSize) := by
  cases overflow with
  | stops => rw [count, add_eq (h rfl), Nat.mod_eq_of_lt (h rfl)]
  | wraps => rfl

theorem count_mod_eq {overflow : Overflow} (h : overflow = .stops → a + b < wordSize) :
    count overflow (a % wordSize) b = pure ((a + b) % wordSize) := by
  cases overflow with
  | stops =>
    have hab := h rfl
    rw [Nat.mod_eq_of_lt (by omega), count_eq h]
  | wraps => rw [count, Nat.mod_add_mod]

theorem mul_eq (h : a * b < wordSize) : mul a b = pure (a * b) :=
  if_pos h

theorem sub_eq (h : b ≤ a) : sub a b = pure (a - b) :=
  if_pos h

theorem div_eq (h : 0 < b) : div a b = pure (a / b) :=
  if_neg (Nat.ne_of_gt h)

theorem rem_eq (h : 0 < b) : rem a b = pure (a % b) :=
  if_neg (Nat.ne_of_gt h)

theorem shiftLeft_one_eq (h : n < width) : shiftLeft width 1 n = pure (2 ^ n) := by
  rw [shiftLeft, if_pos h, Nat.one_shiftLeft,
    Nat.mod_eq_of_lt (Nat.pow_lt_pow_right (by decide) h)]

theorem toHalf_eq (h : n < halfSize) : toHalf n = n :=
  Nat.mod_eq_of_lt h

/-- The product of two halves is a word. -/
theorem mul_lt_wordSize (ha : a < halfSize) (hb : b < halfSize) : a * b < wordSize :=
  Nat.mul_lt_mul'' ha hb

/-- The sum of two halves is a word. -/
theorem add_lt_wordSize (ha : a < halfSize) (hb : b < halfSize) : a + b < wordSize := by
  have hsize : halfSize + halfSize < wordSize := by decide
  omega

/-! ## Tables -/

/-- The entry at a position. -/
def entryAt {α : Type} (table : Array α) (position : Nat) : Checked α :=
  match table[position]? with
  | some entry => pure entry
  | none => throw .position

/-- The entries from `start` up to `stop`. -/
def slice {α : Type} (table : Array α) (start stop : Nat) : Checked (List α) :=
  if start ≤ stop ∧ stop ≤ table.size then pure (table.extract start stop).toList
  else throw .range

/-- The entries that a run reaches. -/
def readRun {α : Type} (run : Run) (table : Array α) : Checked (List α) :=
  let start := min run.first table.size
  slice table start (min (saturatingAdd start run.count) table.size)

variable {α : Type} {table : Array α}

theorem entryAt_eq {position : Nat} {entry : α} (h : table[position]? = some entry) :
    entryAt table position = pure entry := by
  rw [entryAt, h]

theorem slice_eq {start stop : Nat} (hle : start ≤ stop) (hstop : stop ≤ table.size) :
    slice table start stop = pure (table.extract start stop).toList :=
  if_pos ⟨hle, hstop⟩

/-- A run of a table that fits in memory is read without a fault, whatever the run is. -/
theorem readRun_eq (hsize : table.size < wordSize) (run : Run) :
    readRun run table = pure (run.read table) := by
  have hstop : min (saturatingAdd (min run.first table.size) run.count) table.size =
      min (run.first + run.count) table.size := by
    unfold saturatingAdd
    omega
  rw [readRun, hstop]
  exact slice_eq (run.clamp_start_le_stop table.size) (run.clamp_stop_le table.size)

theorem mem_of_mem_read {run : Run} {entry : α} (h : entry ∈ run.read table) :
    entry ∈ table.toList := by
  rw [Run.read_eq_take_drop] at h
  exact List.mem_of_mem_drop (List.mem_of_mem_take h)

theorem length_read_le (run : Run) (table : Array α) :
    (run.read table).length ≤ run.count := by
  rw [Run.read_eq_take_drop]
  exact List.length_take_le ..

/-- An operation that fails for no element of a list does not fail for the list. -/
theorem mapM_eq {β : Type} {f : α → Checked β} {g : α → β} :
    ∀ {xs : List α}, (∀ x ∈ xs, f x = pure (g x)) → xs.mapM f = pure (xs.map g)
  | [], _ => rfl
  | x :: xs, h => by
    have ih := mapM_eq fun y hy => h y (List.mem_cons_of_mem _ hy)
    rw [List.mapM_cons, h x List.mem_cons_self, pure_bind, ih, pure_bind, List.map_cons]

/-! ## Grids -/

/-- A grid with the same value in every cell. -/
def filledGrid (side : Nat) (value : α) : Checked (Grid α) := do
  let _ ← mul side side
  return .filled side value

/-- A grid with the value of `f` at every row and column, row after row. -/
def gridOfFn (side : Nat) (f : (row col : Nat) → Checked α) : Checked (Grid α) := do
  let _ ← mul side side
  let cells ← Vector.ofFnM fun i : Fin (side * side) => f (i.val / side) (i.val % side)
  return ⟨side, cells.toArray, cells.size_toArray⟩

/-- Change a cell; none if the grid has no such cell. -/
def setCell (g : Grid α) (row col : Nat) (value : α) : Checked (Option (Grid α)) :=
  if row < g.side ∧ col < g.side then do
    let start ← mul row g.side
    let position ← add start col
    return if position < g.cells.size then
      some ⟨g.side, g.cells.setIfInBounds position value, by simpa using g.size_cells⟩
    else none
  else pure none

variable {side : Nat}

theorem filledGrid_eq (h : side * side < wordSize) (value : α) :
    filledGrid side value = pure (.filled side value) := by
  rw [filledGrid, mul_eq h, pure_bind]

theorem gridOfFn_eq (h : side * side < wordSize) {f : Nat → Nat → Checked α} {g : Nat → Nat → α}
    (hf : ∀ row < side, ∀ col < side, f row col = pure (g row col)) :
    gridOfFn side f = pure (.ofFn side g) := by
  have hcell : (fun i : Fin (side * side) => f (i.val / side) (i.val % side)) =
      fun i => pure (g (i.val / side) (i.val % side)) := by
    funext i
    have hside : 0 < side := Nat.pos_of_lt_mul_right i.isLt
    exact hf _ (Nat.div_lt_of_lt_mul i.isLt) _ (Nat.mod_lt _ hside)
  rw [gridOfFn, mul_eq h, pure_bind, hcell, Vector.ofFnM_pure, pure_bind]
  rfl

/-- No cell is written outside a grid that fits in memory. -/
theorem setCell_eq {g : Grid α} (h : g.side * g.side < wordSize) (row col : Nat) (value : α) :
    setCell g row col value = pure (g.set? row col value) := by
  unfold setCell Grid.set? Grid.position?
  split
  · next hcell =>
    have hposition : row * g.side + col < g.side * g.side :=
      Grid.lt_of_position? (if_pos hcell)
    rw [mul_eq (by omega), pure_bind, add_eq (by omega), pure_bind,
      if_pos (g.size_cells ▸ hposition)]
    rfl
  · rfl

/-! ## Bits -/

/-- Whether a bit of a word of half the width is set. -/
def bitOf (flags : Int32) (bit : Nat) : Checked Bool := do
  let mask ← shiftLeft 32 1 bit
  return decide (flags.toBitVec.toNat &&& mask ≠ 0)

theorem bitOf_eq (flags : Int32) (bit : Fin 32) : bitOf flags bit = pure (hasBit flags bit) := by
  have hbit : decide (flags.toBitVec.toNat &&& 2 ^ bit.val ≠ 0) = hasBit flags bit := by
    rw [hasBit, BitVec.getLsbD, Nat.and_two_pow]
    cases flags.toBitVec.toNat.testBit bit.val <;> simp
  rw [bitOf, shiftLeft_one_eq bit.isLt, pure_bind, hbit]

/-! ## Levels -/

/-- The numbers of entries of the tables of a level, those that entities are made of
first. -/
def tableSizes (level : Level) : List Nat :=
  [level.entities.size, level.staticProps.size, level.staticModels.size, level.cubemaps.size,
    level.models.size, level.brushes.size, level.brushSides.size, level.planes.size,
    level.faces.size, level.vertices.size, level.indices.size, level.textures.size,
    level.materials.size, level.textureInfos.size, level.textureRecords.size,
    level.nameOffsets.size, level.nameBytes.size, level.displacements.size,
    level.displacementVertices.size, level.patches.size, level.patchVertices.size,
    level.leafPatches.size, level.terrainTiles.size, level.staticPropModels.size]

/-- The width and the height are halves of words. -/
structure SizeFits (size : PatchSize) : Prop where
  width : size.width < halfSize
  height : size.height < halfSize

instance (size : PatchSize) : Decidable (SizeFits size) :=
  decidable_of_iff (size.width < halfSize ∧ size.height < halfSize)
    ⟨fun h => ⟨h.1, h.2⟩, fun h => ⟨h.width, h.height⟩⟩

/-- The numbers of a face that are computed with are halves of words. -/
structure FaceFits (face : Face) : Prop where
  first : face.vertices.first < halfSize
  count : face.vertices.count < halfSize
  size : ∀ size ∈ face.patchSize, SizeFits size

instance (face : Face) : Decidable (FaceFits face) :=
  decidable_of_iff (face.vertices.first < halfSize ∧ face.vertices.count < halfSize ∧
      ∀ size ∈ face.patchSize, SizeFits size)
    ⟨fun h => ⟨h.1, h.2.1, h.2.2⟩, fun h => ⟨h.first, h.count, h.size⟩⟩

/-- The tables of a level fit in memory together, and the numbers in them that are computed
with are halves of words, as they are stored. -/
structure Fits (level : Level) : Prop where
  tables : (tableSizes level).sum < wordSize
  indices : ∀ index ∈ level.indices, index < halfSize
  faces : ∀ face ∈ level.faces, FaceFits face
  patches : ∀ patch ∈ level.patches, SizeFits patch.size

instance (level : Level) : Decidable (Fits level) :=
  decidable_of_iff ((tableSizes level).sum < wordSize ∧
      (∀ index ∈ level.indices, index < halfSize) ∧ (∀ face ∈ level.faces, FaceFits face) ∧
      ∀ patch ∈ level.patches, SizeFits patch.size)
    ⟨fun h => ⟨h.1, h.2.1, h.2.2.1, h.2.2.2⟩,
      fun h => ⟨h.tables, h.indices, h.faces, h.patches⟩⟩

/-- Every table fits in memory. -/
theorem Fits.size_lt {level : Level} (fits : Fits level) {n : Nat} (h : n ∈ tableSizes level) :
    n < wordSize :=
  Nat.lt_of_le_of_lt (List.le_sum_of_mem h) fits.tables

end Brushwork.Machine
