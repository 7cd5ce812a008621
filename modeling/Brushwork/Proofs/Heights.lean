import Mathlib.Data.List.Find
import Brushwork.Geometry.HeightField
import Brushwork.Proofs.GridHistory

/-!
# The heights of a field

`HeightField.Fills` says what it is to fill a grid by a relation between positions and cells :
every cell has the height of the last vertex on it, zero if there is none, and the vertices on
no cell are dropped, in order. The heights of a field are filled by the cells that positions are
given (`HeightField.fills_cell?`), since a vertex changes the height of its own cell and of no
other (`HeightField.get?_place`).
-/

namespace Brushwork

/-- The search for a square root does not go past a number whose square is large enough. -/
theorem nearestRootFrom_le_of_le {n t : Nat} (h : n ≤ t * (t + 1)) :
    ∀ {s : Nat} (fuel : Nat), s ≤ t → nearestRootFrom n s fuel ≤ t
  | _, 0, hs => hs
  | s, fuel + 1, hs => by
    unfold nearestRootFrom
    split
    · exact hs
    · next hlarge =>
      have hne : s ≠ t := fun heq => hlarge (heq ▸ h)
      exact nearestRootFrom_le_of_le h fuel (Nat.lt_of_le_of_ne hs hne)

namespace HeightField

universe u

variable {α : Type u} [Scalar α] (field : HeightField α)

theorem side_ofPositions (positions : List (Vec2 α)) :
    (ofPositions positions).side = nearestRoot positions.length := by
  unfold ofPositions
  dsimp only
  split <;> rfl

/-- A field over at most `t * (t + 1)` positions has at most `t` rows. -/
theorem side_ofPositions_le {positions : List (Vec2 α)} {t : Nat}
    (h : positions.length ≤ t * (t + 1)) : (ofPositions positions).side ≤ t := by
  rw [side_ofPositions]
  exact nearestRootFrom_le_of_le h _ (Nat.zero_le t)

/-! ## Putting heights into a grid -/

@[simp] theorem side_place (heights : Grid α) (vertex : Vec3 α) :
    (field.place heights vertex).side = heights.side := by
  unfold place
  split
  · exact Grid.side_set ..
  · rfl

/-- Putting heights into a grid keeps its side. -/
theorem side_heights (vertices : List (Vec3 α)) : (field.heights vertices).side = field.side :=
  Grid.side_foldl field.side_place vertices _

/-- A vertex changes the height of its own cell and of no other. -/
theorem get?_place {heights : Grid α} (vertex : Vec3 α) {row col : Nat}
    (hrow : row < heights.side) (hcol : col < heights.side) :
    (field.place heights vertex).get? row col =
      if field.cell? vertex.xy = some (row, col) then some vertex.z else heights.get? row col := by
  unfold place
  split
  next row' col' hcell =>
    simp only [hcell, Option.some.injEq, Prod.mk.injEq]
    exact Grid.get?_set vertex.z (.inr ⟨hrow, hcol⟩)
  next hcell => rw [hcell, if_neg nofun]

/-- Of the vertices on a cell the last one gives its height. -/
theorem get?_foldl_place {row col : Nat} (vertices : List (Vec3 α)) {heights : Grid α}
    (hrow : row < heights.side) (hcol : col < heights.side) :
    (vertices.foldl field.place heights).get? row col =
      ((vertices.findRev? fun vertex => field.cell? vertex.xy = some (row, col)).map (·.z)).or
        (heights.get? row col) :=
  Grid.get?_foldl field.side_place (fun _ vertex => field.get?_place vertex) vertices hrow hcol

/-! ## Filling a grid by a relation -/

open scoped Classical in
/-- The grid is filled by a relation between positions and cells. -/
structure Fills (on : Vec2 α → Nat → Nat → Prop) (vertices : List (Vec3 α)) (heights : Grid α)
    (dropped : List (Vec3 α)) : Prop where
  side_eq : heights.side = field.side
  /-- A cell has the height of the last vertex on it. -/
  get?_eq : ∀ row col, row < field.side → col < field.side → heights.get? row col =
    some (((vertices.findRev? fun vertex => on vertex.xy row col).map (·.z)).getD 0)
  /-- The vertices on no cell are dropped. -/
  dropped_eq : dropped = vertices.filter fun vertex => ∀ row col,
    row < field.side → col < field.side → ¬ on vertex.xy row col

variable {field}

/-- Only the cells in the grid and the positions of the vertices matter. -/
theorem Fills.congr {on on' : Vec2 α → Nat → Nat → Prop} {vertices : List (Vec3 α)}
    {heights : Grid α} {dropped : List (Vec3 α)} (h : field.Fills on vertices heights dropped)
    (hon : ∀ vertex ∈ vertices, ∀ row col, row < field.side → col < field.side →
      (on vertex.xy row col ↔ on' vertex.xy row col)) :
    field.Fills on' vertices heights dropped where
  side_eq := h.side_eq
  get?_eq := by
    intro row col hrow hcol
    rw [h.get?_eq row col hrow hcol, List.findRev?_eq_find?_reverse,
      List.findRev?_eq_find?_reverse, List.find?_congr]
    intro vertex hvertex
    exact decide_eq_decide.2 (hon vertex (List.mem_reverse.1 hvertex) row col hrow hcol)
  dropped_eq := by
    rw [h.dropped_eq, List.filter_congr]
    intro vertex hvertex
    refine decide_eq_decide.2 ?_
    exact forall_congr' fun row => forall_congr' fun col => forall_congr' fun hrow =>
      forall_congr' fun hcol => not_congr (hon vertex hvertex row col hrow hcol)

theorem Fills.mem_dropped_iff {on : Vec2 α → Nat → Nat → Prop} {vertices : List (Vec3 α)}
    {heights : Grid α} {dropped : List (Vec3 α)} (h : field.Fills on vertices heights dropped)
    {vertex : Vec3 α} : vertex ∈ dropped ↔ vertex ∈ vertices ∧ ∀ row col,
      row < field.side → col < field.side → ¬ on vertex.xy row col := by
  classical
  rw [h.dropped_eq, List.mem_filter, decide_eq_true_iff]

variable (field)

theorem lt_of_cell? {position : Vec2 α} {row col : Nat}
    (h : field.cell? position = some (row, col)) : row < field.side ∧ col < field.side := by
  obtain ⟨rounded, -, hcell⟩ := Option.bind_eq_some_iff.1 h
  obtain ⟨hside, hpair⟩ := Option.ite_none_right_eq_some.1 hcell
  obtain ⟨rfl, rfl⟩ := Prod.mk.inj (Option.some.inj hpair)
  exact hside

theorem isNone_cell?_iff (position : Vec2 α) :
    (field.cell? position).isNone = true ↔ ∀ row col, row < field.side → col < field.side →
      ¬ field.cell? position = some (row, col) := by
  rw [Option.isNone_iff_eq_none, Option.eq_none_iff_forall_ne_some]
  constructor
  · exact fun h row col _ _ => h (row, col)
  · rintro h ⟨row, col⟩ hcell
    obtain ⟨hrow, hcol⟩ := field.lt_of_cell? hcell
    exact h row col hrow hcol hcell

/-- The heights of a field are filled by the cells that positions are given. -/
theorem fills_cell? (vertices : List (Vec3 α)) :
    field.Fills (fun position row col => field.cell? position = some (row, col)) vertices
      (field.heights vertices) (field.offGrid vertices) where
  side_eq := field.side_heights vertices
  get?_eq := by
    intro row col hrow hcol
    rw [heights, get?_foldl_place field vertices hrow hcol, Grid.get?_filled 0 hrow hcol,
      Option.or_some]
    congr 4
    funext vertex
    exact decide_eq_decide.2 Iff.rfl
  dropped_eq := by
    refine List.filter_congr fun vertex _ => ?_
    classical
    exact Bool.eq_iff_iff.2 ((field.isNone_cell?_iff vertex.xy).trans decide_eq_true_iff.symm)

end HeightField

end Brushwork
