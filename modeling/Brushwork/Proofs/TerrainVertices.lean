import Mathlib
import Brushwork.Proofs.TerrainCells

/-!
# The vertices of a terrain

The grid of a terrain has as many rows as the root of the number of its vertices, rounded
(`nearestRoot_eq_round_sqrt`). Which cell a vertex is assigned depends on the vertex, on the side
of the grid and on the bounds of all vertices (`assignedCell?`), and not on where the vertex is
in the list. So every vertex is accounted for : it gives the height of its cell, if it is the last
one there, or is dropped with a warning if it has none (`Level.accounts_recoverFaceTerrain`).
-/

namespace Brushwork

/-! ## The side of a grid -/

/-- The search for a root ends at the first number whose square is large enough. -/
theorem nearestRootFrom_spec {n : Nat} :
    ∀ (fuel : Nat) {s : Nat}, n ≤ s + fuel → (∀ r < s, r * (r + 1) < n) →
      n ≤ nearestRootFrom n s fuel * (nearestRootFrom n s fuel + 1) ∧
        ∀ r < nearestRootFrom n s fuel, r * (r + 1) < n
  | 0, s, hfuel, hbelow => ⟨hfuel.trans (Nat.le_mul_of_pos_right s (Nat.succ_pos s)), hbelow⟩
  | fuel + 1, s, hfuel, hbelow => by
    unfold nearestRootFrom
    split
    next hlarge => exact ⟨hlarge, hbelow⟩
    next hsmall =>
      refine nearestRootFrom_spec fuel (by omega) fun r hr => ?_
      rcases Nat.lt_succ_iff_lt_or_eq.1 hr with hlt | rfl
      · exact hbelow r hlt
      · exact Nat.not_le.1 hsmall

/-- The side of a grid is the root of the number of positions, rounded. -/
theorem nearestRoot_eq_round_sqrt (n : Nat) : (nearestRoot n : ℤ) = round (Real.sqrt n) := by
  obtain ⟨hle, hbelow⟩ := nearestRootFrom_spec n (s := 0) (Nat.zero_add n).ge nofun
  rw [nearestRoot, round_eq, eq_comm, Int.floor_eq_iff]
  generalize nearestRootFrom n 0 n = t at *
  have hupper : Real.sqrt n < t + 1 / 2 := by
    have hcast : (n : ℝ) ≤ t * (t + 1) := by exact_mod_cast hle
    rw [Real.sqrt_lt' (by positivity)]
    linarith
  have hlower : (t : ℝ) - 1 / 2 ≤ Real.sqrt n := by
    cases t with
    | zero => exact le_trans (by norm_num) (Real.sqrt_nonneg _)
    | succ r =>
      have hcast : (r * (r + 1) + 1 : ℝ) ≤ n := by exact_mod_cast hbelow r (Nat.lt_succ_self r)
      refine Real.le_sqrt_of_sq_le ?_
      push_cast
      linarith
  rw [Int.cast_natCast]
  constructor <;> linarith

theorem nearestRoot_mul_self (n : Nat) : nearestRoot (n * n) = n := by
  have hround := nearestRoot_eq_round_sqrt (n * n)
  rw [Nat.cast_mul, Real.sqrt_mul_self (Nat.cast_nonneg n), round_natCast] at hround
  exact_mod_cast hround

/-! ## The bounds of a grid -/

/-- The least and the greatest coordinates of positions. -/
structure Bounds where
  lowest : Vec2 Float32
  highest : Vec2 Float32

/-- The bounds of positions, zero if there are none. -/
def Bounds.ofPositions (positions : List (Vec2 Float32)) : Bounds :=
  let xs := positions.map (·.x)
  let ys := positions.map (·.y)
  if positions.isEmpty then ⟨.zero, .zero⟩
  else ⟨⟨Scalar.minimum xs, Scalar.minimum ys⟩, ⟨Scalar.maximum xs, Scalar.maximum ys⟩⟩

/-- The grid with a side between bounds. The same spacing is kept along both axes. -/
def HeightField.between (side : Nat) (bounds : Bounds) : HeightField Float32 :=
  ⟨side, bounds.lowest, bounds.highest.x - bounds.lowest.x⟩

/-- The cell that a vertex is assigned in a grid with a side and bounds. -/
def assignedCell? (side : Nat) (bounds : Bounds) (vertex : Vec3 Float32) : Option (Nat × Nat) :=
  (HeightField.between side bounds).cell? vertex.xy

/-- The grid that positions lie on is the one between their bounds. -/
theorem HeightField.ofPositions_eq_between (positions : List (Vec2 Float32)) :
    ofPositions positions =
      between (nearestRoot positions.length) (.ofPositions positions) := by
  have hzero : (0 : Float32) = 0 - 0 := by decide
  unfold ofPositions between Bounds.ofPositions
  dsimp only
  split
  · exact congrArg (HeightField.mk _ _) hzero
  · rfl

/-! ## Every vertex is accounted for -/

/-- The position of a vertex that is at no cell. -/
def Warning.offGridPosition? : Warning → Option (Vec3 Float32)
  | offGrid position => some position
  | _ => none

namespace Level

variable {level : Level} {face : Face}

theorem terrainField_eq_between :
    level.terrainField face =
      .between (level.recoverFaceTerrain face).value.heights.side
        (.ofPositions ((level.terrainVertices face).map (·.xy))) := by
  have hside : (level.recoverFaceTerrain face).value.heights.side =
      nearestRoot ((level.terrainVertices face).map (·.xy)).length := by
    rw [heights_recoverFaceTerrain, HeightField.side_heights, terrainField,
      HeightField.side_ofPositions]
  rw [hside, terrainField, HeightField.ofPositions_eq_between]

theorem filterMap_offGridPosition?_textureNameOrSkip (reference : Option Nat) :
    (level.textureNameOrSkip reference).warnings.filterMap Warning.offGridPosition? = [] := by
  unfold textureNameOrSkip
  cases level.texture? reference <;> rfl

/-- Only the vertices that are dropped are warned of as being at no cell. -/
theorem filterMap_offGridPosition? :
    (level.recoverFaceTerrain face).warnings.filterMap Warning.offGridPosition? =
      (level.terrainField face).offGrid (level.terrainVertices face) := by
  rw [warnings_recoverFaceTerrain, List.filterMap_append,
    filterMap_offGridPosition?_textureNameOrSkip, List.append_nil, List.filterMap_map]
  exact List.filterMap_some

/-- Every vertex of a terrain is assigned a cell inside the grid by the vertex, the side and the
bounds alone, or is warned of, in the order of the vertices. A cell has the height of the last
vertex that it is assigned to, zero if there is none. -/
theorem accounts_recoverFaceTerrain (level : Level) (face : Face) :
    let vertices := level.terrainVertices face
    let bounds := Bounds.ofPositions (vertices.map (·.xy))
    let terrain := level.recoverFaceTerrain face
    let side := terrain.value.heights.side
    (side : ℤ) = round (Real.sqrt vertices.length) ∧
      terrain.value.alphas = .filled side 0 ∧
      (∀ vertex row col, assignedCell? side bounds vertex = some (row, col) →
        row < side ∧ col < side) ∧
      terrain.warnings.filterMap Warning.offGridPosition? =
        vertices.filter (fun vertex => (assignedCell? side bounds vertex).isNone) ∧
      ∀ row col, row < side → col < side →
        terrain.value.heights.get? row col = some (((vertices.findRev? fun vertex =>
          assignedCell? side bounds vertex = some (row, col)).map (·.z)).getD 0) := by
  intro vertices bounds terrain side
  have hfield : level.terrainField face = .between side bounds := terrainField_eq_between
  have hside : side = (level.terrainField face).side :=
    HeightField.side_heights (level.terrainField face) vertices
  have hfills := (level.terrainField face).fills_cell? vertices
  have hcell : ∀ vertex, assignedCell? side bounds vertex =
      (level.terrainField face).cell? vertex.xy := fun vertex => by rw [assignedCell?, hfield]
  refine ⟨?_, ?_, ?_, ?_, ?_⟩
  · rw [hside, terrainField, HeightField.side_ofPositions, List.length_map]
    exact nearestRoot_eq_round_sqrt _
  · rw [hside]
    rfl
  · intro vertex row col hassigned
    rw [hcell] at hassigned
    rw [hside]
    exact (level.terrainField face).lt_of_cell? hassigned
  · simp only [hcell]
    exact filterMap_offGridPosition?
  · intro row col hrow hcol
    rw [hside] at hrow hcol
    simp only [hcell]
    refine (hfills.get?_eq row col hrow hcol).trans ?_
    congr 4
    funext vertex
    exact decide_eq_decide.2 Iff.rfl

end Level

end Brushwork
