/-!
# References into tables

A record of a level refers to a run of another table by its first position and its length.
Records can be malformed, so a run is cut to the part inside the table : `Run.clamp` is
that part and `Run.read` its elements.
-/

namespace Brushwork

/-- A reference to `count` entries of a table from position `first`. -/
structure Run where
  first : Nat
  count : Nat
  deriving DecidableEq, Repr, Inhabited

/-- The positions from `start` up to `stop`, which is left out. -/
structure Span where
  start : Nat
  stop : Nat
  deriving DecidableEq, Repr, Inhabited

/-- The positions of a span in order. -/
def Span.positions (s : Span) : List Nat :=
  List.range' s.start (s.stop - s.start)

/-- The entries at the positions of a span. -/
def Span.read {α : Type _} (s : Span) (table : Array α) : List α :=
  (table.extract s.start s.stop).toList

theorem take_drop_eq_filterMap {α : Type _} (xs : List α) :
    ∀ start count : Nat,
      (xs.drop start).take count = (List.range' start count).filterMap (xs[·]?)
  | _, 0 => rfl
  | start, count + 1 => by
    have ih := take_drop_eq_filterMap xs (start + 1) count
    rw [List.range'_succ, List.filterMap_cons, ← ih]
    rcases Nat.lt_or_ge start xs.length with h | h
    · rw [List.drop_eq_getElem_cons h, List.take_succ_cons, List.getElem?_eq_getElem h]
    · have hnext : xs.length ≤ start + 1 := by omega
      rw [List.getElem?_eq_none h, List.drop_eq_nil_of_le h, List.drop_eq_nil_of_le hnext,
        List.take_nil, List.take_nil]

/-- A span reads what is at its positions. -/
theorem Span.read_eq_filterMap {α : Type _} (s : Span) (table : Array α) :
    s.read table = s.positions.filterMap (table[·]?) := by
  rw [read, Array.toList_extract, List.extract_eq_take_drop, take_drop_eq_filterMap, positions]
  simp only [Array.getElem?_toList]

namespace Run

/-- The positions of a run that are inside a table of `size` entries. -/
def clamp (r : Run) (size : Nat) : Span :=
  ⟨min r.first size, min (r.first + r.count) size⟩

/-- The entries that a run reaches. -/
def read {α : Type _} (r : Run) (table : Array α) : List α :=
  (r.clamp table.size).read table

theorem clamp_start_le_stop (r : Run) (size : Nat) :
    (r.clamp size).start ≤ (r.clamp size).stop := by
  simp only [clamp]
  omega

theorem clamp_stop_le (r : Run) (size : Nat) : (r.clamp size).stop ≤ size :=
  Nat.min_le_right _ _

/-- Runs of one length from different positions reach different entries, unless they reach
none. -/
theorem positions_clamp_eq_iff (first first' count size : Nat) :
    ((mk first count).clamp size).positions = ((mk first' count).clamp size).positions ↔
      first = first' ∨ count = 0 ∨ size ≤ first ∧ size ≤ first' := by
  simp only [Span.positions, clamp, List.range'_inj]
  omega

theorem read_eq_take_drop {α : Type _} (r : Run) (table : Array α) :
    r.read table = (table.toList.drop r.first).take r.count := by
  apply List.ext_getElem?
  intro i
  simp only [read, Span.read, clamp, Array.getElem?_toList, Array.getElem?_extract,
    List.getElem?_take, List.getElem?_drop]
  grind

/-- What a run reaches stands after its first position, and no further than its length. -/
theorem getElem?_read {α : Type _} (r : Run) (table : Array α) (i : Nat) :
    (r.read table)[i]? = if i < r.count then table[r.first + i]? else none := by
  rw [read_eq_take_drop, List.getElem?_take, List.getElem?_drop, Array.getElem?_toList]

theorem length_read {α : Type _} (r : Run) (table : Array α) :
    (r.read table).length = min r.count (table.size - r.first) := by
  rw [read_eq_take_drop, List.length_take, List.length_drop, Array.length_toList]

end Run

end Brushwork
