import Mathlib
import Brushwork.Proofs.Machine.Side

/-!
# The triangles of a face

The indices of a face count from its first vertex and give its triangles three at a time. Each is
looked up in the table of all vertices, so a triangle is left out if one of its corners is past the
end of the table, but not if it is a vertex past those of the face. The triangles between vertices
of the face are all there and in order (`Level.sublist_trianglesOf`). Others come between them
exactly if some three indices lead to vertices that exist but that are not all of the face
(`Level.Strays`), and one of those can then be the triangle that the points of a side are taken
from (`Level.usesOwnVertices_iff`).
-/

namespace Brushwork

universe u v

/-! ## Triangles between corners -/

/-- The three points of a triangle. -/
def Triangle.corners {α : Type u} (t : Triangle α) : List (Vec3 α) :=
  [t.a, t.b, t.c]

/-- Three indices as a list. -/
def indexList (indices : Nat × Nat × Nat) : List Nat :=
  [indices.1, indices.2.1, indices.2.2]

/-- The triangle between the points that three indices lead to, if all of them lead to one. -/
def Triangle.between? (corner? : Nat → Option (Vec3 Float)) (indices : Nat × Nat × Nat) :
    Option (Triangle Float) := do
  let a ← corner? indices.1
  let b ← corner? indices.2.1
  let c ← corner? indices.2.2
  some ⟨a, b, c⟩

section Between

variable {f g : Nat → Option (Vec3 Float)} {indices : Nat × Nat × Nat} {t : Triangle Float}

theorem Triangle.between?_eq_some_iff : between? f indices = some t ↔
    f indices.1 = some t.a ∧ f indices.2.1 = some t.b ∧ f indices.2.2 = some t.c := by
  unfold between?
  cases f indices.1 <;> cases f indices.2.1 <;> cases f indices.2.2 <;> cases t <;> simp

theorem Triangle.isSome_between?_iff : (between? f indices).isSome = true ↔
    ∀ index ∈ indexList indices, (f index).isSome = true := by
  simp only [indexList, List.forall_mem_cons]
  unfold between?
  cases f indices.1 <;> cases f indices.2.1 <;> cases f indices.2.2 <;> simp

theorem Triangle.between?_congr (h : ∀ index ∈ indexList indices, f index = g index) :
    between? f indices = between? g indices := by
  simp only [indexList, List.forall_mem_cons] at h
  obtain ⟨ha, hb, hc, -⟩ := h
  rw [between?, between?, ha, hb, hc]

/-- A triangle is still there if more points are. -/
theorem Triangle.between?_of_imp (h : ∀ index p, f index = some p → g index = some p)
    (ht : between? f indices = some t) : between? g indices = some t := by
  obtain ⟨ha, hb, hc⟩ := between?_eq_some_iff.1 ht
  exact between?_eq_some_iff.2 ⟨h _ _ ha, h _ _ hb, h _ _ hc⟩

/-- Every corner of a triangle is one that an index leads to. -/
theorem Triangle.exists_of_mem_corners (ht : between? f indices = some t) {p : Vec3 Float}
    (hp : p ∈ t.corners) : ∃ index, f index = some p := by
  obtain ⟨ha, hb, hc⟩ := between?_eq_some_iff.1 ht
  simp only [corners, List.mem_cons, List.not_mem_nil, or_false] at hp
  rcases hp with rfl | rfl | rfl
  · exact ⟨_, ha⟩
  · exact ⟨_, hb⟩
  · exact ⟨_, hc⟩

end Between

/-! ## Finding more in a list -/

section FilterMap

variable {α : Type u} {β : Type v} {f g : α → Option β}

theorem sublist_filterMap_of_imp (h : ∀ x y, f x = some y → g x = some y) :
    ∀ xs : List α, (xs.filterMap f).Sublist (xs.filterMap g)
  | [] => .slnil
  | x :: xs => by
    have ih := sublist_filterMap_of_imp h xs
    cases hf : f x with
    | some y =>
      rw [List.filterMap_cons_some hf, List.filterMap_cons_some (h x y hf)]
      exact ih.cons_cons y
    | none =>
      rw [List.filterMap_cons_none hf]
      cases hg : g x with
      | none => rwa [List.filterMap_cons_none hg]
      | some y =>
        rw [List.filterMap_cons_some hg]
        exact ih.cons y

/-- A search that finds at least what another finds has the same results only if it finds the same
in every element : a result more would make the list longer. -/
theorem filterMap_eq_filterMap_iff (h : ∀ x y, f x = some y → g x = some y) :
    ∀ xs : List α, xs.filterMap g = xs.filterMap f ↔ ∀ x ∈ xs, g x = f x
  | [] => by simp
  | x :: xs => by
    have ih := filterMap_eq_filterMap_iff h xs
    rw [List.forall_mem_cons]
    cases hf : f x with
    | some y =>
      have hg := h x y hf
      rw [List.filterMap_cons_some hf, List.filterMap_cons_some hg, List.cons_inj_right, ih, hg]
      exact (and_iff_right rfl).symm
    | none =>
      rw [List.filterMap_cons_none hf]
      cases hg : g x with
      | none => rw [List.filterMap_cons_none hg, ih, and_iff_right rfl]
      | some y =>
        rw [List.filterMap_cons_some hg]
        have hlength := (sublist_filterMap_of_imp h xs).length_le
        refine iff_of_false (fun heq => ?_) fun hall => Option.some_ne_none y hall.1
        have hlonger := congrArg List.length heq
        rw [List.length_cons] at hlonger
        omega

end FilterMap

/-! ## The vertices of a face -/

namespace Level

variable (level : Level) (face : Face)

/-- The positions of the vertices of a face. -/
def facePositions : List (Vec3 Float) :=
  (level.verticesOf face).map (·.position.map widen)

/-- The position of a vertex of a face. -/
def ownCorner? (index : Nat) : Option (Vec3 Float) :=
  (level.facePositions face)[index]?

/-- The triangles between vertices of the face, in the order of its indices. -/
def ownTrianglesOf : List (Triangle Float) :=
  (triples (face.indices.read level.indices)).filterMap
    (Triangle.between? (level.ownCorner? face))

/-- Three indices lead to vertices that exist, but not all of them to vertices of the face. -/
structure Strays (indices : Nat × Nat × Nat) : Prop where
  exist : ∀ index ∈ indexList indices, face.vertices.first + index < level.vertices.size
  leaves : ∃ index ∈ indexList indices, face.vertices.count ≤ index

/-- The triangles of a face are those between its own vertices, in order, and so are the points
that are taken from them. -/
structure UsesOwnVertices : Prop where
  triangles_eq : level.trianglesOf face = level.ownTrianglesOf face
  corners_mem : ∀ t ∈ level.trianglesOf face, ∀ p ∈ t.corners, p ∈ level.facePositions face
  points_mem : ∀ t, level.triangleOf? face = some t → ∀ p ∈ t.corners, p ∈ level.facePositions face

variable {level} {face} {indices : Nat × Nat × Nat}

theorem trianglesOf_eq_filterMap : level.trianglesOf face =
    (triples (face.indices.read level.indices)).filterMap
      (Triangle.between? (level.corner? face)) :=
  rfl

/-- The vertices of a face are those with an index below their number. -/
theorem ownCorner?_eq (index : Nat) : level.ownCorner? face index =
    if index < face.vertices.count then level.corner? face index else none := by
  rw [ownCorner?, facePositions, List.getElem?_map, verticesOf, Run.getElem?_read]
  split <;> rfl

theorem corner?_of_ownCorner? (index : Nat) (p : Vec3 Float)
    (h : level.ownCorner? face index = some p) : level.corner? face index = some p := by
  rw [ownCorner?_eq] at h
  split at h
  · exact h
  · cases h

theorem isSome_corner?_iff {index : Nat} : (level.corner? face index).isSome = true ↔
    face.vertices.first + index < level.vertices.size := by
  rw [corner?, Option.isSome_map, isSome_getElem?]

theorem lt_of_isSome_ownCorner? {index : Nat}
    (h : (level.ownCorner? face index).isSome = true) : index < face.vertices.count := by
  rw [ownCorner?_eq] at h
  by_contra hnot
  rw [if_neg hnot] at h
  cases h

/-- Three indices give another triangle than one between vertices of the face exactly if they
stray. -/
theorem between?_corner?_eq_iff : Triangle.between? (level.corner? face) indices =
    Triangle.between? (level.ownCorner? face) indices ↔ ¬ level.Strays face indices := by
  constructor
  · intro heq hstrays
    have hsome : (Triangle.between? (level.corner? face) indices).isSome = true :=
      Triangle.isSome_between?_iff.2 fun index hindex =>
        isSome_corner?_iff.2 (hstrays.exist index hindex)
    obtain ⟨index, hindex, hleaves⟩ := hstrays.leaves
    rw [heq] at hsome
    have hown := Triangle.isSome_between?_iff.1 hsome index hindex
    exact absurd (lt_of_isSome_ownCorner? hown) (Nat.not_lt.2 hleaves)
  · intro hstrays
    by_cases hstay : ∀ index ∈ indexList indices, index < face.vertices.count
    · refine Triangle.between?_congr fun index hindex => ?_
      rw [ownCorner?_eq, if_pos (hstay index hindex)]
    · -- An index is not one of the face, so the three lead out of the table as well.
      push Not at hstay
      have hnone : Triangle.between? (level.corner? face) indices = none := by
        rw [← Option.not_isSome_iff_eq_none, Triangle.isSome_between?_iff]
        exact fun hexist => hstrays
          ⟨fun index hindex => isSome_corner?_iff.1 (hexist index hindex), hstay⟩
      rw [hnone, eq_comm, Option.eq_none_iff_forall_ne_some]
      intro t ht
      rw [Triangle.between?_of_imp corner?_of_ownCorner? ht] at hnone
      cases hnone

theorem sublist_trianglesOf : (level.ownTrianglesOf face).Sublist (level.trianglesOf face) :=
  sublist_filterMap_of_imp (fun _ _ => Triangle.between?_of_imp corner?_of_ownCorner?) _

theorem trianglesOf_eq_iff : level.trianglesOf face = level.ownTrianglesOf face ↔
    ∀ indices ∈ triples (face.indices.read level.indices), ¬ level.Strays face indices := by
  rw [trianglesOf_eq_filterMap, ownTrianglesOf, filterMap_eq_filterMap_iff
    fun _ _ => Triangle.between?_of_imp corner?_of_ownCorner?]
  simp only [between?_corner?_eq_iff]

/-- A triangle between vertices of a face has its corners at their positions. -/
theorem mem_facePositions_of_mem_ownTrianglesOf {t : Triangle Float}
    (ht : t ∈ level.ownTrianglesOf face) {p : Vec3 Float} (hp : p ∈ t.corners) :
    p ∈ level.facePositions face := by
  obtain ⟨indices, -, hbetween⟩ := List.mem_filterMap.1 ht
  obtain ⟨index, hindex⟩ := Triangle.exists_of_mem_corners hbetween hp
  exact List.mem_of_getElem? hindex

theorem mem_trianglesOf_of_triangleOf? {t : Triangle Float}
    (h : level.triangleOf? face = some t) : t ∈ level.trianglesOf face := by
  unfold triangleOf? at h
  split at h
  · exact Triangle.mem_of_largest? h
  · cases h

/-- The triangles of a face, and the points that are taken from them, are between its own vertices
exactly if no three of its indices stray. In any case those between its own vertices are among
them, in order, and three indices give another one exactly if they stray. -/
theorem usesOwnVertices_iff (level : Level) (face : Face) :
    (level.UsesOwnVertices face ↔
      ∀ indices ∈ triples (face.indices.read level.indices), ¬ level.Strays face indices) ∧
    (level.ownTrianglesOf face).Sublist (level.trianglesOf face) ∧
    (∀ indices, level.Strays face indices ↔
      Triangle.between? (level.corner? face) indices ≠
        Triangle.between? (level.ownCorner? face) indices) ∧
    (Machine.Fits level → Machine.FaceFits face →
      Machine.trianglesOf level face = pure (level.trianglesOf face)) := by
  refine ⟨⟨fun h => trianglesOf_eq_iff.1 h.triangles_eq, fun h => ?_⟩, sublist_trianglesOf,
    fun indices => ?_, fun fits hface => Machine.trianglesOf_eq fits hface⟩
  · have htriangles := trianglesOf_eq_iff.2 h
    have hcorners : ∀ t ∈ level.trianglesOf face, ∀ p ∈ t.corners,
        p ∈ level.facePositions face := by
      rw [htriangles]
      exact fun t ht p hp => mem_facePositions_of_mem_ownTrianglesOf ht hp
    exact ⟨htriangles, hcorners, fun t ht => hcorners t (mem_trianglesOf_of_triangleOf? ht)⟩
  · rw [ne_eq, between?_corner?_eq_iff, not_not]

/-- A level with a face of three vertices on the ground, whose last index leads to the top of a
pole that stands beside it. -/
def tent : Level where
  faces := #[{ (default : Face) with vertices := ⟨0, 3⟩, indices := ⟨0, 3⟩ }]
  vertices := #[⟨⟨0, 0, 0⟩, .zero⟩, ⟨⟨8, 0, 0⟩, .zero⟩, ⟨⟨0, 8, 0⟩, .zero⟩, ⟨⟨0, 0, 8⟩, .zero⟩]
  indices := #[0, 1, 3]

/-- The points of the face are those of a triangle with the pole, which is none of its
vertices. -/
theorem not_usesOwnVertices_tent :
    let triangle : Triangle Float := ⟨⟨0, 0, 0⟩, ⟨8, 0, 0⟩, ⟨0, 0, 8⟩⟩
    tent.trianglesOf tent.faces[0] = [triangle] ∧ tent.ownTrianglesOf tent.faces[0] = [] ∧
      tent.triangleOf? tent.faces[0] = some triangle ∧
      triangle.c ∉ tent.facePositions tent.faces[0] ∧
      ¬ tent.UsesOwnVertices tent.faces[0] := by
  intro triangle
  have htriangles : tent.trianglesOf tent.faces[0] = [triangle] := by decide +kernel
  have hown : tent.ownTrianglesOf tent.faces[0] = [] := by decide +kernel
  refine ⟨htriangles, hown, by decide +kernel, by decide +kernel, fun h => ?_⟩
  have heq := h.triangles_eq
  rw [htriangles, hown] at heq
  exact List.cons_ne_nil _ _ heq

end Level

end Brushwork
