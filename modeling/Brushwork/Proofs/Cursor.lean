import Mathlib
import Brushwork.Recovery.Level

/-!
# The cursor over the stored sides

One cursor goes through the entities of a level in order, and through the brushes of the
model of each. `usesOf` lists the stored brushes that are built on the way, one after
another, a brush of a model that two entities have being listed twice. Their sides are
located as if they were the brushes of one model (`solids_recoverEntities`) : a brush that
takes its sides from the cursor finds it behind the sides taken so far
(`getElem?_locateSides`), up to the largest position the cursor reaches.
-/

namespace Brushwork

/-- The number of sides that a brush takes from the cursor : none if it says where its
sides are. -/
def SideReference.taken : SideReference → Nat
  | .stored _ => 0
  | .following count => count

/-- The sides are directly after those of the brush before. -/
def SideReference.follows : SideReference → Bool
  | .stored _ => false
  | .following _ => true

theorem SideReference.follows_iff {sides : SideReference} :
    sides.follows = true ↔ ∃ count, sides = .following count := by
  cases sides with
  | stored run => exact ⟨fun h => absurd h Bool.false_ne_true, fun ⟨_, h⟩ => nomatch h⟩
  | following count => exact ⟨fun _ => ⟨count, rfl⟩, fun _ => rfl⟩

/-- The number of sides that brushes take from the cursor. -/
def takenBy (brushes : List Brush) : Nat :=
  (brushes.map (·.sides.taken)).sum

@[simp] theorem takenBy_nil : takenBy [] = 0 :=
  rfl

@[simp] theorem takenBy_cons (brush : Brush) (brushes : List Brush) :
    takenBy (brush :: brushes) = brush.sides.taken + takenBy brushes :=
  List.sum_cons

/-- More brushes take more sides, if every brush takes some. -/
theorem takenBy_take_lt {brushes : List Brush}
    (hpos : ∀ brush ∈ brushes, 0 < brush.sides.taken) :
    ∀ {i j : Nat}, i < j → i < brushes.length →
      takenBy (brushes.take i) < takenBy (brushes.take j) := by
  intro i j hij hi
  induction brushes generalizing i j with
  | nil => exact absurd hi (Nat.not_lt_zero i)
  | cons brush brushes ih =>
    have hbrush := hpos brush List.mem_cons_self
    obtain ⟨j, rfl⟩ : ∃ j', j = j' + 1 := ⟨j - 1, by omega⟩
    cases i with
    | zero =>
      rw [List.take_zero, List.take_succ_cons, takenBy_nil, takenBy_cons]
      omega
    | succ i =>
      have hrest := ih (fun b hb => hpos b (List.mem_cons_of_mem _ hb))
        (Nat.lt_of_succ_lt_succ hij) (Nat.lt_of_succ_lt_succ hi)
      rw [List.take_succ_cons, List.take_succ_cons, takenBy_cons, takenBy_cons]
      omega

/-! ## Brushes one after another -/

theorem snd_locate (size : Nat) {cursor : Nat} (h : cursor ≤ maxCursor)
    (sides : SideReference) :
    (sides.locate size cursor).2 = min (cursor + sides.taken) maxCursor := by
  cases sides with
  | stored run => exact (Nat.min_eq_left h).symm
  | following count => rfl

theorem locateSides_cons (size cursor : Nat) (brush : Brush) (brushes : List Brush) :
    locateSides size cursor (brush :: brushes) =
      ((brush, (brush.sides.locate size cursor).1)
        :: (locateSides size (brush.sides.locate size cursor).2 brushes).1,
        (locateSides size (brush.sides.locate size cursor).2 brushes).2) :=
  rfl

theorem locateSides_append (size : Nat) :
    ∀ (cursor : Nat) (xs ys : List Brush),
      locateSides size cursor (xs ++ ys) =
        ((locateSides size cursor xs).1
          ++ (locateSides size (locateSides size cursor xs).2 ys).1,
          (locateSides size (locateSides size cursor xs).2 ys).2)
  | _, [], _ => rfl
  | cursor, brush :: xs, ys => by
    rw [List.cons_append, locateSides_cons, locateSides_append size _ xs ys, locateSides_cons,
      List.cons_append]

/-- The cursor after brushes is behind the sides that they take. -/
theorem snd_locateSides (size : Nat) :
    ∀ {cursor : Nat}, cursor ≤ maxCursor → ∀ brushes : List Brush,
      (locateSides size cursor brushes).2 = min (cursor + takenBy brushes) maxCursor
  | cursor, h, [] => (Nat.min_eq_left h).symm
  | cursor, h, brush :: brushes => by
    have hnext := snd_locate size h brush.sides
    have hle : (brush.sides.locate size cursor).2 ≤ maxCursor := by omega
    rw [locateSides_cons, snd_locateSides size hle brushes, hnext, takenBy_cons]
    omega

/-- A brush is located at the cursor behind the sides that the brushes before it take. -/
theorem getElem?_locateSides (size : Nat) :
    ∀ {cursor : Nat}, cursor ≤ maxCursor → ∀ (brushes : List Brush) (k : Nat),
      (locateSides size cursor brushes).1[k]? = (brushes[k]?).map fun brush =>
        (brush, (brush.sides.locate size
          (min (cursor + takenBy (brushes.take k)) maxCursor)).1)
  | _, _, [], _ => rfl
  | cursor, h, brush :: brushes, 0 => by
    rw [locateSides_cons, List.take_zero, takenBy_nil, Nat.add_zero, Nat.min_eq_left h]
    rfl
  | cursor, h, brush :: brushes, k + 1 => by
    have hnext := snd_locate size h brush.sides
    have hle : (brush.sides.locate size cursor).2 ≤ maxCursor := by omega
    have hcursor : min ((brush.sides.locate size cursor).2 + takenBy (brushes.take k)) maxCursor
        = min (cursor + takenBy ((brush :: brushes).take (k + 1))) maxCursor := by
      rw [hnext, List.take_succ_cons, takenBy_cons]
      omega
    rw [locateSides_cons, List.getElem?_cons_succ, getElem?_locateSides size hle brushes k,
      hcursor, List.getElem?_cons_succ]

/-! ## Entities one after another -/

/-- A stored brush that is built for an entity, with its position among the stored ones. -/
structure BrushUse where
  entity : Properties
  position : Nat
  brush : Brush

namespace Level

variable (level : Level)

/-- The stored brushes that are built for an entity : those of its model. -/
def usesBy (entity : Properties) : List BrushUse :=
  match level.modelOf? entity with
  | some (_, model) =>
    ((level.brushesOf model).zipIdx (model.brushes.clamp level.brushes.size).start).map
      fun (brush, position) => ⟨entity, position, brush⟩
  | none => []

/-- The stored brushes that are built for entities, one entity after another. -/
def usesOf (entities : List Properties) : List BrushUse :=
  entities.flatMap level.usesBy

/-- The stored brushes that are built for entities, with the positions of the sides that
each is built from. -/
def buildsOf (cursor : Nat) (entities : List Properties) : List (BrushUse × Span) :=
  let uses := level.usesOf entities
  uses.zip ((locateSides level.brushSides.size cursor (uses.map (·.brush))).1.map Prod.snd)

variable {level} {settings : Settings}

theorem map_brush_usesBy {entity : Properties} {number : Nat} {model : Model}
    (h : level.modelOf? entity = some (number, model)) :
    (level.usesBy entity).map (·.brush) = level.brushesOf model := by
  simp only [usesBy, h, List.map_map, Function.comp_def]
  exact List.zipIdx_map_fst _ _

/-- A brush that is built is the one at its position. -/
theorem getElem?_of_mem_usesOf {entities : List Properties} {use : BrushUse}
    (h : use ∈ level.usesOf entities) : level.brushes[use.position]? = some use.brush := by
  obtain ⟨entity, -, huse⟩ := List.mem_flatMap.1 h
  unfold usesBy at huse
  cases hmodel : level.modelOf? entity with
  | none => simp [hmodel] at huse
  | some found =>
    obtain ⟨number, model⟩ := found
    simp only [hmodel, List.mem_map] at huse
    obtain ⟨⟨brush, position⟩, hmem, rfl⟩ := huse
    obtain ⟨hle, hget⟩ := List.mk_mem_zipIdx_iff_le_and_getElem?_sub.1 hmem
    simp only [brushesOf, Run.read, Span.read, Array.getElem?_toList,
      Array.getElem?_extract] at hget
    split at hget
    · rwa [Nat.add_sub_cancel' hle] at hget
    · cases hget

/-- Going through the builds of one model is going through its located brushes. -/
theorem map_zip_zipIdx_locateSides {α : Type*} (size : Nat) (entity : Properties)
    (f : BrushUse × Span → α) (g : Brush × Span → α)
    (hf : ∀ brush position span, f (⟨entity, position, brush⟩, span) = g (brush, span)) :
    ∀ (cursor start : Nat) (brushes : List Brush),
      (((brushes.zipIdx start).map fun (brush, position) =>
          BrushUse.mk entity position brush).zip
        ((locateSides size cursor brushes).1.map Prod.snd)).map f =
        (locateSides size cursor brushes).1.map g
  | _, _, [] => rfl
  | cursor, start, brush :: brushes => by
    simp only [locateSides_cons, List.zipIdx_cons, List.map_cons, List.zip_cons_cons, hf,
      map_zip_zipIdx_locateSides size entity f g hf _ (start + 1) brushes]

/-- The planar brush that a build gives. -/
def recoverBuild (level : Level) (settings : Settings) (build : BrushUse × Span) :
    Warned Editor.Brush :=
  level.recoverSolid settings build.1.entity build.1.brush build.2

/-- The planar brushes of an entity are those of the builds of its model. -/
theorem solids_recoverEntity (cursor : Nat) (entity : Properties) :
    (level.recoverEntity settings cursor entity).1.solids =
      (level.buildsOf cursor [entity]).map (level.recoverBuild settings) := by
  have huses : level.usesOf [entity] = level.usesBy entity := List.append_nil _
  obtain ⟨h, warnings, hr⟩ | ⟨number, model, h, hr⟩ :=
    recoverEntity_cases level settings cursor entity
  · rw [hr, buildsOf, huses]
    simp only [usesBy, h]
    rfl
  · rw [hr, buildsOf, huses, map_brush_usesBy h]
    simp only [usesBy, h]
    exact (map_zip_zipIdx_locateSides _ entity (level.recoverBuild settings)
      (fun located => level.recoverSolid settings entity located.1 located.2)
      (fun _ _ _ => rfl) cursor _ (level.brushesOf model)).symm

/-- The cursor after an entity is the one after the brushes that are built for it. -/
theorem snd_recoverEntity (settings : Settings) (cursor : Nat) (entity : Properties) :
    (level.recoverEntity settings cursor entity).2 =
      (locateSides level.brushSides.size cursor ((level.usesBy entity).map (·.brush))).2 := by
  obtain ⟨h, warnings, hr⟩ | ⟨number, model, h, hr⟩ :=
    recoverEntity_cases level settings cursor entity
  · rw [hr]
    simp only [usesBy, h]
    rfl
  · rw [hr, map_brush_usesBy h]
    rfl

theorem buildsOf_cons (settings : Settings) (cursor : Nat) (entity : Properties)
    (entities : List Properties) :
    level.buildsOf cursor (entity :: entities) = level.buildsOf cursor [entity]
      ++ level.buildsOf (level.recoverEntity settings cursor entity).2 entities := by
  have huses : level.usesOf (entity :: entities) = level.usesBy entity ++ level.usesOf entities :=
    List.flatMap_cons
  have hone : level.usesOf [entity] = level.usesBy entity := List.append_nil _
  simp only [buildsOf, huses, hone, List.map_append, locateSides_append,
    ← snd_recoverEntity settings]
  exact List.zip_append (by rw [List.length_map, length_locateSides, List.length_map])

/-- The planar brushes of entities in order are those of their builds in order. -/
theorem solids_recoverEntities :
    ∀ (cursor : Nat) (entities : List Properties),
      (level.recoverEntities settings cursor entities).1.flatMap (·.solids) =
        (level.buildsOf cursor entities).map (level.recoverBuild settings)
  | _, [] => rfl
  | cursor, entity :: entities => by
    have ih := solids_recoverEntities (level.recoverEntity settings cursor entity).2 entities
    rw [buildsOf_cons settings, List.map_append, ← solids_recoverEntity, ← ih]
    rfl

/-- The sides of the `k`-th brush that is built are located behind those that the brushes
built before it take. -/
theorem getElem?_buildsOf {cursor : Nat} (h : cursor ≤ maxCursor)
    (entities : List Properties) (k : Nat) :
    (level.buildsOf cursor entities)[k]? = ((level.usesOf entities)[k]?).map fun use =>
      (use, (use.brush.sides.locate level.brushSides.size (min (cursor
        + takenBy (((level.usesOf entities).take k).map (·.brush))) maxCursor)).1) := by
  rw [buildsOf, List.zip, List.getElem?_zipWith, List.getElem?_map, getElem?_locateSides _ h,
    List.getElem?_map, List.map_take]
  cases (level.usesOf entities)[k]? with
  | none => rfl
  | some use => rfl

end Level

end Brushwork
