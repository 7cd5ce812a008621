import Mathlib.Data.List.Perm.Basic
import Brushwork.Proofs.Primitives

/-!
# Merging brushes into the world

Merging moves brushes and does nothing else. `Recovered.IsSeparated` : an entity's planar
brushes are planar and its others are not, so that the planar ones can be told apart in
what is recovered without merging. `merged_recover` compares the two recoveries of a
level : merging leaves with an entity the brushes `keptAt` its position, and adds `moved`
after those of the world.
-/

namespace Brushwork

/-- The brushes of the entity at a position. -/
def Recovery.brushesAt (recovery : Recovery) (i : Nat) : List Editor.Brush :=
  ((recovery.entities[i]?).map (·.brushes)).getD []

/-! ## The brushes of an entity, told apart -/

/-- Lists that a test tells apart are found again in what they make together. -/
theorem filter_append_of_apart {α : Type*} {p : α → Bool} {xs ys : List α}
    (hxs : ∀ x ∈ xs, p x = true) (hys : ∀ y ∈ ys, p y = false) :
    (xs ++ ys).filter p = xs ∧ (xs ++ ys).filter (!p ·) = ys := by
  have hnone : ys.filter p = [] := by
    rw [List.filter_eq_nil_iff]
    intro y hy
    rw [hys y hy]
    exact Bool.false_ne_true
  have hnone' : xs.filter (!p ·) = [] := by
    rw [List.filter_eq_nil_iff]
    intro x hx
    rw [hxs x hx]
    exact Bool.false_ne_true
  have hall : ys.filter (!p ·) = ys := by
    rw [List.filter_eq_self]
    intro y hy
    rw [hys y hy]
    rfl
  rw [List.filter_append, List.filter_append, List.filter_eq_self.2 hxs, hnone, hnone', hall]
  exact ⟨List.append_nil xs, List.nil_append ys⟩

namespace Recovered

/-- The planar brushes are planar, and the brushes of special surfaces are not. -/
structure IsSeparated (r : Recovered) : Prop where
  solid : ∀ brush ∈ r.solidBrushes, brush.isPlanar = true
  surface : ∀ brush ∈ r.surfaceBrushes, brush.isPlanar = false

variable {r : Recovered}

theorem IsSeparated.filter_isPlanar (h : r.IsSeparated) :
    (r.ownBrushes false).filter (·.isPlanar) = r.solidBrushes :=
  (filter_append_of_apart h.solid h.surface).1

theorem IsSeparated.filter_not_isPlanar (h : r.IsSeparated) :
    (r.ownBrushes false).filter (!·.isPlanar) = r.surfaceBrushes :=
  (filter_append_of_apart h.solid h.surface).2

/-- Wherever they go, an entity's brushes are the same. -/
theorem perm_worldBrushes_ownBrushes (r : Recovered) (merge : Bool) :
    (r.worldBrushes merge ++ r.ownBrushes merge).Perm (r.ownBrushes false) := by
  have hown : r.ownBrushes false = r.solidBrushes ++ r.surfaceBrushes := rfl
  rw [hown, worldBrushes, ownBrushes]
  split
  · exact List.Perm.refl _
  · exact List.Perm.refl _

end Recovered

namespace Level

variable {level : Level} {settings : Settings}

theorem isPlanar_surfaceBrush? {entity : Properties} {face : Face} {surface : Surface}
    {brush : Editor.Brush}
    (h : level.surfaceBrush? settings entity face surface = some brush) :
    brush.isPlanar = false := by
  cases surface with
  | displacement index =>
    obtain ⟨displacement, -, rfl⟩ := Option.map_eq_some_iff.1 h
    exact Editor.Brush.isPlanar_ofShape (by simp)
  | patch =>
    obtain rfl := Option.some.inj h
    exact Editor.Brush.isPlanar_ofShape (by simp)
  | terrain =>
    obtain rfl := Option.some.inj h
    exact Editor.Brush.isPlanar_ofShape (by simp)

theorem isSeparated_recoverEntity (cursor : Nat) (entity : Properties) :
    (level.recoverEntity settings cursor entity).1.IsSeparated := by
  obtain ⟨-, warnings, hr⟩ | ⟨number, model, -, hr⟩ :=
    recoverEntity_cases level settings cursor entity
  · rw [hr]
    exact ⟨fun _ hb => absurd hb List.not_mem_nil, fun _ hb => absurd hb List.not_mem_nil⟩
  · rw [hr]
    constructor
    · intro brush hbrush
      simp only [recoverModel, Recovered.solidBrushes, List.map_map, List.mem_map] at hbrush
      obtain ⟨located, -, rfl⟩ := hbrush
      rfl
    · intro brush hbrush
      have hsurfaces : brush ∈ (level.recoverSurfaces settings entity number model).filterMap
          (·.value) := hbrush
      rw [filterMap_value_recoverSurfaces, List.mem_append, List.mem_append] at hsurfaces
      rcases hsurfaces with (hpatch | hface) | htile
      · obtain ⟨patch, -, rfl⟩ := List.mem_map.1 hpatch
        exact Editor.Brush.isPlanar_ofShape (by simp)
      · obtain ⟨face, -, hface⟩ := List.mem_filterMap.1 hface
        obtain ⟨surface, -, hsurface⟩ := Option.bind_eq_some_iff.1 hface
        exact isPlanar_surfaceBrush? hsurface
      · split at htile
        · obtain ⟨tile, -, rfl⟩ := List.mem_map.1 htile
          exact Editor.Brush.isPlanar_ofShape (by simp)
        · exact absurd htile List.not_mem_nil

/-- Merging leaves an entity with a model of its own the brushes that are not planar, and
any other all. -/
theorem ownBrushes_recoverEntity (cursor : Nat) (entity : Properties) :
    (level.recoverEntity settings cursor entity).1.ownBrushes true =
      if (level.modelOf? entity).any (·.1 ≠ 0) then
        ((level.recoverEntity settings cursor entity).1.ownBrushes false).filter (!·.isPlanar)
      else (level.recoverEntity settings cursor entity).1.ownBrushes false := by
  rw [(isSeparated_recoverEntity cursor entity).filter_not_isPlanar]
  obtain ⟨h, warnings, hr⟩ | ⟨number, model, h, hr⟩ :=
    recoverEntity_cases level settings cursor entity
  · rw [h, hr]
    rfl
  · rw [h, hr]
    rfl

/-- Merging takes from an entity whose model is not the world's the planar brushes; an
entity whose model does not exist has none. -/
theorem worldBrushes_recoverEntity (cursor : Nat) (entity : Properties) :
    (level.recoverEntity settings cursor entity).1.worldBrushes true =
      if entity.modelNumber?.any (· ≠ 0) then
        ((level.recoverEntity settings cursor entity).1.ownBrushes false).filter (·.isPlanar)
      else [] := by
  rw [(isSeparated_recoverEntity cursor entity).filter_isPlanar]
  obtain ⟨-, warnings, hr⟩ | ⟨number, model, h, hr⟩ :=
    recoverEntity_cases level settings cursor entity
  · rw [hr]
    split <;> rfl
  · rw [hr, (modelOf?_eq_some_iff.1 h).1]
    rfl

/-! ## The two recoveries of a level -/

/-- Recovering an entity does not look at whether brushes are merged. -/
theorem recoverEntity_mergeIntoWorld (settings : Settings) (merge : Bool) :
    level.recoverEntity { settings with mergeIntoWorld := merge } =
      level.recoverEntity settings :=
  rfl

theorem recoverEntities_mergeIntoWorld (settings : Settings) (merge : Bool) :
    ∀ (cursor : Nat) (entities : List Properties),
      level.recoverEntities { settings with mergeIntoWorld := merge } cursor entities =
        level.recoverEntities settings cursor entities
  | _, [] => rfl
  | cursor, entity :: entities => by
    simp only [recoverEntities, recoverEntity_mergeIntoWorld settings merge,
      recoverEntities_mergeIntoWorld settings merge _ entities]

/-- The entity at a position has a model other than the world's, which exists. -/
def movesAt (level : Level) (i : Nat) : Bool :=
  ((level.entities[i]?).bind level.modelOf?).any (·.1 ≠ 0)

/-- The brushes that merging leaves at a position of a level recovered without it : those
that are not planar, if the entity has a model of its own, and else all. -/
def keptAt (level : Level) (apart : Recovery) (i : Nat) : List Editor.Brush :=
  if level.movesAt i then (apart.brushesAt i).filter (!·.isPlanar) else apart.brushesAt i

/-- The brushes that merging takes from a position of a level recovered without it : the
planar ones, if the number of the entity's model is not the world's. -/
def takenAt (level : Level) (apart : Recovery) (i : Nat) : List Editor.Brush :=
  if ((level.entities[i]?).bind (·.modelNumber?)).any (· ≠ 0) then
    (apart.brushesAt i).filter (·.isPlanar)
  else []

/-- The brushes that merging takes, in the order of the entities. -/
def moved (level : Level) (apart : Recovery) : List Editor.Brush :=
  (List.range level.entities.size).flatMap (level.takenAt apart)

theorem getElem?_addToWorld (entities : List Editor.Entity) (brushes : List Editor.Brush)
    (i : Nat) : (level.addToWorld entities brushes)[i]? = (entities[i]?).map fun entity =>
      { entity with brushes :=
        entity.brushes ++ if level.worldIndex? = some i then brushes else [] } := by
  unfold addToWorld
  cases level.worldIndex? with
  | none => simp
  | some world =>
    rw [List.getElem?_modify]
    by_cases h : world = i <;> simp [h]

theorem length_addToWorld (entities : List Editor.Entity) (brushes : List Editor.Brush) :
    (level.addToWorld entities brushes).length = entities.length := by
  unfold addToWorld
  cases level.worldIndex? with
  | none => rfl
  | some world => exact List.length_modify ..

theorem map_properties_addToWorld (entities : List Editor.Entity)
    (brushes : List Editor.Brush) :
    (level.addToWorld entities brushes).map (·.properties) = entities.map (·.properties) := by
  refine List.ext_getElem? fun i => ?_
  rw [List.getElem?_map, List.getElem?_map, getElem?_addToWorld, Option.map_map]
  rfl

/-- The brushes of the entities with some added to the one at a position. -/
theorem perm_brushes_addToWorld {world : Nat} (hworld : level.worldIndex? = some world)
    {entities : List Editor.Entity} (hlength : world < entities.length)
    (brushes : List Editor.Brush) :
    ((level.addToWorld entities brushes).flatMap (·.brushes)).Perm
      (entities.flatMap (·.brushes) ++ brushes) := by
  rw [addToWorld, hworld]
  dsimp only
  rw [List.modify_eq_take_cons_drop hlength]
  conv_rhs => rw [← List.take_append_drop world entities, List.drop_eq_getElem_cons hlength]
  simp only [List.flatMap_append, List.flatMap_cons, List.append_assoc]
  exact ((List.perm_append_comm.append_left _).append_left _)

theorem worldIndex?_lt {world : Nat} (h : level.worldIndex? = some world) :
    world < level.entities.size := by
  obtain ⟨hlt, -⟩ := List.findIdx?_eq_some_iff_getElem.1 h
  rwa [Array.length_toList] at hlt

/-- Without merging, every entity keeps its brushes. -/
theorem assemble_of_not_merges (h : level.merges settings = false)
    (recovered : List Recovered) :
    level.assemble settings recovered = recovered.map (·.entity false) := by
  have hmoved : recovered.flatMap (·.worldBrushes false) = [] :=
    List.flatMap_eq_nil_iff.2 fun _ _ => rfl
  refine List.ext_getElem? fun i => ?_
  rw [assemble, h, hmoved, getElem?_addToWorld]
  simp only [ite_self, List.append_nil, List.getElem?_map]
  cases recovered[i]? <;> rfl

/-- Going through a list is going through its positions. -/
theorem flatMap_eq_flatMap_range {α β : Type*} (f : α → List β) :
    ∀ xs : List α,
      xs.flatMap f = (List.range xs.length).flatMap fun i => (xs[i]?).toList.flatMap f
  | [] => rfl
  | x :: xs => by
    rw [List.flatMap_cons, flatMap_eq_flatMap_range f xs, List.length_cons,
      List.range_succ_eq_map, List.flatMap_cons, List.flatMap_map]
    simp

section Merged

variable (level settings)

/-- What is recovered of the entities of the level. -/
def recoveredInOrder : List Recovered :=
  (level.recoverEntities settings 0 level.entities.toList).1

/-- The level recovered without merging brushes. -/
def recoverApart : Recovery :=
  level.recover { settings with mergeIntoWorld := false }

/-- The level recovered with brushes merged into the world. -/
def recoverMerged : Recovery :=
  level.recover { settings with mergeIntoWorld := true }

variable {level settings}

theorem entities_recover (settings : Settings) :
    (level.recover settings).entities =
      level.assemble settings (level.recoveredInOrder settings) ++ level.recoverPlaced.value :=
  rfl

theorem recoveredInOrder_mergeIntoWorld (settings : Settings) (merge : Bool) :
    level.recoveredInOrder { settings with mergeIntoWorld := merge } =
      level.recoveredInOrder settings :=
  congrArg Prod.fst (recoverEntities_mergeIntoWorld settings merge 0 level.entities.toList)

theorem length_recoveredInOrder (settings : Settings) :
    (level.recoveredInOrder settings).length = level.entities.size := by
  rw [recoveredInOrder, length_recoverEntities, Array.length_toList]

/-- At a position is what is recovered of the entity there, at some cursor. -/
theorem exists_of_getElem?_recoveredInOrder {i : Nat} {r : Recovered}
    (h : (level.recoveredInOrder settings)[i]? = some r) :
    ∃ cursor entity, level.entities[i]? = some entity ∧
      r = (level.recoverEntity settings cursor entity).1 := by
  rw [recoveredInOrder, getElem?_recoverEntities, Option.map_eq_some_iff] at h
  obtain ⟨entity, hentity, rfl⟩ := h
  rw [Array.getElem?_toList] at hentity
  exact ⟨_, entity, hentity, rfl⟩

theorem entities_recoverApart : (level.recoverApart settings).entities =
    (level.recoveredInOrder settings).map (·.entity false) ++ level.recoverPlaced.value := by
  rw [recoverApart, entities_recover, recoveredInOrder_mergeIntoWorld,
    assemble_of_not_merges rfl]

theorem entities_recoverMerged (h : level.worldIndex?.isSome = true) :
    (level.recoverMerged settings).entities =
      level.addToWorld ((level.recoveredInOrder settings).map (·.entity true))
        ((level.recoveredInOrder settings).flatMap (·.worldBrushes true))
        ++ level.recoverPlaced.value := by
  have hmerges : level.merges { settings with mergeIntoWorld := true } = true := by
    rw [merges, h]
    rfl
  rw [recoverMerged, entities_recover, recoveredInOrder_mergeIntoWorld, assemble, hmerges]

/-- The brushes at the position of an entity are those that stay with it. -/
theorem brushesAt_recoverApart {i : Nat} {r : Recovered}
    (h : (level.recoveredInOrder settings)[i]? = some r) :
    (level.recoverApart settings).brushesAt i = r.ownBrushes false := by
  have hi := (List.getElem?_eq_some_iff.1 h).1
  rw [Recovery.brushesAt, entities_recoverApart,
    List.getElem?_append_left (by rwa [List.length_map]), List.getElem?_map, h]
  rfl

theorem takenAt_recoverApart {i : Nat} {r : Recovered}
    (h : (level.recoveredInOrder settings)[i]? = some r) :
    level.takenAt (level.recoverApart settings) i = r.worldBrushes true := by
  rw [takenAt, brushesAt_recoverApart h]
  obtain ⟨cursor, entity, hentity, rfl⟩ := exists_of_getElem?_recoveredInOrder h
  rw [hentity, Option.bind_some, worldBrushes_recoverEntity]

theorem keptAt_recoverApart {i : Nat} {r : Recovered}
    (h : (level.recoveredInOrder settings)[i]? = some r) :
    level.keptAt (level.recoverApart settings) i = r.ownBrushes true := by
  rw [keptAt, movesAt, brushesAt_recoverApart h]
  obtain ⟨cursor, entity, hentity, rfl⟩ := exists_of_getElem?_recoveredInOrder h
  rw [hentity, Option.bind_some, ownBrushes_recoverEntity]

theorem moved_recoverApart : level.moved (level.recoverApart settings) =
    (level.recoveredInOrder settings).flatMap (·.worldBrushes true) := by
  rw [moved, flatMap_eq_flatMap_range _ (level.recoveredInOrder settings),
    length_recoveredInOrder]
  refine List.flatMap_congr fun i hi => ?_
  rw [List.mem_range, ← length_recoveredInOrder settings] at hi
  have hr := List.getElem?_eq_getElem hi
  rw [takenAt_recoverApart hr, hr, Option.toList_some, List.flatMap_singleton]

/-- Past the entities of the level are the placed objects, in both recoveries. -/
theorem brushesAt_of_none (h : level.worldIndex?.isSome = true) {i : Nat}
    (hi : level.entities.size ≤ i) :
    (level.recoverMerged settings).brushesAt i = (level.recoverApart settings).brushesAt i := by
  rw [← length_recoveredInOrder settings] at hi
  rw [Recovery.brushesAt, Recovery.brushesAt, entities_recoverMerged h, entities_recoverApart,
    List.getElem?_append_right (by rwa [length_addToWorld, List.length_map]),
    List.getElem?_append_right (by rwa [List.length_map]), length_addToWorld, List.length_map,
    List.length_map]

/-- Merging leaves with every entity what it keeps, and adds what it takes from all of them
to the world. -/
theorem brushesAt_recoverMerged {world : Nat} (hworld : level.worldIndex? = some world)
    (i : Nat) : (level.recoverMerged settings).brushesAt i =
      level.keptAt (level.recoverApart settings) i
        ++ if i = world then level.moved (level.recoverApart settings) else [] := by
  have hsome : level.worldIndex?.isSome = true := by rw [hworld]; rfl
  rcases Nat.lt_or_ge i level.entities.size with hi | hi
  · rw [← length_recoveredInOrder settings] at hi
    have hr := List.getElem?_eq_getElem hi
    have hlength : i < (level.addToWorld ((level.recoveredInOrder settings).map (·.entity true))
        (level.moved (level.recoverApart settings))).length := by
      rwa [length_addToWorld, List.length_map]
    rw [Recovery.brushesAt, entities_recoverMerged hsome, ← moved_recoverApart,
      List.getElem?_append_left hlength, getElem?_addToWorld, List.getElem?_map, hr, hworld,
      keptAt_recoverApart hr]
    simp [Recovered.entity, eq_comm]
  · have hne : i ≠ world := by
      have := worldIndex?_lt hworld
      omega
    have hmoves : level.movesAt i = false := by
      rw [movesAt, Array.getElem?_eq_none hi]
      rfl
    rw [if_neg hne, List.append_nil, keptAt, hmoves]
    exact brushesAt_of_none hsome hi

/-- Without a world there is nothing to merge into. -/
theorem recoverMerged_of_no_world (h : level.worldIndex? = none) :
    level.recoverMerged settings = level.recoverApart settings := by
  have hmerges : level.merges { settings with mergeIntoWorld := true } = false := by
    rw [merges, h]
    rfl
  have hassemble : level.assemble { settings with mergeIntoWorld := true } =
      level.assemble { settings with mergeIntoWorld := false } := by
    funext recovered
    rw [assemble_of_not_merges hmerges, assemble_of_not_merges rfl]
  simp only [recoverMerged, recoverApart, recover, recoverEntities_mergeIntoWorld, hassemble]

/-- No brush is lost or duplicated. -/
theorem perm_brushes_recoverMerged :
    ((level.recoverMerged settings).entities.flatMap (·.brushes)).Perm
      ((level.recoverApart settings).entities.flatMap (·.brushes)) := by
  cases hworld : level.worldIndex? with
  | none => rw [recoverMerged_of_no_world hworld]
  | some world =>
    have hsome : level.worldIndex?.isSome = true := by rw [hworld]; rfl
    rw [entities_recoverMerged hsome, entities_recoverApart, List.flatMap_append,
      List.flatMap_append]
    refine List.Perm.append_right _ ?_
    have hlength : world < ((level.recoveredInOrder settings).map (·.entity true)).length := by
      rw [List.length_map, length_recoveredInOrder]
      exact worldIndex?_lt hworld
    refine (perm_brushes_addToWorld hworld hlength _).trans ?_
    rw [List.flatMap_map, List.flatMap_map]
    refine List.perm_append_comm.trans ((List.flatMap_append_perm _ _ _).trans ?_)
    exact List.Perm.flatMap_left _ fun r _ => r.perm_worldBrushes_ownBrushes true

/-- Wherever they are, the brushes of a level are those recovered without merging. -/
theorem perm_brushes_recover (settings : Settings) :
    ((level.recover settings).entities.flatMap (·.brushes)).Perm
      ((level.recoverApart settings).entities.flatMap (·.brushes)) := by
  have hself : ∀ merge, settings.mergeIntoWorld = merge →
      { settings with mergeIntoWorld := merge } = settings := by
    rintro merge rfl
    rfl
  cases hmerge : settings.mergeIntoWorld with
  | false => rw [recoverApart, hself false hmerge]
  | true =>
    have hperm : ((level.recoverMerged settings).entities.flatMap (·.brushes)).Perm
        ((level.recoverApart settings).entities.flatMap (·.brushes)) :=
      perm_brushes_recoverMerged
    rwa [recoverMerged, hself true hmerge] at hperm

theorem properties_recoverMerged :
    (level.recoverMerged settings).entities.map (·.properties) =
      (level.recoverApart settings).entities.map (·.properties) := by
  cases hworld : level.worldIndex? with
  | none => rw [recoverMerged_of_no_world hworld]
  | some world =>
    have hsome : level.worldIndex?.isSome = true := by rw [hworld]; rfl
    rw [entities_recoverMerged hsome, entities_recoverApart, List.map_append, List.map_append,
      map_properties_addToWorld, List.map_map, List.map_map]
    rfl

end Merged

/-- Merging brushes into the world moves brushes and changes nothing else. Properties,
warnings and progress are the same, and so are the brushes as a whole. Without a world
nothing changes. Else every entity keeps what `keptAt` says, and the world has after its
own brushes the planar ones of every entity whose model is another than the world's. -/
theorem merged_recover (level : Level) (settings : Settings) :
    let apart := level.recover { settings with mergeIntoWorld := false }
    let merged := level.recover { settings with mergeIntoWorld := true }
    merged.entities.map (·.properties) = apart.entities.map (·.properties) ∧
    merged.warnings = apart.warnings ∧
    merged.progress = apart.progress ∧ merged.reports = apart.reports ∧
    (merged.entities.flatMap (·.brushes)).Perm (apart.entities.flatMap (·.brushes)) ∧
    match level.worldIndex? with
    | none => merged = apart
    | some world => ∀ i, merged.brushesAt i =
      level.keptAt apart i ++ if i = world then level.moved apart else [] := by
  intro apart merged
  refine ⟨properties_recoverMerged, ?_, ?_, ?_, perm_brushes_recoverMerged, ?_⟩
  · simp only [merged, apart, recover, recoverEntities_mergeIntoWorld]
  · simp only [merged, apart, recover, recoverEntities_mergeIntoWorld]
  · simp only [merged, apart, recover, recoverEntities_mergeIntoWorld]
  · cases hworld : level.worldIndex? with
    | none => exact recoverMerged_of_no_world hworld
    | some world => exact brushesAt_recoverMerged hworld

end Level

end Brushwork
