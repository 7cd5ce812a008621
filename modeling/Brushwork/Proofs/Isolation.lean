import Mathlib.Logic.Equiv.Fin.Basic
import Brushwork.Proofs.Machine.Entity
import Brushwork.Proofs.Work

/-!
# Entities do not see each other

Everything that is made of an entity, and every warning on the way, is what a fresh session
makes of it alone (`processAlone`), with the cursor where the entities before it left it.
This holds of a call on the machine, whatever session it is in (`run_process`), and of the
recovery of a level, whose warnings are those of its entities one after another and then
those of its placed props (`warnings_recover_eq_historyAt`).

If every brush says where its sides are, there is no cursor to be seen either : every entity
is recovered to what is made of it alone with the cursor anywhere
(`getElem?_entities_of_stored`), so that in another order (`reorder`) the entities give the
same in that order. `recover_isolated` puts these together.
-/

namespace Brushwork

namespace Level

variable (level : Level) (settings : Settings)

/-- What a fresh session makes of an entity with the cursor at a position. -/
def processAlone (cursor : Nat) (entity : Properties) : Processed × Session :=
  level.process settings (level.freshSession cursor) ⟨entity, false⟩

/-- The session after the first `count` entities of the level. -/
def historyAt (count : Nat) : Session :=
  (level.processAll settings (level.freshSession 0)
    ((level.entities.toList.take count).map fun entity => ⟨entity, false⟩)).2

/-- The warnings about placed props whose model is not in the dictionary. -/
def dictionaryWarnings : List Warning :=
  (level.staticProps.toList.filter (level.staticPropModels.size ≤ ·.model)).map fun prop =>
    .outOfRange TableName.staticPropModels prop.model level.staticPropModels.size

/-- The level with its entities in another order. -/
def reorder (order : Equiv.Perm (Fin level.entities.size)) : Level :=
  { level with entities := .ofFn fun i => level.entities[order i] }

variable {level settings}

/-! ## One call -/

/-- On the machine a call gives what it gives to a fresh session, moves the cursor to the
same position, and adds the same warnings after those that are there. -/
theorem run_process {overflow : Machine.Overflow} (fits : Machine.Fits level) {session : Session}
    {entity : Properties}
    (hroom : Machine.Room overflow session (level.entityUnits entity)) :
    ∃ next, (Machine.process overflow level settings ⟨entity, false⟩).run session =
        pure ((level.processAlone settings session.cursor entity).1, next) ∧
      next.cursor = (level.processAlone settings session.cursor entity).2.cursor ∧
      next.warnings = session.warnings ++
        (level.processAlone settings session.cursor entity).2.warnings := by
  have hunits : (level.recoverEntity settings session.cursor entity).1.units =
      level.entityUnits entity := units_recoverEntity session.cursor entity
  rw [← hunits] at hroom
  obtain ⟨next, hrun, hnext⟩ := Machine.ends_process fits settings ⟨entity, false⟩ session hroom
  exact ⟨next, hrun, hnext.cursor_eq, hnext.warnings_eq⟩

/-! ## One call after another -/

theorem snd_processAll_append :
    ∀ (session : Session) (calls calls' : List Call),
      (level.processAll settings session (calls ++ calls')).2 =
        (level.processAll settings (level.processAll settings session calls).2 calls').2
  | _, [], _ => rfl
  | session, call :: calls, calls' =>
    snd_processAll_append (level.process settings session call).2 calls calls'

theorem cursor_processAll_map (merge : Bool) :
    ∀ (session : Session) (entities : List Properties),
      (level.processAll settings session (entities.map fun entity => ⟨entity, merge⟩)).2.cursor =
        (level.recoverEntities settings session.cursor entities).2
  | _, [] => rfl
  | session, entity :: entities =>
    cursor_processAll_map merge (level.process settings session ⟨entity, merge⟩).2 entities

theorem warnings_processAll_map (merge : Bool) :
    ∀ (session : Session) (entities : List Properties),
      (level.processAll settings session
          (entities.map fun entity => ⟨entity, merge⟩)).2.warnings =
        session.warnings ++
          (level.recoverEntities settings session.cursor entities).1.flatMap (·.warnings)
  | session, [] => (List.append_nil session.warnings).symm
  | session, entity :: entities => by
    -- The entities after the first start in the session that it leaves, with its warnings.
    have ih := warnings_processAll_map merge
      (level.process settings session ⟨entity, merge⟩).2 entities
    have hfirst : (level.process settings session ⟨entity, merge⟩).2.warnings =
        session.warnings ++
          (level.recoverEntity settings session.cursor entity).1.warnings := rfl
    rw [hfirst, List.append_assoc] at ih
    exact ih

/-- Every entity of the level is a call after those before it. -/
theorem historyAt_succ {i : Nat} {entity : Properties}
    (hentity : level.entities[i]? = some entity) :
    level.historyAt settings (i + 1) =
      (level.process settings (level.historyAt settings i) ⟨entity, false⟩).2 := by
  rw [historyAt, List.take_add_one, Array.getElem?_toList, hentity, List.map_append,
    snd_processAll_append]
  rfl

theorem cursor_historyAt (i : Nat) : (level.historyAt settings i).cursor =
    (level.recoverEntities settings 0 (level.entities.toList.take i)).2 :=
  cursor_processAll_map false (level.freshSession 0) _

/-! ## The recovery of a level -/

theorem merges_eq_false (hmerge : settings.mergeIntoWorld = false) :
    level.merges settings = false := by
  rw [merges, hmerge, Bool.false_and]

/-- Without merging, the entities of a level are recovered to what is made of each alone,
with the cursor where those before it left it. -/
theorem getElem?_entities_recover (hmerge : settings.mergeIntoWorld = false) {i : Nat}
    {entity : Properties} (hentity : level.entities[i]? = some entity) :
    (level.recover settings).entities[i]? =
      some (level.processAlone settings (level.historyAt settings i).cursor entity).1.entity := by
  have hrecovered : (level.recoveredInOrder settings)[i]? =
      some (level.recoverEntity settings (level.historyAt settings i).cursor entity).1 := by
    rw [recoveredInOrder, getElem?_recoverEntities, Array.getElem?_toList, hentity,
      cursor_historyAt]
    rfl
  have hassembled : ((level.recoveredInOrder settings).map (·.entity false))[i]? =
      some (level.processAlone settings (level.historyAt settings i).cursor entity).1.entity := by
    rw [List.getElem?_map, hrecovered]
    rfl
  obtain ⟨hlt, -⟩ := List.getElem?_eq_some_iff.1 hassembled
  rw [entities_recover, assemble_of_not_merges (merges_eq_false hmerge),
    List.getElem?_append_left hlt, hassembled]

theorem warnings_recoverPlaced : level.recoverPlaced.warnings = level.dictionaryWarnings := by
  have hprops : ∀ props : List StaticProp,
      props.flatMap (fun prop => (level.recoverProp prop).warnings) =
        (props.filter (level.staticPropModels.size ≤ ·.model)).map fun prop =>
          .outOfRange TableName.staticPropModels prop.model level.staticPropModels.size := by
    intro props
    induction props with
    | nil => rfl
    | cons prop props ih =>
      rw [List.flatMap_cons, ih, List.filter_cons]
      by_cases hknown : level.staticPropModels.size ≤ prop.model <;>
        simp [recoverProp, hknown]
  simp only [recoverPlaced, Warned.warnings_bind, Warned.warnings_pure, Warned.warnings_forEach,
    List.append_nil]
  exact hprops level.staticProps.toList

/-- The warnings of a level are those of its entities one after another, and then those of
its placed props. -/
theorem warnings_recover_eq_historyAt : (level.recover settings).warnings =
    (level.historyAt settings level.entities.size).warnings ++ level.dictionaryWarnings := by
  rw [historyAt, warnings_processAll_map, ← Array.length_toList, List.take_length,
    ← warnings_recoverPlaced]
  rfl

/-- After the entities of a level come those of its placed objects. -/
theorem drop_entities_recover (hmerge : settings.mergeIntoWorld = false) :
    (level.recover settings).entities.drop level.entities.size = level.recoverPlaced.value := by
  have hlength : ((level.recoveredInOrder settings).map (·.entity false)).length =
      level.entities.size := by
    rw [List.length_map, length_recoveredInOrder]
  rw [entities_recover, assemble_of_not_merges (merges_eq_false hmerge), ← hlength,
    List.drop_left]

/-! ## Levels whose brushes say where their sides are -/

section Stored

variable (hstored : ∀ brush ∈ level.brushes.toList, brush.sides.follows = false)

include hstored

theorem follows_of_mem_usesBy {entity : Properties} {use : BrushUse}
    (huse : use ∈ level.usesBy entity) : use.brush.sides.follows = false := by
  have hmem : use ∈ level.usesOf [entity] := by
    rwa [usesOf, List.flatMap_singleton]
  have hbrush := getElem?_of_mem_usesOf hmem
  rw [← Array.getElem?_toList] at hbrush
  exact hstored use.brush (List.mem_of_getElem? hbrush)

/-- Alone, an entity gives the same with the cursor at any position, and leaves it there. -/
theorem processAlone_of_stored (cursor cursor' : Nat) (entity : Properties) :
    level.processAlone settings cursor entity =
      ((level.processAlone settings cursor' entity).1,
        (level.processAlone settings cursor' entity).2.moveTo cursor) :=
  process_moveTo (fun _ huse => follows_of_mem_usesBy hstored huse)
    (level.freshSession cursor') cursor

/-- Every entity of the level is recovered to what is made of it alone. -/
theorem getElem?_entities_of_stored (hmerge : settings.mergeIntoWorld = false) (cursor : Nat)
    {i : Nat} {entity : Properties} (hentity : level.entities[i]? = some entity) :
    (level.recover settings).entities[i]? =
      some (level.processAlone settings cursor entity).1.entity := by
  rw [getElem?_entities_recover hmerge hentity,
    processAlone_of_stored hstored _ cursor entity]

/-- The warnings of the entities, one block after another. -/
theorem warnings_of_stored (cursor : Nat) :
    (level.recover settings).warnings =
      level.entities.toList.flatMap
        (fun entity => (level.processAlone settings cursor entity).2.warnings)
      ++ level.dictionaryWarnings := by
  have hentity : ∀ cursor' entity, (level.recoverEntity settings cursor' entity).1.warnings =
      (level.processAlone settings cursor entity).2.warnings := by
    intro cursor' entity
    have halone : level.processAlone settings cursor' entity =
        ((level.processAlone settings cursor entity).1,
          (level.processAlone settings cursor entity).2.moveTo cursor') :=
      processAlone_of_stored hstored cursor' cursor entity
    exact congrArg (fun result => result.2.warnings) halone
  -- The blocks do not depend on the cursor, so they are read off the entities one by one.
  have hmap := map_recoverEntities hentity 0 level.entities.toList
  rw [warnings_recover_eq_historyAt, historyAt, warnings_processAll_map, ← Array.length_toList,
    List.take_length, List.flatMap_def, List.flatMap_def]
  rw [← hmap]
  rfl

end Stored

variable (order : Equiv.Perm (Fin level.entities.size))

theorem getElem?_entities_reorder (i : Fin level.entities.size) :
    (level.reorder order).entities[(i : Nat)]? = some level.entities[order i] := by
  simp [reorder]

theorem toList_entities_reorder : (level.reorder order).entities.toList =
    (List.finRange level.entities.size).map fun i => level.entities[order i] := by
  rw [reorder, Array.toList_ofFn, List.ofFn_eq_map]

/-- Without merging, everything that is made of an entity, and every warning on the way, is
what a fresh session makes of it alone, with the cursor where the entities before it left
it. So it is in any session on the machine, and so it is in the recovery of a level, whose
warnings are those of its entities in order and then those of its placed props. If every
brush says where its sides are, the cursor does not matter either, and reordering the
entities reorders what they are recovered to and the blocks of their warnings. -/
theorem recover_isolated (level : Level) (settings : Settings)
    (hmerge : settings.mergeIntoWorld = false) :
    (∀ overflow session entity, Machine.Fits level →
      Machine.Room overflow session (level.entityUnits entity) →
      let alone := level.processAlone settings session.cursor entity
      ∃ next, (Machine.process overflow level settings ⟨entity, false⟩).run session =
          pure (alone.1, next) ∧
        next.cursor = alone.2.cursor ∧
        next.warnings = session.warnings ++ alone.2.warnings) ∧
    (∀ i entity, level.entities[i]? = some entity →
      let before := level.historyAt settings i
      let after := level.historyAt settings (i + 1)
      let alone := level.processAlone settings before.cursor entity
      (level.recover settings).entities[i]? = some alone.1.entity ∧
      after.cursor = alone.2.cursor ∧
      after.warnings = before.warnings ++ alone.2.warnings) ∧
    (level.recover settings).warnings =
      (level.historyAt settings level.entities.size).warnings ++ level.dictionaryWarnings ∧
    ((∀ brush ∈ level.brushes.toList, brush.sides.follows = false) → ∀ cursor,
      let alone := level.processAlone settings cursor
      let size := level.entities.size
      (∀ (i : Nat) (entity : Properties), level.entities[i]? = some entity →
        (level.recover settings).entities[i]? = some (alone entity).1.entity) ∧
      (level.recover settings).warnings =
        level.entities.toList.flatMap (fun entity => (alone entity).2.warnings)
        ++ level.dictionaryWarnings ∧
      ∀ order : Equiv.Perm (Fin size),
        let reordered := (level.reorder order).recover settings
        (∀ i : Fin size, reordered.entities[(i : Nat)]? =
          (level.recover settings).entities[(order i : Nat)]?) ∧
        reordered.entities.drop size = (level.recover settings).entities.drop size ∧
        reordered.warnings =
          (List.finRange size).flatMap (fun i => (alone level.entities[order i]).2.warnings)
          ++ level.dictionaryWarnings) := by
  refine ⟨fun overflow session entity fits hroom => run_process fits hroom,
    ?_, warnings_recover_eq_historyAt, ?_⟩
  · intro i entity hentity before after alone
    have hnext : after = (level.process settings before ⟨entity, false⟩).2 :=
      historyAt_succ hentity
    exact ⟨getElem?_entities_recover hmerge hentity, by rw [hnext]; rfl, by rw [hnext]; rfl⟩
  · intro hstored cursor alone size
    refine ⟨fun i entity hentity => getElem?_entities_of_stored hstored hmerge cursor hentity,
      warnings_of_stored hstored cursor, fun order => ?_⟩
    intro reordered
    -- The recovery of an entity does not read the list of entities.
    have hreordered : ∀ brush ∈ (level.reorder order).brushes.toList,
        brush.sides.follows = false := hstored
    have hentities : ∀ i : Fin size, reordered.entities[(i : Nat)]? =
        some (alone level.entities[order i]).1.entity := fun i =>
      getElem?_entities_of_stored hreordered hmerge cursor (getElem?_entities_reorder order i)
    have hplaced : reordered.entities.drop (level.reorder order).entities.size =
        level.recoverPlaced.value := drop_entities_recover hmerge
    have hwarnings : reordered.warnings =
        (level.reorder order).entities.toList.flatMap (fun entity => (alone entity).2.warnings)
        ++ level.dictionaryWarnings := warnings_of_stored hreordered cursor
    refine ⟨fun i => ?_, ?_, ?_⟩
    · rw [hentities i]
      exact (getElem?_entities_of_stored hstored hmerge cursor
        (Array.getElem?_eq_getElem (order i).isLt)).symm
    · rw [drop_entities_recover hmerge, ← hplaced, reorder, Array.size_ofFn]
    · rw [hwarnings, toList_entities_reorder, List.flatMap_map]

/-- A world with a brush that stores where its side is, whose texture does not exist, and an
entity whose model does not; the model of the placed prop is not in the dictionary. -/
def untidy : Level where
  family := .cod
  entities := #[.insert .empty "classname" "worldspawn", .insert .empty "model" "*9"]
  models := #[⟨⟨0, 1⟩, ⟨0, 0⟩, ⟨0, 0⟩⟩]
  brushes := #[⟨0, none, .stored ⟨0, 1⟩⟩]
  brushSides := #[{ (default : BrushSide) with texture := some 5 }]
  staticProps := #[{ (default : StaticProp) with model := 4 }]

/-- The order in which the world is the last entity of that level. -/
def worldLast : Equiv.Perm (Fin untidy.entities.size) :=
  Equiv.swap ⟨0, by decide⟩ ⟨1, by decide⟩

/-- With the world last its warning comes after that of the other entity, and that of the
prop stays last; in a session in which something was raised before, the warning of the
entity comes after it. -/
theorem recover_isolated_untidy :
    let texture : Warning := .missingTexture TableName.textures (some 5)
    let model : Warning := .outOfRange TableName.models 9 1
    let prop : Warning := .outOfRange TableName.staticPropModels 4 0
    let session : Session := ⟨7, [texture], .start 3, []⟩
    let reordered := (untidy.reorder worldLast).recover {}
    (untidy.recover {}).warnings = [texture, model, prop] ∧
    reordered.warnings = [model, texture, prop] ∧
    reordered.entities[0]? = some ⟨untidy.entities[1], []⟩ ∧
    ∃ next, (Machine.process .stops untidy {} ⟨untidy.entities[1], false⟩).run session =
        pure (⟨⟨untidy.entities[1], []⟩, []⟩, next) ∧
      next.cursor = 7 ∧ next.warnings = [texture, model] := by
  intro texture model prop session reordered
  obtain ⟨hmachine, hhistory, -, hall⟩ := recover_isolated untidy {} rfl
  obtain ⟨-, hblocks, horder⟩ := hall (by decide) 0
  obtain ⟨hentities, -, hreordered⟩ := horder worldLast
  obtain ⟨hdoor, -, -⟩ := hhistory 1 untidy.entities[1] rfl
  obtain ⟨next, hrun, hcursor, hnext⟩ :=
    hmachine .stops session untidy.entities[1] (by decide) fun _ => by decide
  refine ⟨hblocks.trans (by decide), hreordered.trans (by decide), ?_, next, hrun, hcursor,
    hnext⟩
  exact (hentities ⟨0, by decide⟩).trans hdoor

end Level

end Brushwork
