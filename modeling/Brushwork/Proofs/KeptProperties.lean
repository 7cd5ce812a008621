import Brushwork.Proofs.ModelReferences
import Brushwork.Proofs.Origins
import Brushwork.Proofs.Session

/-!
# Entities keep their properties

A recovered entity has the properties of the entity it comes of, in order, without the one that
refers to its model if that model exists (`Level.Keeps`). Which model an entity uses is said by
the grammar of model references, `Properties.UsesModel`. An entity without a model that exists is
given back as it is, and the session goes on as it was, with a warning if a model is missing
(`process_of_not_hasModel`). `keepsProperties_recover` says this of a whole level, whose placed
objects follow as entities of their own.
-/

namespace Brushwork.Level

variable {level : Level} {settings : Settings} {entity : Properties}

/-- The entity uses a model, and the level has it. -/
def HasModel (level : Level) (entity : Properties) : Prop :=
  ∃ number, entity.UsesModel number ∧ number < level.models.size

/-- All properties are kept in order, but for the reference to a model that exists. -/
structure Keeps (level : Level) (entity kept : Properties) : Prop where
  entries : level.HasModel entity → kept.entries = entity.entries.filter (·.1 ≠ modelKey)
  /-- A reference that leads nowhere is a property as any other. -/
  eq : ¬ level.HasModel entity → kept = entity

theorem isSome_modelOf?_iff : (level.modelOf? entity).isSome = true ↔ level.HasModel entity := by
  have hmodel : ∀ number, (∃ model, level.models[number]? = some model) ↔
      number < level.models.size := fun number => by
    rw [← Option.isSome_iff_exists, isSome_getElem?]
  simp only [Option.isSome_iff_exists, Prod.exists, modelOf?_eq_some_iff, exists_and_left, hmodel,
    Properties.modelNumber?_eq_some_iff, HasModel]

theorem keeps_keptProperties (level : Level) (entity : Properties) :
    level.Keeps entity (level.keptProperties entity) := by
  rw [keptProperties]
  constructor
  · intro h
    rw [if_pos (isSome_modelOf?_iff.2 h)]
    rfl
  · intro h
    rw [if_neg (mt isSome_modelOf?_iff.1 h)]

/-- The warning about a model that an entity uses and the level does not have. -/
def missingModel (level : Level) (entity : Properties) : List Warning :=
  entity.modelNumber?.toList.map fun number =>
    .outOfRange TableName.models number level.models.size

/-- An entity without a model that exists is given back as it is. Nothing is done and the cursor
stays where it is; a model that is missing is warned of. -/
theorem process_of_not_hasModel (session : Session) (merge : Bool) (h : ¬ level.HasModel entity) :
    level.process settings session ⟨entity, merge⟩ =
      (⟨.ofProperties entity, []⟩,
        { session with
          warnings := session.warnings ++ level.missingModel entity }) := by
  have hafter : ∀ warnings, (session.after warnings 0).moveTo session.cursor =
      { session with
        warnings := session.warnings ++ warnings } := fun warnings => by
    rw [Session.after, Session.moveTo, Progress.advance, List.append_nil]
  have hnone : level.modelOf? entity = none := by
    rwa [← isSome_modelOf?_iff, Option.not_isSome_iff_eq_none] at h
  rw [← hafter]
  unfold modelOf? at hnone
  unfold process recoverEntity missingModel
  cases hnumber : entity.modelNumber? with
  | none => cases merge <;> rfl
  | some number =>
    rw [hnumber, Option.bind_some, Option.map_eq_none_iff] at hnone
    simp only [hnone]
    cases merge <;> rfl

theorem map_properties_assemble (level : Level) (settings : Settings) :
    (level.assemble settings (level.recoveredInOrder settings)).map (·.properties) =
      level.entities.toList.map level.keptProperties := by
  have hmap := map_properties_recover level settings
  rw [entities_recover, List.map_append] at hmap
  exact List.append_cancel_right hmap

/-- The properties of a level's entities are kept in order, but for references to models that
exist, however its brushes are recovered and merged. An entity without a model that exists is
given back as it is, and so is the session, but for a warning about a model that is missing. -/
theorem keepsProperties_recover (level : Level) (settings : Settings) :
    (∃ own, (level.recover settings).entities = own
        ++ level.staticProps.toList.map (·.toEntity level.staticPropModels)
        ++ level.staticModels.toList.map StaticModel.toEntity
        ++ level.cubemaps.toList.map Cubemap.toEntity ∧
      List.Forall₂ level.Keeps level.entities.toList (own.map (·.properties))) ∧
    (∀ merge, (level.recover { settings with mergeIntoWorld := merge }).entities.map
        (·.properties) = (level.recover settings).entities.map (·.properties)) ∧
    ∀ session entity merge,
      level.Keeps entity
        (level.process settings session ⟨entity, merge⟩).1.entity.properties ∧
      (¬ level.HasModel entity → ∃ warnings,
        level.process settings session ⟨entity, merge⟩ =
          (⟨.ofProperties entity, []⟩,
            { session with
              warnings := session.warnings ++ warnings }) ∧
        (∀ number, entity.UsesModel number →
          warnings = [.outOfRange TableName.models number level.models.size]) ∧
        ((∀ number, ¬ entity.UsesModel number) → warnings = [])) := by
  refine ⟨⟨level.assemble settings (level.recoveredInOrder settings), ?_, ?_⟩, ?_, ?_⟩
  · rw [entities_recover, value_recoverPlaced, List.append_assoc, List.append_assoc,
      List.append_assoc]
  · rw [map_properties_assemble, List.forall₂_map_right_iff, List.forall₂_same]
    exact fun entity _ => level.keeps_keptProperties entity
  · intro merge
    rw [map_properties_recover, map_properties_recover]
  · intro session entity merge
    constructor
    · have hkept : (level.process settings session ⟨entity, merge⟩).1.entity.properties =
          level.keptProperties entity := properties_recoverEntity session.cursor entity
      rw [hkept]
      exact level.keeps_keptProperties entity
    · intro h
      refine ⟨level.missingModel entity, process_of_not_hasModel session merge h, ?_, ?_⟩
      · intro number hnumber
        rw [missingModel, (entity.modelNumber?_eq_some_iff number).2 hnumber]
        rfl
      · intro hnone
        rw [missingModel, entity.modelNumber?_eq_none_iff.2 hnone]
        rfl

/-- A hall that names a file for its model, as a world may, with a door whose model is missing and
a crate that has a file for its model. -/
def furnished : Level where
  entities := #[
    .ofList [("classname", "worldspawn"), ("model", "hall.map"), ("message", "Hall")],
    .ofList [("classname", "func_door"), ("model", "*1"), ("speed", "100")],
    .ofList [("classname", "prop_dynamic"), ("model", "crate.mdl")]]
  models := #[⟨⟨0, 0⟩, ⟨0, 0⟩, ⟨0, 0⟩⟩]

/-- The world loses the name of its file, for it uses model 0. The door and the crate are given
back as they are, with a warning about the door. -/
theorem keepsProperties_recover_furnished :
    let session : Session := ⟨7, [], .start 3, []⟩
    let process := fun i : Fin 3 => furnished.process {} session ⟨furnished.entities[i], false⟩
    (process 0).1.entity.properties.entries =
      [("classname", "worldspawn"), ("message", "Hall")] ∧
    process 1 = (⟨.ofProperties furnished.entities[1], []⟩,
      ⟨7, [.outOfRange TableName.models 1 1], .start 3, []⟩) ∧
    process 2 = (⟨.ofProperties furnished.entities[2], []⟩, session) := by
  intro session process
  obtain ⟨-, -, hprocess⟩ := keepsProperties_recover furnished {}
  have hworld : furnished.HasModel furnished.entities[0] := isSome_modelOf?_iff.1 (by decide)
  have hdoor : ¬ furnished.HasModel furnished.entities[1] := mt isSome_modelOf?_iff.2 (by decide)
  have hcrate : ¬ furnished.HasModel furnished.entities[2] := mt isSome_modelOf?_iff.2 (by decide)
  have hmissing : Properties.UsesModel furnished.entities[1] 1 :=
    (Properties.modelNumber?_eq_some_iff ..).1 (by decide)
  have hnone : ∀ number, ¬ Properties.UsesModel furnished.entities[2] number :=
    (Properties.modelNumber?_eq_none_iff _).1 (by decide)
  obtain ⟨hkeeps, -⟩ := hprocess session furnished.entities[0] false
  obtain ⟨_, hdoorway, hwarned, -⟩ := (hprocess session furnished.entities[1] false).2 hdoor
  obtain ⟨_, hquiet, -, hunwarned⟩ := (hprocess session furnished.entities[2] false).2 hcrate
  rw [hwarned 1 hmissing] at hdoorway
  rw [hunwarned hnone] at hquiet
  exact ⟨(hkeeps.entries hworld).trans (by decide), hdoorway, hquiet⟩

end Brushwork.Level
