import Brushwork.Proofs.StoredSides

/-!
# Sessions

Entities can be recovered one call after another, in any order and as often as one likes. A
`Session` is what goes from one call to the next : the cursor over the stored sides, the
warnings so far and the progress. `process` is one call and `processAll` one after another.
A call reads nothing of the session but the cursor, and not even that if every brush says
where its sides are (`recoverEntity_of_stored`).
-/

namespace Brushwork

/-- What goes from one call to the next. -/
structure Session where
  /-- The position of the cursor over the stored sides. -/
  cursor : Nat
  /-- The warnings so far, oldest first. -/
  warnings : List Warning
  progress : Progress
  /-- The fractions of the work that were reported so far. -/
  reports : List Fraction

/-- The session after warnings and units of work. -/
def Session.after (session : Session) (warnings : List Warning) (units : Nat) : Session :=
  { session with
    warnings := session.warnings ++ warnings
    progress := (session.progress.advance units).1
    reports := session.reports ++ (session.progress.advance units).2 }

/-- The session with the cursor at a position. -/
def Session.moveTo (session : Session) (cursor : Nat) : Session :=
  { session with cursor }

/-- An entity to be recovered, and whether its planar brushes go to the world. -/
structure Call where
  entity : Properties
  merge : Bool

/-- What a call gives : the entity, and the brushes that go to the world instead. -/
structure Processed where
  entity : Editor.Entity
  worldBrushes : List Editor.Brush

namespace Level

variable (level : Level) (settings : Settings)

/-- The session that nothing has been recovered in, with the cursor at a position. -/
def freshSession (cursor : Nat) : Session :=
  ⟨cursor, [], .start level.workUnits, []⟩

/-- Recover the entity of a call. -/
def process (session : Session) (call : Call) : Processed × Session :=
  let (recovered, next) := level.recoverEntity settings session.cursor call.entity
  (⟨recovered.entity call.merge, recovered.worldBrushes call.merge⟩,
    (session.after recovered.warnings recovered.units).moveTo next)

/-- Recover the entities of calls in order. -/
def processAll : Session → List Call → List Processed × Session
  | session, [] => ([], session)
  | session, call :: calls =>
    let (processed, next) := level.process settings session call
    let (others, last) := processAll next calls
    (processed :: others, last)

variable {level settings}

/-- Brushes that say where their sides are neither read nor move the cursor. -/
theorem locateSides_of_stored (size cursor cursor' : Nat) :
    ∀ {brushes : List Brush}, (∀ brush ∈ brushes, brush.sides.follows = false) →
      locateSides size cursor brushes = ((locateSides size cursor' brushes).1, cursor)
  | [], _ => rfl
  | brush :: brushes, h => by
    have hbrush := h brush List.mem_cons_self
    have ih := locateSides_of_stored size cursor cursor'
      fun b hb => h b (List.mem_cons_of_mem _ hb)
    rw [locateSides_cons, locateSides_cons]
    cases hsides : brush.sides with
    | stored run =>
      simp only [SideReference.locate]
      rw [ih]
    | following count =>
      rw [hsides] at hbrush
      cases hbrush

/-- An entity whose brushes all say where their sides are neither reads nor moves the
cursor; nor does one without a model, which has no brushes. -/
theorem recoverEntity_of_stored {entity : Properties}
    (h : ∀ use ∈ level.usesBy entity, use.brush.sides.follows = false) (cursor cursor' : Nat) :
    level.recoverEntity settings cursor entity =
      ((level.recoverEntity settings cursor' entity).1, cursor) := by
  cases hmodel : level.modelOf? entity with
  | none =>
    unfold modelOf? at hmodel
    unfold recoverEntity
    cases hnumber : entity.modelNumber? with
    | none => rfl
    | some number =>
      rw [hnumber, Option.bind_some, Option.map_eq_none_iff] at hmodel
      simp only [hmodel]
  | some found =>
    obtain ⟨number, model⟩ := found
    have hstored : ∀ brush ∈ level.brushesOf model, brush.sides.follows = false := by
      rw [← map_brush_usesBy hmodel]
      exact List.forall_mem_map.2 h
    rw [recoverEntity_of_model settings cursor hmodel,
      recoverEntity_of_model settings cursor' hmodel, recoverModel, recoverModel,
      locateSides_of_stored level.brushSides.size cursor cursor' hstored]

/-- A call whose brushes all say where their sides are neither reads nor moves the
cursor. -/
theorem process_moveTo {call : Call}
    (h : ∀ use ∈ level.usesBy call.entity, use.brush.sides.follows = false)
    (session : Session) (cursor : Nat) :
    level.process settings (session.moveTo cursor) call =
      ((level.process settings session call).1,
        (level.process settings session call).2.moveTo cursor) := by
  have hrecover : level.recoverEntity settings (session.moveTo cursor).cursor call.entity =
      ((level.recoverEntity settings session.cursor call.entity).1, cursor) :=
    recoverEntity_of_stored h cursor session.cursor
  rw [process, hrecover]
  rfl

end Level

end Brushwork
