import Brushwork.Proofs.Session

/-!
# The sides that the cursor hands out

Brushes that do not say where their sides are take them from one cursor, whichever calls
they are built in. What they are given are consecutive spans from the start of the table on
(`map_snd_handed`), cut where the table ends. So no side is handed out twice
(`pairwise_disjoint_handed`), and together the brushes have the first sides of the table,
as many as they count or as there are (`flatMap_read_handed`). `processAll_handsOut` puts this
together with what the calls make of the sides and with where the cursor ends.
-/

namespace Brushwork

/-! ## Consecutive spans -/

/-- Consecutive spans of so many positions each, cut to a table of `size` entries. -/
def spansFrom (size : Nat) : (start : Nat) → (counts : List Nat) → List Span
  | _, [] => []
  | start, count :: counts =>
    (Run.mk start count).clamp size :: spansFrom size (start + count) counts

/-- A span starts where those before it end. -/
theorem getElem?_spansFrom (size : Nat) :
    ∀ (start : Nat) (counts : List Nat) (k : Nat),
      (spansFrom size start counts)[k]? = (counts[k]?).map fun count =>
        (Run.mk (start + (counts.take k).sum) count).clamp size
  | _, [], _ => rfl
  | _, _ :: _, 0 => rfl
  | start, count :: counts, k + 1 => by
    rw [spansFrom, List.getElem?_cons_succ, getElem?_spansFrom size _ counts k,
      List.getElem?_cons_succ, List.take_succ_cons, List.sum_cons, Nat.add_assoc]

/-- Consecutive spans have every position from the first start to the last stop once. -/
theorem flatMap_positions_spansFrom (size : Nat) :
    ∀ (start : Nat) (counts : List Nat),
      (spansFrom size start counts).flatMap (·.positions) =
        List.range' (min start size) (min (start + counts.sum) size - min start size)
  | start, [] => by rw [List.sum_nil, Nat.add_zero, Nat.sub_self]; rfl
  | start, count :: counts => by
    have hsplit : min (start + (count + counts.sum)) size - min start size =
        (min (start + count) size - min start size)
          + (min (start + count + counts.sum) size - min (start + count) size) := by omega
    have hnext : min (start + count) size =
        min start size + (min (start + count) size - min start size) := by omega
    rw [spansFrom, List.flatMap_cons, flatMap_positions_spansFrom size _ counts, List.sum_cons,
      hsplit, ← List.range'_append_1, ← hnext]
    rfl

/-! ## The brushes that take sides from the cursor -/

theorem taken_of_not_follows {sides : SideReference} (h : sides.follows = false) :
    sides.taken = 0 := by
  cases sides with
  | stored run => rfl
  | following count => cases h

/-- Only brushes that do not say where their sides are take any. -/
theorem takenBy_filter_follows :
    ∀ brushes : List Brush, takenBy (brushes.filter (·.sides.follows)) = takenBy brushes
  | [] => rfl
  | brush :: brushes => by
    have ih := takenBy_filter_follows brushes
    rw [List.filter_cons, takenBy_cons]
    split
    · rw [takenBy_cons, ih]
    · next h =>
      rw [taken_of_not_follows (Bool.not_eq_true _ ▸ h), Nat.zero_add, ih]

/-- The brushes that take sides from the cursor are given consecutive spans, however many
others are built in between. -/
theorem map_snd_filter_locateSides (size : Nat) :
    ∀ {cursor : Nat} (brushes : List Brush), cursor + takenBy brushes ≤ maxCursor →
      ((locateSides size cursor brushes).1.filter (·.1.sides.follows)).map Prod.snd =
        spansFrom size cursor ((brushes.filter (·.sides.follows)).map (·.sides.taken))
  | _, [], _ => rfl
  | cursor, brush :: brushes, h => by
    rw [takenBy_cons] at h
    rw [locateSides_cons, List.filter_cons, List.filter_cons]
    cases hsides : brush.sides with
    | stored run =>
      have hrest : cursor + takenBy brushes ≤ maxCursor := by omega
      simpa [SideReference.follows, SideReference.locate, hsides] using
        map_snd_filter_locateSides size brushes hrest
    | following count =>
      rw [hsides] at h
      have hnext : min (cursor + count) maxCursor = cursor + count := by
        simp only [SideReference.taken] at h
        omega
      have hrest : cursor + count + takenBy brushes ≤ maxCursor := by
        simp only [SideReference.taken] at h
        omega
      simpa [SideReference.follows, SideReference.locate, SideReference.taken, spansFrom, hsides,
        hnext] using map_snd_filter_locateSides size brushes hrest

/-- The planar brushes of what a call gives, wherever they are. -/
def Processed.planarBrushes (processed : Processed) : List Editor.Brush :=
  processed.worldBrushes ++ processed.entity.brushes.filter (·.isPlanar)

namespace Level

variable {level : Level} {settings : Settings}

/-! ## What calls hand out -/

/-- The builds whose brushes take sides from the cursor. -/
def handed (builds : List (BrushUse × Span)) : List (BrushUse × Span) :=
  builds.filter (·.1.brush.sides.follows)

/-- The number of sides that builds take from the cursor. -/
def takenByBuilds (builds : List (BrushUse × Span)) : Nat :=
  takenBy (builds.map (·.1.brush))

/-- Going through builds is going through their located brushes. -/
theorem map_located_buildsOf (cursor : Nat) (entities : List Properties) :
    (level.buildsOf cursor entities).map (fun build => (build.1.brush, build.2)) =
      (locateSides level.brushSides.size cursor
        ((level.usesOf entities).map (·.brush))).1 := by
  have hzip := List.zip_of_prod (map_fst_locateSides level.brushSides.size cursor
    ((level.usesOf entities).map (·.brush))) rfl
  rw [hzip, List.zip_map_left]
  rfl

theorem map_brush_buildsOf (cursor : Nat) (entities : List Properties) :
    (level.buildsOf cursor entities).map (·.1.brush) =
      (level.usesOf entities).map (·.brush) := by
  have hbrushes := map_fst_locateSides level.brushSides.size cursor
    ((level.usesOf entities).map (·.brush))
  rw [← map_located_buildsOf, List.map_map] at hbrushes
  exact hbrushes

/-- What is handed out are consecutive spans from the position of the cursor on. -/
theorem map_snd_handed {cursor : Nat} {entities : List Properties}
    (h : cursor + takenByBuilds (level.buildsOf cursor entities) ≤ maxCursor) :
    (handed (level.buildsOf cursor entities)).map Prod.snd =
      spansFrom level.brushSides.size cursor
        ((handed (level.buildsOf cursor entities)).map (·.1.brush.sides.taken)) := by
  rw [takenByBuilds, map_brush_buildsOf] at h
  have hspans := map_snd_filter_locateSides level.brushSides.size
    ((level.usesOf entities).map (·.brush)) h
  rw [← map_located_buildsOf, ← map_brush_buildsOf cursor, List.filter_map, List.filter_map,
    List.map_map, List.map_map] at hspans
  exact hspans

section FromStart

variable {entities : List Properties}

/-- A build is handed the sides behind those handed to the ones before it. -/
theorem span_of_getElem?_handed
    (h : takenByBuilds (level.buildsOf 0 entities) ≤ maxCursor) {k : Nat}
    {build : BrushUse × Span} (hk : (handed (level.buildsOf 0 entities))[k]? = some build) :
    build.2 = (Run.mk (takenByBuilds ((handed (level.buildsOf 0 entities)).take k))
      build.1.brush.sides.taken).clamp level.brushSides.size := by
  have hspan : ((handed (level.buildsOf 0 entities)).map Prod.snd)[k]? = some build.2 := by
    rw [List.getElem?_map, hk, Option.map_some]
  rw [map_snd_handed (by rwa [Nat.zero_add]), getElem?_spansFrom, List.getElem?_map, hk,
    Option.map_some, Option.map_some, Option.some_inj] at hspan
  rw [← hspan, Nat.zero_add, takenByBuilds, takenBy, ← List.map_take, List.map_map]
  rfl

/-- The positions that are handed out are the first of the table, each once. -/
theorem flatMap_positions_handed (h : takenByBuilds (level.buildsOf 0 entities) ≤ maxCursor) :
    (handed (level.buildsOf 0 entities)).flatMap (·.2.positions) =
      List.range' 0 (min (takenByBuilds (level.buildsOf 0 entities)) level.brushSides.size) := by
  have htaken : ((handed (level.buildsOf 0 entities)).map (·.1.brush.sides.taken)).sum =
      takenByBuilds (level.buildsOf 0 entities) := by
    rw [takenByBuilds, ← takenBy_filter_follows, List.filter_map, takenBy, List.map_map]
    rfl
  have hpositions := flatMap_positions_spansFrom level.brushSides.size 0
    ((handed (level.buildsOf 0 entities)).map (·.1.brush.sides.taken))
  rw [← map_snd_handed (by rwa [Nat.zero_add]), htaken, List.flatMap_map, Nat.zero_min,
    Nat.zero_add, Nat.sub_zero] at hpositions
  exact hpositions

/-- No side is handed out twice. -/
theorem pairwise_disjoint_handed (h : takenByBuilds (level.buildsOf 0 entities) ≤ maxCursor) :
    (handed (level.buildsOf 0 entities)).Pairwise fun build build' =>
      build.2.positions.Disjoint build'.2.positions := by
  have hnodup : ((handed (level.buildsOf 0 entities)).flatMap (·.2.positions)).Nodup := by
    rw [flatMap_positions_handed h]
    exact List.nodup_range'
  exact (List.nodup_flatMap.1 hnodup).2

/-- Together, the first sides of the table are handed out, in order. -/
theorem flatMap_read_handed (h : takenByBuilds (level.buildsOf 0 entities) ≤ maxCursor) :
    (handed (level.buildsOf 0 entities)).flatMap (·.2.read level.brushSides) =
      level.brushSides.toList.take
        (min (takenByBuilds (level.buildsOf 0 entities)) level.brushSides.size) := by
  have hread : ∀ build : BrushUse × Span, build.2.read level.brushSides =
      build.2.positions.filterMap (level.brushSides.toList[·]?) := fun build => by
    rw [Span.read_eq_filterMap]
    simp only [Array.getElem?_toList]
  rw [List.flatMap_congr fun build _ => hread build, ← List.filterMap_flatMap,
    flatMap_positions_handed h, ← take_drop_eq_filterMap, List.drop_zero]

end FromStart

/-- A build whose brush says where its sides are has them there. -/
theorem span_of_stored {cursor : Nat} (hcursor : cursor ≤ maxCursor)
    {entities : List Properties} {build : BrushUse × Span}
    (hbuild : build ∈ level.buildsOf cursor entities) {run : Run}
    (hsides : build.1.brush.sides = .stored run) :
    build.2 = run.clamp level.brushSides.size := by
  obtain ⟨k, hk⟩ := List.mem_iff_getElem?.1 hbuild
  rw [getElem?_buildsOf hcursor, Option.map_eq_some_iff] at hk
  obtain ⟨use, -, rfl⟩ := hk
  dsimp only at hsides ⊢
  rw [hsides]
  rfl

/-! ## What calls make of it -/

/-- Wherever they go, the planar brushes that a call gives are those recovered of its
entity. -/
theorem planarBrushes_process (session : Session) (call : Call) :
    (level.process settings session call).1.planarBrushes =
      (level.recoverEntity settings session.cursor call.entity).1.solidBrushes := by
  have hseparated : (level.recoverEntity settings session.cursor call.entity).1.IsSeparated :=
    isSeparated_recoverEntity session.cursor call.entity
  simp only [process, Processed.planarBrushes, Recovered.entity, Recovered.worldBrushes,
    Recovered.ownBrushes]
  split
  · rw [List.filter_eq_nil_iff.2 fun brush hbrush => ?_, List.append_nil]
    rw [hseparated.surface brush hbrush]
    exact Bool.false_ne_true
  · exact (filter_append_of_apart hseparated.solid hseparated.surface).1

/-- The planar brushes that calls give are those of the builds of their entities. -/
theorem planarBrushes_processAll :
    ∀ (session : Session) (calls : List Call),
      (level.processAll settings session calls).1.flatMap (·.planarBrushes) =
        (level.buildsOf session.cursor (calls.map (·.entity))).map fun build =>
          (level.recoverBuild settings build).value
  | _, [] => rfl
  | session, call :: calls => by
    have ih := planarBrushes_processAll (level.process settings session call).2 calls
    have hcursor : (level.process settings session call).2.cursor =
        (level.recoverEntity settings session.cursor call.entity).2 := rfl
    rw [processAll, List.flatMap_cons, ih, planarBrushes_process, hcursor, List.map_cons,
      buildsOf_cons settings, List.map_append, Recovered.solidBrushes, solids_recoverEntity,
      List.map_map]
    rfl

/-- After calls, the cursor is behind the sides that their brushes take. -/
theorem cursor_processAll :
    ∀ (session : Session) (calls : List Call),
      (level.processAll settings session calls).2.cursor =
        (locateSides level.brushSides.size session.cursor
          ((level.usesOf (calls.map (·.entity))).map (·.brush))).2
  | _, [] => rfl
  | session, call :: calls => by
    have ih := cursor_processAll (level.process settings session call).2 calls
    have hcursor : (level.process settings session call).2.cursor =
        (locateSides level.brushSides.size session.cursor
          ((level.usesBy call.entity).map (·.brush))).2 :=
      snd_recoverEntity settings session.cursor call.entity
    have huses : level.usesOf ((call :: calls).map (·.entity)) =
        level.usesBy call.entity ++ level.usesOf (calls.map (·.entity)) := List.flatMap_cons
    rw [huses, List.map_append, locateSides_append, ← hcursor, ← ih]
    rfl

theorem usesBy_of_modelOf? {entity : Properties} (h : level.modelOf? entity = none) :
    level.usesBy entity = [] := by
  simp only [usesBy, h]

/-- Calls that share a session whose cursor is at the start hand out the stored sides once
and in order. The planar brushes that they give are those of the builds of their entities.
A brush that says where its sides are has them there. The `k`-th of the others has the sides
behind those of the ones before it, as far as the table goes. So no side is handed out
twice, together they are the first of the table, and the cursor ends behind all that were
counted, also past the table. Calls for entities without a model, and those whose brushes
all say where their sides are, neither read nor move the cursor. -/
theorem processAll_handsOut (level : Level) (settings : Settings) (session : Session)
    (calls : List Call) (hcursor : session.cursor = 0)
    (hcount : takenByBuilds (level.buildsOf 0 (calls.map (·.entity))) < UInt64.size) :
    let size := level.brushSides.size
    let builds := level.buildsOf 0 (calls.map (·.entity))
    let (processed, last) := level.processAll settings session calls
    processed.flatMap (·.planarBrushes) =
      builds.map (fun build => (level.recoverBuild settings build).value) ∧
    (∀ build ∈ builds, ∀ run, build.1.brush.sides = .stored run → build.2 = run.clamp size) ∧
    (∀ k build, (handed builds)[k]? = some build →
      let start := takenByBuilds ((handed builds).take k)
      build.2 = ⟨min start size, min (start + build.1.brush.sides.taken) size⟩) ∧
    ((handed builds).Pairwise fun build build' =>
      build.2.positions.Disjoint build'.2.positions) ∧
    (handed builds).flatMap (·.2.read level.brushSides) =
      level.brushSides.toList.take (min (takenByBuilds builds) size) ∧
    last.cursor = takenByBuilds builds ∧
    ∀ (session : Session) (call : Call) (cursor : Nat),
      (level.modelOf? call.entity = none ∨
        ∀ use ∈ level.usesBy call.entity, use.brush.sides.follows = false) →
      level.process settings (session.moveTo cursor) call =
        ((level.process settings session call).1,
          (level.process settings session call).2.moveTo cursor) := by
  intro size builds
  have hle : takenByBuilds builds ≤ maxCursor := Nat.le_pred_of_lt hcount
  have hcursorEnd : (level.processAll settings session calls).2.cursor =
      takenByBuilds builds := by
    rw [cursor_processAll, hcursor, snd_locateSides _ (Nat.zero_le _), Nat.zero_add,
      takenByBuilds, map_brush_buildsOf]
    rw [takenByBuilds, map_brush_buildsOf] at hle
    exact Nat.min_eq_left hle
  refine ⟨?_, fun build hbuild run hrun => span_of_stored (Nat.zero_le _) hbuild hrun,
    fun k build hk => span_of_getElem?_handed hle hk, pairwise_disjoint_handed hle,
    flatMap_read_handed hle, hcursorEnd, ?_⟩
  · rw [planarBrushes_processAll, hcursor]
  · rintro session call cursor (hmodel | hstored)
    · refine process_moveTo (fun use huse => ?_) session cursor
      rw [usesBy_of_modelOf? hmodel] at huse
      exact absurd huse List.not_mem_nil
    · exact process_moveTo hstored session cursor

/-- A level with six sides, of which its brushes count more. -/
def rationed : Level where
  family := .cod
  models := #[⟨⟨0, 3⟩, ⟨0, 0⟩, ⟨0, 0⟩⟩, ⟨⟨1, 2⟩, ⟨0, 0⟩, ⟨0, 0⟩⟩]
  brushes := #[⟨0, none, .following 2⟩, ⟨0, none, .stored ⟨1, 1⟩⟩, ⟨0, none, .following 3⟩]
  brushSides := .replicate 6 default

/-- The world, a door, a light, an entity whose model does not exist, and the door again. -/
def rationedCalls : List Call :=
  [⟨.insert .empty "classname" "worldspawn", false⟩, ⟨.insert .empty "model" "*1", true⟩,
    ⟨.insert .empty "classname" "light", true⟩, ⟨.insert .empty "model" "*9", false⟩,
    ⟨.insert .empty "model" "*1", false⟩]

/-- The third brush that takes sides from the cursor is given the one that is left and the
fourth none, and the cursor ends past the table. -/
theorem processAll_handsOut_rationed :
    let session := rationed.freshSession 0
    let builds := rationed.buildsOf 0 (rationedCalls.map (·.entity))
    let last := (rationed.processAll {} session rationedCalls).2
    session.cursor = 0 ∧ takenByBuilds builds < UInt64.size ∧
    (handed builds).map Prod.snd = [⟨0, 2⟩, ⟨2, 5⟩, ⟨5, 6⟩, ⟨6, 6⟩] ∧
    (handed builds).flatMap (·.2.read rationed.brushSides) = .replicate 6 default ∧
    last.cursor = 11 := by
  intro session builds last
  have hcount : takenByBuilds builds < UInt64.size := by decide
  obtain ⟨-, -, -, -, hread, hlast, -⟩ :=
    processAll_handsOut rationed {} session rationedCalls rfl hcount
  exact ⟨rfl, hcount, by decide, hread, hlast⟩

end Level

end Brushwork
