import Brushwork.Proofs.Machine.Exec

/-!
# Sides on a machine

Planes, textures and sides as a machine works them out : the default texture directions are
looked up by a position in their table, triangles by sums of positions, names by a range of
bytes, and the sides of a brush by a range of the stored ones. `takes_recoverSide` says that
a side is recovered on the machine as it is without, and `takes_recoverBrush` that a brush
is, from every session.
-/

namespace Brushwork.Machine

/-! ## Default texture directions -/

section Directions

variable {α : Type} [Scalar α] {β : Type}

/-- The better of the best row so far and another, with the score and the position of
each. -/
def better (score : β → α) (best : α × Nat) (row : β × Nat) : α × Nat :=
  if best.1 < score row.1 then (score row.1, row.2) else best

/-- The row of a table with the largest score, found by its position : the first row if no
score is above zero. -/
def bestRow (score : β → α) (rows : Array β) : Checked β :=
  entryAt rows (rows.toList.zipIdx.foldl (better score) (0, 0)).2

/-- The texture directions of planes facing `normal`. -/
def facing (normal : Vec3 α) : Checked (AxisPair α) := do
  let row ← bestRow (fun row => normal.dot row.1) AxisPair.table.toArray
  return row.2

/-- Three points of a plane. -/
def samplePoints (p : Plane α) : Checked (Triangle α) :=
  if p.isDegenerate then pure .zero
  else do
    let normal := p.normal.normalize
    let origin := normal * p.dist
    let directions ← facing normal
    let axis := directions.u
    let across : Vec3 α := axis - normal * axis.dot normal
    let u := across.normalizeOrZero
    let v := normal.cross u
    let spacing : α := Plane.sampleSpacing
    return ⟨origin, origin + v * spacing, origin + u * spacing⟩

/-- The mapping that agrees with a projection if there is one that can be converted, else
the default one of the plane. -/
def mappingOf (p : Option (TextureProjection α)) (plane : Plane α) (origin : Vec3 α) :
    Checked (TextureMapping α) :=
  match p.bind (TextureMapping.ofProjection? · origin) with
  | some mapping => pure mapping
  | none => do
    let directions ← facing plane.normal
    return ⟨directions.u, 0, directions.v, 0, .one, 0⟩

/-- Rows looked at one by one from a position on : if the best so far stands for the same
row by its position and by itself, so does the best of all. -/
theorem foldl_better (score : β → α) (table : Array β) (first : β) :
    ∀ (rows : List β) (start : Nat) (best : α) (position : Nat) (row : Option β),
      (∀ i, rows[i]? = table[start + i]?) → table[position]? = some (row.getD first) →
      table[((rows.zipIdx start).foldl (better score) (best, position)).2]? =
        some ((rows.foldl (fun best x => if best.1 < score x then (score x, some x) else best)
          (best, row)).2.getD first)
  | [], _, _, _, _, _, hbest => hbest
  | x :: rows, start, best, position, row, hrows, hbest => by
    have hx : table[start]? = some x := (hrows 0).symm
    have hrest : ∀ i, rows[i]? = table[start + 1 + i]? := fun i => by
      have hi := hrows (i + 1)
      rwa [List.getElem?_cons_succ, Nat.add_comm i 1, ← Nat.add_assoc] at hi
    rw [List.zipIdx_cons, List.foldl_cons, List.foldl_cons]
    unfold better
    split
    · exact foldl_better score table first rows (start + 1) _ start (some x) hrest hx
    · exact foldl_better score table first rows (start + 1) best position row hrest hbest

/-- The position of the best row is one of the table. -/
theorem bestRow_eq (score : β → α) (first : β) (rows : List β) :
    bestRow score (first :: rows).toArray =
      pure ((Scalar.firstLargest score (first :: rows)).2.getD first) :=
  entryAt_eq (foldl_better score (first :: rows).toArray first (first :: rows) 0 0 0 none
    (fun i => by rw [Nat.zero_add, List.getElem?_toArray]) rfl)

theorem facing_eq (normal : Vec3 α) : facing normal = pure (AxisPair.facing normal) := by
  have hrow := bestRow_eq (fun row : Vec3 α × AxisPair α => normal.dot row.1)
    (⟨0, 0, 1⟩, .acrossZ) AxisPair.table.tail
  have htable : (⟨0, 0, 1⟩, AxisPair.acrossZ) :: AxisPair.table.tail =
      (AxisPair.table : List (Vec3 α × AxisPair α)) := rfl
  rw [htable] at hrow
  rw [facing, hrow, pure_bind, AxisPair.facing]
  cases (Scalar.firstLargest (fun row : Vec3 α × AxisPair α => normal.dot row.1)
    AxisPair.table).2 <;> rfl

theorem samplePoints_eq (p : Plane α) : samplePoints p = pure p.samplePoints := by
  unfold samplePoints Plane.samplePoints
  split
  · rfl
  · simp only [facing_eq, pure_bind]

theorem mappingOf_eq (p : Option (TextureProjection α)) (plane : Plane α) (origin : Vec3 α) :
    mappingOf p plane origin = pure (.ofSide p plane origin) := by
  unfold mappingOf TextureMapping.ofSide
  cases p.bind (TextureMapping.ofProjection? · origin) with
  | some mapping => rfl
  | none =>
    dsimp only
    rw [facing_eq, pure_bind]
    rfl

end Directions

variable {overflow : Overflow}

/-! ## Names -/

/-- The name that starts at a position : its bytes go up to the first zero byte. -/
def nameAt? (bytes : Array UInt8) (offset : Nat) : Checked (Option String) :=
  if offset ≤ bytes.size then do
    let suffix := bytes.extract offset bytes.size
    let name ← slice suffix 0 (suffix.toList.findIdx (· = 0))
    return String.fromUTF8? ⟨name.toArray⟩
  else pure none

/-- Follow a texture mapping to a name. -/
def indirectName (level : Level) (index : Nat) : Checked (Except BrokenLink String) :=
  match level.textureInfos[index]? with
  | none => pure (.error ⟨.info, some index⟩)
  | some info =>
    match info.record.bind (level.textureRecords[·]?) with
    | none => pure (.error ⟨.record, info.record⟩)
    | some position =>
      match level.nameOffsets[position]? with
      | none => pure (.error ⟨.name, some position⟩)
      | some offset => do
        match ← nameAt? level.nameBytes offset with
        | none => return .error ⟨.name, some position⟩
        | some name => return .ok name

/-- The name of a texture that is named indirectly, or a placeholder with a warning. -/
def indirectNameOrSkip (level : Level) (index : Nat) : Exec String := do
  match ← indirectName level index with
  | .ok name => return name
  | .error broken =>
    warn broken.warning
    return skipTexture

/-- The end of a name is not past the end of the bytes. -/
theorem nameAt?_eq (bytes : Array UInt8) (offset : Nat) :
    nameAt? bytes offset = pure (Brushwork.nameAt? bytes offset) := by
  unfold nameAt? Brushwork.nameAt? nameBytes?
  split
  · have hstop : ∀ suffix : Array UInt8, suffix.toList.findIdx (· = 0) ≤ suffix.size :=
      fun suffix => List.findIdx_le_length
    have hname : ∀ suffix : Array UInt8,
        (suffix.extract 0 (suffix.toList.findIdx (· = 0))).toList =
          suffix.toList.takeWhile (· ≠ 0) := fun suffix => by
      rw [Array.toList_extract, List.extract_eq_take_drop, List.drop_zero, Nat.sub_zero,
        List.takeWhile_eq_take_findIdx_not]
      simp
    dsimp only
    rw [slice_eq (Nat.zero_le _) (hstop _), pure_bind, hname]
    rfl
  · rfl

theorem indirectName_eq (level : Level) (index : Nat) :
    indirectName level index = pure (level.indirectName index) := by
  unfold indirectName Level.indirectName
  cases level.textureInfos[index]? with
  | none => rfl
  | some info =>
    dsimp only
    cases info.record.bind (level.textureRecords[·]?) with
    | none => rfl
    | some position =>
      dsimp only
      cases level.nameOffsets[position]? with
      | none => rfl
      | some offset =>
        simp only [nameAt?_eq, pure_bind, Option.bind_some]
        cases Brushwork.nameAt? level.nameBytes offset <;> rfl

theorem takes_indirectNameOrSkip (level : Level) (index : Nat) :
    Takes overflow 0 (indirectNameOrSkip level index) (level.indirectNameOrSkip index) := by
  refine Takes.of_checked (indirectName_eq level index) ?_
  unfold Level.indirectNameOrSkip
  cases level.indirectName index with
  | ok name => exact takes_pure name
  | error broken => exact (takes_warn broken.warning).bind_pure fun _ => skipTexture

/-! ## Triangles -/

/-- The position of a vertex given by its place after the first vertex of a face. -/
def corner? (level : Level) (face : Face) (index : Nat) : Checked (Option (Vec3 Float)) := do
  let position ← add face.vertices.first index
  return (level.vertices[position]?).map (·.position.map widen)

/-- A triangle of a face, if its corners exist. -/
def triangle? (level : Level) (face : Face) (corners : Nat × Nat × Nat) :
    Checked (Option (Triangle Float)) := do
  let some a ← corner? level face corners.1 | return none
  let some b ← corner? level face corners.2.1 | return none
  let some c ← corner? level face corners.2.2 | return none
  return some ⟨a, b, c⟩

/-- The triangles of a face whose corners exist. -/
def trianglesOf (level : Level) (face : Face) : Checked (List (Triangle Float)) := do
  let indices ← readRun face.indices level.indices
  let found ← (triples indices).mapM (triangle? level face)
  return found.filterMap id

variable {level : Level} {face : Face}

theorem mem_triples {α : Type*} {corners : α × α × α} :
    ∀ {xs : List α}, corners ∈ triples xs →
      corners.1 ∈ xs ∧ corners.2.1 ∈ xs ∧ corners.2.2 ∈ xs
  | [], h => absurd h List.not_mem_nil
  | [_], h => absurd h List.not_mem_nil
  | [_, _], h => absurd h List.not_mem_nil
  | x :: y :: z :: xs, h => by
    rw [triples, List.mem_cons] at h
    rcases h with h | h
    · cases h
      simp
    · obtain ⟨ha, hb, hc⟩ := mem_triples h
      simp [ha, hb, hc]

theorem corner?_eq (hface : FaceFits face) {index : Nat} (hindex : index < halfSize) :
    corner? level face index = pure (level.corner? face index) := by
  rw [corner?, add_eq (add_lt_wordSize hface.first hindex), pure_bind, Level.corner?]

theorem triangle?_eq (hface : FaceFits face) {corners : Nat × Nat × Nat}
    (ha : corners.1 < halfSize) (hb : corners.2.1 < halfSize) (hc : corners.2.2 < halfSize) :
    triangle? level face corners = pure (do
      let a ← level.corner? face corners.1
      let b ← level.corner? face corners.2.1
      let c ← level.corner? face corners.2.2
      some ⟨a, b, c⟩) := by
  simp only [triangle?, corner?_eq hface ha, corner?_eq hface hb, corner?_eq hface hc,
    pure_bind]
  cases level.corner? face corners.1 with
  | none => rfl
  | some a =>
    cases level.corner? face corners.2.1 with
    | none => rfl
    | some b => cases level.corner? face corners.2.2 <;> rfl

/-- No sum of a first vertex and an index is too large for a word. -/
theorem trianglesOf_eq (fits : Fits level) (hface : FaceFits face) :
    trianglesOf level face = pure (level.trianglesOf face) := by
  have htable : level.indices.size < wordSize := fits.size_lt (by simp [tableSizes])
  have hmem : ∀ index ∈ face.indices.read level.indices, index < halfSize := fun index h =>
    fits.indices index (Array.mem_def.2 (mem_of_mem_read h))
  have hfound : (triples (face.indices.read level.indices)).mapM (triangle? level face) =
      pure ((triples (face.indices.read level.indices)).map fun corners => do
        let a ← level.corner? face corners.1
        let b ← level.corner? face corners.2.1
        let c ← level.corner? face corners.2.2
        some ⟨a, b, c⟩) := by
    refine mapM_eq fun corners h => ?_
    obtain ⟨ha, hb, hc⟩ := mem_triples h
    exact triangle?_eq hface (hmem _ ha) (hmem _ hb) (hmem _ hc)
  rw [trianglesOf, readRun_eq htable, pure_bind, hfound, pure_bind, Level.trianglesOf,
    List.filterMap_map]
  rfl

/-! ## Sides with a face -/

/-- The largest triangle of a face that has more than two vertices. -/
def triangleOf? (level : Level) (face : Face) : Checked (Option (Triangle Float)) :=
  if 2 < face.vertices.count then do
    let triangles ← trianglesOf level face
    return Triangle.largest? triangles
  else pure none

/-- Three points of a face. -/
def pointsOf (level : Level) (face : Face) (sidePlane : Option Nat) :
    Exec (Triangle Float) := do
  match ← triangleOf? level face with
  | some triangle => return triangle
  | none =>
    match (level.plane? face.plane).or (level.plane? sidePlane) with
    | some plane => samplePoints (plane.map widen)
    | none =>
      warn .degenerateFace
      return .zero

/-- The mapping of a side whose projection and plane are stored in single precision. -/
def storedMapping (p : Option (TextureProjection Float32)) (plane : Plane Float32)
    (origin : Vec3 Float) : Checked (TextureMapping Float) :=
  mappingOf (p.map (·.map widen)) (plane.map widen) origin

/-- The side that became a face, for an entity at `origin`. -/
def recoverFaceSide (level : Level) (settings : Settings) (face : Face)
    (sidePlane : Option Nat) (origin : Vec3 Float) : Exec Editor.Side := do
  let texture ← log (level.faceTextureName settings face)
  let points ← pointsOf level face sidePlane
  let plane ← log (level.planeOrZero (face.plane.or sidePlane))
  let projection ← log (level.projectionOf face)
  let mapping ← storedMapping projection plane origin
  let material ← log (level.materialOf face)
  return {
    points, plane, texture, material, mapping
    flags := if settings.suppressFlags then 0 else face.flags }

theorem triangleOf?_eq (fits : Fits level) (hface : FaceFits face) :
    triangleOf? level face = pure (level.triangleOf? face) := by
  unfold triangleOf? Level.triangleOf?
  split
  · rw [trianglesOf_eq fits hface, pure_bind]
  · rfl

theorem takes_pointsOf (fits : Fits level) (hface : FaceFits face) (sidePlane : Option Nat) :
    Takes overflow 0 (pointsOf level face sidePlane) (level.pointsOf face sidePlane) := by
  refine Takes.of_checked (triangleOf?_eq fits hface) ?_
  unfold Level.pointsOf
  cases level.triangleOf? face with
  | some triangle => exact takes_pure triangle
  | none =>
    dsimp only
    cases (level.plane? face.plane).or (level.plane? sidePlane) with
    | some plane => exact takes_lift (samplePoints_eq _)
    | none => exact (takes_warn .degenerateFace).bind_pure fun _ => Triangle.zero

theorem takes_recoverFaceSide (fits : Fits level) (settings : Settings) (hface : FaceFits face)
    (sidePlane : Option Nat) (origin : Vec3 Float) :
    Takes overflow 0 (recoverFaceSide level settings face sidePlane origin)
      (level.recoverFaceSide settings face sidePlane origin) :=
  (takes_log _).andThen <| (takes_pointsOf fits hface sidePlane).andThen <|
    (takes_log _).andThen <| (takes_log _).andThen <|
      .of_checked (mappingOf_eq _ _ _) <| (takes_log _).bind_pure _

/-! ## Sides without a face -/

/-- The outward directions of the sides of a box. -/
def boxNormals : Array (Vec3 Float32) :=
  .ofFn Plane.boxNormal

/-- A side of a box, of which there are six. -/
def boxSide (index : Nat) (bound : Float32) : Checked (Plane Float32) := do
  let parity ← rem index 2
  let normal ← entryAt boxNormals index
  return ⟨normal, if parity = 0 then -bound else bound⟩

/-- The plane of a side without a face at a position among the sides of its brush. -/
def barePlane (level : Level) (side : BrushSide) (index : Nat) : Exec (Plane Float32) :=
  if level.family.storesBoxSides ∧ index < 6 then boxSide index side.bound
  else log (level.planeOrZero side.plane)

/-- The texture of a side without a face and its projection. -/
def bareTexture (level : Level) (side : BrushSide) :
    Exec (String × Option (TextureProjection Float32)) :=
  match side.texture with
  | none => return (clipTexture, none)
  | some index =>
    if level.family.namesTexturesIndirectly then do
      let name ← indirectNameOrSkip level index
      return (name, (level.textureInfos[index]?).map (·.projection))
    else do
      let name ← log (level.textureNameOrSkip (some index))
      return (name, (level.textures[index]?).bind (·.projection))

/-- A side without a face at a position among the sides of its brush, for an entity at
`origin`. -/
def recoverBareSide (level : Level) (side : BrushSide) (index : Nat) (origin : Vec3 Float) :
    Exec Editor.Side := do
  let plane ← barePlane level side index
  let (texture, projection) ← bareTexture level side
  let points ← samplePoints (plane.map widen)
  let mapping ← storedMapping projection plane origin
  return { points, plane, texture, mapping, flags := 0, material := Editor.defaultMaterial }

theorem boxSide_eq {index : Nat} (h : index < 6) (bound : Float32) :
    boxSide index bound = pure (.boxSide ⟨index, h⟩ bound) := by
  have hnormal : boxNormals[index]? = some (Plane.boxNormal ⟨index, h⟩) := by
    rw [boxNormals, Array.getElem?_ofFn, dif_pos h]
  rw [boxSide, rem_eq (by decide), pure_bind, entryAt_eq hnormal, pure_bind, Plane.boxSide]

/-- Past the sides of a box there is none. -/
example (bound : Float32) : boxSide 6 bound = throw .position := rfl

theorem takes_barePlane (level : Level) (side : BrushSide) (index : Nat) :
    Takes overflow 0 (barePlane level side index) (level.barePlane side index) := by
  unfold barePlane Level.barePlane
  by_cases hindex : index < 6
  · rw [dif_pos hindex]
    by_cases hbox : level.family.storesBoxSides = true
    · rw [if_pos ⟨hbox, hindex⟩, if_pos hbox]
      exact takes_lift (boxSide_eq hindex side.bound)
    · rw [if_neg fun h => hbox h.1, if_neg hbox]
      exact takes_log _
  · rw [if_neg fun h => hindex h.2, dif_neg hindex]
    exact takes_log _

theorem takes_bareTexture (level : Level) (side : BrushSide) :
    Takes overflow 0 (bareTexture level side) (level.bareTexture side) := by
  unfold bareTexture Level.bareTexture
  cases side.texture with
  | none => exact takes_pure _
  | some index =>
    dsimp only
    split
    · exact (takes_indirectNameOrSkip level index).bind_pure _
    · exact (takes_log _).bind_pure _

theorem takes_recoverBareSide (level : Level) (side : BrushSide) (index : Nat)
    (origin : Vec3 Float) :
    Takes overflow 0 (recoverBareSide level side index origin)
      (level.recoverBareSide side index origin) :=
  (takes_barePlane level side index).andThen <| (takes_bareTexture level side).andThen <|
    .of_checked (samplePoints_eq _) <| .of_checked (mappingOf_eq _ _ _) <| takes_pure _

/-! ## Brushes -/

/-- A side at a position among the sides of its brush, if it is to be recovered. -/
def recoverSide (level : Level) (settings : Settings) (origin : Vec3 Float) (side : BrushSide)
    (index : Nat) : Exec (Option Editor.Side) :=
  if side.isBevel then pure none
  else
    match side.face with
    | none => some <$> recoverBareSide level side index origin
    | some reference =>
      match level.faces[reference]? with
      | some face =>
        if face.isIgnored then pure none
        else some <$> recoverFaceSide level settings face side.plane origin
      | none => do
        warn (.outOfRange TableName.faces reference level.faces.size)
        some <$> recoverBareSide level side index origin

/-- Whether a brush has the property that a rule describes. -/
def holds (brush : Brush) (textures : Array Texture) : ContentsRule → Checked Bool
  | .never => pure false
  | .brushBit bit => bitOf brush.contents bit
  | .brushEquals value => pure (brush.contents == value)
  | .textureBit bit =>
    match brush.texture? textures with
    | some texture => bitOf texture.contents bit
    | none => pure false
  | .textureFlagsEqual value => pure ((brush.texture? textures).any (·.flags == value))

/-- A brush with its stored sides, for an entity at `origin`. -/
def recoverBrush (level : Level) (settings : Settings) (origin : Vec3 Float) (brush : Brush)
    (sides : List BrushSide) : Exec Editor.Brush := do
  let recovered ← sides.zipIdx.mapM fun (side, index) =>
    recoverSide level settings origin side index
  let rules := level.family.contentsRules
  let isDetail ← holds brush level.textures rules.detail
  let isWater ← holds brush level.textures rules.water
  let isManualVis ← holds brush level.textures rules.manualVis
  return { isDetail, isWater, isManualVis, shape := .sides (recovered.filterMap id) }

/-- The stored sides of a brush. Only a brush whose sides follow the last ones reads and
moves the cursor. -/
def sidesOf (level : Level) (brush : Brush) : Exec (List BrushSide) :=
  match brush.sides with
  | .stored run => readRun run level.brushSides
  | .following count => do
    let s ← get
    let sides ← readRun ⟨s.cursor, count⟩ level.brushSides
    set (s.moveTo (saturatingAdd s.cursor count))
    return sides

/-- A planar brush of an entity. -/
def recoverSolid (level : Level) (settings : Settings) (entity : Properties) (brush : Brush) :
    Exec Editor.Brush := do
  let sides ← sidesOf level brush
  let recovered ← recoverBrush level settings (entity.origin.map widen) brush sides
  return { recovered with isWater := recovered.isWater || entity.isWater }

theorem takes_recoverSide (fits : Fits level) (settings : Settings) (origin : Vec3 Float)
    (side : BrushSide) (index : Nat) :
    Takes overflow 0 (recoverSide level settings origin side index)
      (level.recoverSide settings origin side index) := by
  have hbare : Takes overflow 0 (some <$> recoverBareSide level side index origin)
      (some <$> level.recoverBareSide side index origin) :=
    (takes_recoverBareSide level side index origin).bind_pure some
  unfold recoverSide Level.recoverSide
  split
  · exact takes_pure none
  · cases side.face with
    | none => exact hbare
    | some reference =>
      dsimp only
      cases hface : level.faces[reference]? with
      | none => exact (takes_warn _).andThen hbare
      | some face =>
        dsimp only
        split
        · exact takes_pure none
        · have hfits := fits.faces face (Array.mem_of_getElem? hface)
          exact (takes_recoverFaceSide fits settings hfits side.plane origin).bind_pure some

/-- No bit of a rule is past the bits of a word. -/
theorem holds_eq (brush : Brush) (textures : Array Texture) (rule : ContentsRule) :
    holds brush textures rule = pure (rule.holds brush textures) := by
  cases rule with
  | never => rfl
  | brushBit bit => exact bitOf_eq brush.contents bit
  | brushEquals value => rfl
  | textureBit bit =>
    unfold holds ContentsRule.holds
    cases brush.texture? textures with
    | none => rfl
    | some texture => exact bitOf_eq texture.contents bit
  | textureFlagsEqual value => rfl

theorem takes_recoverBrush (fits : Fits level) (settings : Settings) (origin : Vec3 Float)
    (brush : Brush) (sides : List BrushSide) :
    Takes overflow 0 (recoverBrush level settings origin brush sides)
      (level.recoverBrush settings origin brush sides) := by
  have hside : ∀ side ∈ sides.zipIdx,
      Takes overflow 0 (recoverSide level settings origin side.1 side.2)
        (level.recoverSide settings origin side.1 side.2) :=
    fun side _ => takes_recoverSide fits settings origin side.1 side.2
  exact (takes_mapM_zero hside).andThen <| .of_checked (holds_eq _ _ _) <|
    .of_checked (holds_eq _ _ _) <| .of_checked (holds_eq _ _ _) <| takes_pure _

/-- The sides are those at the positions that the cursor gives, and the cursor goes on as it
does without the machine. -/
theorem ends_sidesOf (fits : Fits level) (brush : Brush) (s : Session) :
    Ends overflow s 0 (sidesOf level brush)
      (pure ((brush.sides.locate level.brushSides.size s.cursor).1.read level.brushSides))
      (brush.sides.locate level.brushSides.size s.cursor).2 := by
  have htable : level.brushSides.size < wordSize := fits.size_lt (by simp [tableSizes])
  unfold sidesOf
  cases brush.sides with
  | stored run => exact takes_lift (readRun_eq htable run) s
  | following count =>
    intro _
    refine ⟨s.moveTo (saturatingAdd s.cursor count), ?_, rfl, (List.append_nil _).symm, ?_⟩
    · simp [readRun_eq htable]
      rfl
    · intro _
      rw [Warned.warnings_pure, Session.after_nil_zero]
      rfl

/-- A planar brush is recovered on the machine as it is without, with the sides at the
positions that the cursor gives. -/
theorem ends_recoverSolid (fits : Fits level) (settings : Settings) (entity : Properties)
    (brush : Brush) (s : Session) :
    Ends overflow s 0 (recoverSolid level settings entity brush)
      (level.recoverSolid settings entity brush
        (brush.sides.locate level.brushSides.size s.cursor).1)
      (brush.sides.locate level.brushSides.size s.cursor).2 :=
  (ends_sidesOf fits brush s).andThen ((takes_recoverBrush fits settings _ brush _).bind_pure _)

end Brushwork.Machine
