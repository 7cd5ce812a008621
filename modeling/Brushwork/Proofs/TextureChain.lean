import Brushwork.Proofs.NameBytes
import Brushwork.Recovery.Side

/-!
# The chain to a texture name

A texture mapping leads to a texture record, the record to an offset, and the offset to the
bytes of a name. `Level.Follows` says what following the chain has to give : the name at its
end, or for the first link that leads nowhere the placeholder and one warning, about the table
that the link is in and the reference that was followed. There is exactly one such answer
(`existsUnique_follows`).

Following a chain gives that answer unless the offset is just behind the last byte
(`RunsOut`). There the chain breaks, as no byte is at the offset, but an empty name is read
without a warning (`follows_indirectNameOrSkip_iff`).
-/

namespace Brushwork

/-- The placeholder for a name, with a warning about a reference into a table. -/
def skipping (table : String) (reference : Option Nat) : Warned String :=
  .replacing (.missingTexture table reference) skipTexture

namespace Level

variable (level : Level)

/-- A texture mapping leads to a texture record, and that to a place among the offsets. -/
def LeadsTo (index position : Nat) : Prop :=
  ∃ info record, level.textureInfos[index]? = some info ∧ info.record = some record ∧
    level.textureRecords[record]? = some position

/-- The answers to a reference to a texture that is named indirectly. -/
inductive Follows (index : Nat) : Warned String → Prop
  /-- There is no such texture mapping. -/
  | noInfo (hindex : level.textureInfos.size ≤ index) :
    Follows index (skipping TableName.textureInfos (some index))
  /-- The texture mapping refers to no texture record. -/
  | noReference {info : TextureInfo} (hinfo : level.textureInfos[index]? = some info)
    (hrecord : info.record = none) : Follows index (skipping TableName.textureRecords none)
  /-- There is no such texture record. -/
  | noRecord {info : TextureInfo} {record : Nat}
    (hinfo : level.textureInfos[index]? = some info) (hrecord : info.record = some record)
    (hsize : level.textureRecords.size ≤ record) :
    Follows index (skipping TableName.textureRecords (some record))
  /-- There is no such offset. -/
  | noOffset {position : Nat} (hlead : level.LeadsTo index position)
    (hsize : level.nameOffsets.size ≤ position) :
    Follows index (skipping TableName.nameOffsets (some position))
  /-- No byte is at the offset. -/
  | noByte {position offset : Nat} (hlead : level.LeadsTo index position)
    (hoffset : level.nameOffsets[position]? = some offset)
    (hsize : level.nameBytes.size ≤ offset) :
    Follows index (skipping TableName.nameOffsets (some position))
  /-- The bytes at the offset encode no name. -/
  | noName {position offset : Nat} {part : List UInt8} (hlead : level.LeadsTo index position)
    (hoffset : level.nameOffsets[position]? = some offset)
    (hsize : offset < level.nameBytes.size) (hpart : StandsAt level.nameBytes offset part)
    (hutf8 : ¬ ByteArray.IsValidUTF8 ⟨part.toArray⟩) :
    Follows index (skipping TableName.nameOffsets (some position))
  /-- The bytes at the offset encode a name. -/
  | name {position offset : Nat} {name : String} (hlead : level.LeadsTo index position)
    (hoffset : level.nameOffsets[position]? = some offset)
    (hsize : offset < level.nameBytes.size)
    (hname : StandsAt level.nameBytes offset (utf8 name)) :
    Follows index (pure name)

/-- The chain leads to an offset that is just behind the last byte. -/
def RunsOut (index position : Nat) : Prop :=
  level.LeadsTo index position ∧
    level.nameOffsets[position]? = some level.nameBytes.size

variable {level} {index position offset : Nat}

/-! ## The links -/

theorem LeadsTo.unique {other : Nat} (h : level.LeadsTo index position)
    (h' : level.LeadsTo index other) : position = other := by
  obtain ⟨info, record, hinfo, hrecord, hposition⟩ := h
  obtain ⟨info', record', hinfo', hrecord', hposition'⟩ := h'
  obtain rfl := Option.some.inj (hinfo.symm.trans hinfo')
  obtain rfl := Option.some.inj (hrecord.symm.trans hrecord')
  exact Option.some.inj (hposition.symm.trans hposition')

theorem indirectNameOrSkip_of_error (link : NameLink) {reference : Option Nat}
    (h : level.indirectName index = .error ⟨link, reference⟩) :
    level.indirectNameOrSkip index = skipping link.table reference := by
  rw [indirectNameOrSkip, h]
  rfl

theorem indirectNameOrSkip_of_ok {name : String} (h : level.indirectName index = .ok name) :
    level.indirectNameOrSkip index = pure name := by
  rw [indirectNameOrSkip, h]

/-- Behind the table of records, it is the offset that decides. -/
theorem LeadsTo.indirectNameOrSkip_of_none (h : level.LeadsTo index position)
    (hname : (level.nameOffsets[position]?).bind (nameAt? level.nameBytes) = none) :
    level.indirectNameOrSkip index = skipping TableName.nameOffsets (some position) := by
  obtain ⟨info, record, hinfo, hrecord, hposition⟩ := h
  refine indirectNameOrSkip_of_error .name ?_
  simp only [indirectName, hinfo, hrecord, Option.bind_some, hposition, hname]

theorem LeadsTo.indirectNameOrSkip_of_some {name : String} (h : level.LeadsTo index position)
    (hname : (level.nameOffsets[position]?).bind (nameAt? level.nameBytes) = some name) :
    level.indirectNameOrSkip index = pure name := by
  obtain ⟨info, record, hinfo, hrecord, hposition⟩ := h
  refine indirectNameOrSkip_of_ok ?_
  simp only [indirectName, hinfo, hrecord, Option.bind_some, hposition, hname]

/-! ## The bytes at an offset -/

end Level

theorem nameAt?_of_size_lt {bytes : Array UInt8} {offset : Nat} (h : bytes.size < offset) :
    nameAt? bytes offset = none := by
  rw [nameAt?, nameBytes?, if_neg (Nat.not_le.2 h), Option.bind_none]

theorem standsAt_size (bytes : Array UInt8) : StandsAt bytes bytes.size [] where
  ends := ⟨[], by rw [← Array.length_toList, List.drop_length, List.append_nil], Or.inl rfl⟩
  zero_not_mem := List.not_mem_nil

/-- Just behind the last byte the empty name is read. -/
theorem nameAt?_size (bytes : Array UInt8) : nameAt? bytes bytes.size = some "" :=
  (nameAt?_of_standsAt le_rfl (standsAt_size bytes)).trans rfl

theorem nameAt?_utf8 {bytes : Array UInt8} {offset : Nat} {name : String}
    (hoffset : offset ≤ bytes.size) (h : StandsAt bytes offset (utf8 name)) :
    nameAt? bytes offset = some name := by
  rw [nameAt?_of_standsAt hoffset h, String.fromUTF8?]
  exact dif_pos name.isValidUTF8

theorem nameAt?_of_not_isValidUTF8 {bytes : Array UInt8} {offset : Nat} {part : List UInt8}
    (hoffset : offset ≤ bytes.size) (h : StandsAt bytes offset part)
    (hutf8 : ¬ ByteArray.IsValidUTF8 ⟨part.toArray⟩) : nameAt? bytes offset = none := by
  rw [nameAt?_of_standsAt hoffset h, String.fromUTF8?]
  exact dif_neg hutf8

/-- Something stands at every offset inside the bytes. -/
theorem exists_standsAt {bytes : Array UInt8} {offset : Nat} (h : offset ≤ bytes.size) :
    ∃ part, StandsAt bytes offset part := by
  have hpart : ∃ part, nameBytes? bytes offset = some part := ⟨_, if_pos h⟩
  obtain ⟨part, hpart⟩ := hpart
  exact ⟨part, (nameBytes?_eq_some_iff.1 hpart).2⟩

namespace Level

variable {level : Level} {index position : Nat}

/-! ## Following the chain -/

theorem RunsOut.indirectNameOrSkip_eq (h : level.RunsOut index position) :
    level.indirectNameOrSkip index = pure "" := by
  refine h.1.indirectNameOrSkip_of_some ?_
  rw [h.2, Option.bind_some, nameAt?_size]

theorem RunsOut.follows (h : level.RunsOut index position) :
    level.Follows index (skipping TableName.nameOffsets (some position)) :=
  .noByte h.1 h.2 le_rfl

theorem exists_follows_of_leadsTo (hlead : level.LeadsTo index position) :
    ∃ answer, level.Follows index answer := by
  by_cases hsize : level.nameOffsets.size ≤ position
  · exact ⟨_, .noOffset hlead hsize⟩
  obtain ⟨offset, hoffset⟩ : ∃ offset, level.nameOffsets[position]? = some offset :=
    ⟨_, Array.getElem?_eq_getElem (Nat.not_le.1 hsize)⟩
  by_cases hsize : level.nameBytes.size ≤ offset
  · exact ⟨_, .noByte hlead hoffset hsize⟩
  have hlt : offset < level.nameBytes.size := Nat.not_le.1 hsize
  obtain ⟨part, hpart⟩ := exists_standsAt hlt.le
  by_cases hutf8 : ByteArray.IsValidUTF8 ⟨part.toArray⟩
  · have hname : StandsAt level.nameBytes offset (utf8 ⟨_, hutf8⟩) := hpart
    exact ⟨_, .name hlead hoffset hlt hname⟩
  · exact ⟨_, .noName hlead hoffset hlt hpart hutf8⟩

/-- Every chain has an answer. -/
theorem exists_follows (level : Level) (index : Nat) : ∃ answer, level.Follows index answer := by
  by_cases hindex : level.textureInfos.size ≤ index
  · exact ⟨_, .noInfo hindex⟩
  obtain ⟨info, hinfo⟩ : ∃ info, level.textureInfos[index]? = some info :=
    ⟨_, Array.getElem?_eq_getElem (Nat.not_le.1 hindex)⟩
  cases hrecord : info.record with
  | none => exact ⟨_, .noReference hinfo hrecord⟩
  | some record =>
    by_cases hsize : level.textureRecords.size ≤ record
    · exact ⟨_, .noRecord hinfo hrecord hsize⟩
    obtain ⟨position, hposition⟩ : ∃ position, level.textureRecords[record]? = some position :=
      ⟨_, Array.getElem?_eq_getElem (Nat.not_le.1 hsize)⟩
    exact exists_follows_of_leadsTo ⟨_, _, hinfo, hrecord, hposition⟩

/-- Unless the chain runs out, an answer to it is what following it gives. -/
theorem Follows.eq_of_not_runsOut {answer : Warned String} (h : level.Follows index answer)
    (hruns : ∀ position, ¬ level.RunsOut index position) :
    level.indirectNameOrSkip index = answer := by
  cases h with
  | noInfo hindex =>
    refine indirectNameOrSkip_of_error .info ?_
    rw [indirectName, Array.getElem?_eq_none hindex]
  | noReference hinfo hrecord =>
    refine indirectNameOrSkip_of_error .record ?_
    simp only [indirectName, hinfo, hrecord, Option.bind_none]
  | noRecord hinfo hrecord hsize =>
    refine indirectNameOrSkip_of_error .record ?_
    simp only [indirectName, hinfo, hrecord, Option.bind_some, Array.getElem?_eq_none hsize]
  | noOffset hlead hsize =>
    refine hlead.indirectNameOrSkip_of_none ?_
    rw [Array.getElem?_eq_none hsize, Option.bind_none]
  | noByte hlead hoffset hsize =>
    refine hlead.indirectNameOrSkip_of_none ?_
    rw [hoffset, Option.bind_some]
    refine nameAt?_of_size_lt (Nat.lt_of_le_of_ne hsize fun heq => ?_)
    exact hruns _ ⟨hlead, heq ▸ hoffset⟩
  | noName hlead hoffset hsize hpart hutf8 =>
    refine hlead.indirectNameOrSkip_of_none ?_
    rw [hoffset, Option.bind_some, nameAt?_of_not_isValidUTF8 hsize.le hpart hutf8]
  | name hlead hoffset hsize hname =>
    refine hlead.indirectNameOrSkip_of_some ?_
    rw [hoffset, Option.bind_some, nameAt?_utf8 hsize.le hname]

/-- If the chain runs out, the only answer to it is about the offset. -/
theorem RunsOut.eq_of_follows {answer : Warned String} (hruns : level.RunsOut index position)
    (h : level.Follows index answer) :
    answer = skipping TableName.nameOffsets (some position) := by
  obtain ⟨hlead, hoffset⟩ := hruns
  have ⟨info, record, hinfo, hrecord, hposition⟩ := hlead
  cases h with
  | noInfo hindex =>
    rw [Array.getElem?_eq_none hindex] at hinfo
    exact absurd hinfo.symm (Option.some_ne_none _)
  | noReference hinfo' hrecord' =>
    obtain rfl := Option.some.inj (hinfo.symm.trans hinfo')
    exact absurd (hrecord.symm.trans hrecord') (Option.some_ne_none _)
  | noRecord hinfo' hrecord' hsize =>
    obtain rfl := Option.some.inj (hinfo.symm.trans hinfo')
    obtain rfl := Option.some.inj (hrecord.symm.trans hrecord')
    rw [Array.getElem?_eq_none hsize] at hposition
    exact absurd hposition.symm (Option.some_ne_none _)
  | noOffset hlead' _ => rw [hlead.unique hlead']
  | noByte hlead' _ _ => rw [hlead.unique hlead']
  | noName hlead' _ _ _ _ => rw [hlead.unique hlead']
  | name hlead' hoffset' hsize _ =>
    rw [← hlead.unique hlead', hoffset] at hoffset'
    obtain rfl := Option.some.inj hoffset'
    exact absurd hsize (Nat.lt_irrefl _)

/-- Every chain has exactly one answer. -/
theorem existsUnique_follows (level : Level) (index : Nat) :
    ∃! answer, level.Follows index answer := by
  obtain ⟨answer, h⟩ := exists_follows level index
  refine ⟨answer, h, fun other hother => ?_⟩
  by_cases hruns : ∃ position, level.RunsOut index position
  · obtain ⟨position, hruns⟩ := hruns
    exact (hruns.eq_of_follows hother).trans (hruns.eq_of_follows h).symm
  · rw [not_exists] at hruns
    exact (hother.eq_of_not_runsOut hruns).symm.trans (h.eq_of_not_runsOut hruns)

/-- Following a chain gives its one answer exactly if the chain does not run out. If it does,
it gives an empty name without a warning, while the answer warns of the offset. -/
theorem follows_indirectNameOrSkip_iff (level : Level) (index : Nat) :
    (∃! answer, level.Follows index answer) ∧
      (level.Follows index (level.indirectNameOrSkip index) ↔
        ∀ position, ¬ level.RunsOut index position) ∧
      ∀ position, level.RunsOut index position →
        level.indirectNameOrSkip index = pure "" ∧
          level.Follows index (skipping TableName.nameOffsets (some position)) := by
  refine ⟨existsUnique_follows level index, ⟨fun h position hruns => ?_, fun hruns => ?_⟩,
    fun position hruns => ⟨hruns.indirectNameOrSkip_eq, hruns.follows⟩⟩
  · have heq := hruns.indirectNameOrSkip_eq.symm.trans (hruns.eq_of_follows h)
    exact absurd (congrArg Warned.warnings heq) (List.cons_ne_nil _ _).symm
  · obtain ⟨answer, h⟩ := exists_follows level index
    rwa [h.eq_of_not_runsOut hruns]

/-- A level with one texture name, and an offset just behind its zero byte. -/
def signpost : Level where
  family := .source20
  textureInfos := #[⟨.zero, some 0⟩]
  textureRecords := #[0]
  nameOffsets := #[5]
  nameBytes := #[87, 65, 76, 76, 0]

/-- No byte is at the offset, but the empty name is read. -/
theorem not_follows_signpost :
    signpost.indirectNameOrSkip 0 = pure "" ∧
      signpost.Follows 0 (skipping TableName.nameOffsets (some 0)) ∧
      ¬ signpost.Follows 0 (signpost.indirectNameOrSkip 0) := by
  have hlead : signpost.LeadsTo 0 0 := ⟨_, _, rfl, rfl, rfl⟩
  have hruns : signpost.RunsOut 0 0 := ⟨hlead, rfl⟩
  refine ⟨hruns.indirectNameOrSkip_eq, hruns.follows, fun h => ?_⟩
  have heq := hruns.indirectNameOrSkip_eq.symm.trans (hruns.eq_of_follows h)
  exact absurd (congrArg Warned.warnings heq) (List.cons_ne_nil _ _).symm

end Level

end Brushwork
