import Mathlib.Data.List.TakeWhile
import Brushwork.Level.Texture

/-!
# Names in a string of bytes

The names of textures are stored one after the other, each ended by a zero byte. Reading goes
from an offset up to the next zero byte or the end (`nameBytes?_eq_some_iff`), whatever the
bytes are. If they are those of names (`StoresNames`), a name is read at the offset where it
starts, and further inside of it what is left of it from there; between two bytes of one
character nothing can be read (`nameAt?_storesNames`). A zero byte is no part of another
character (`zero_mem_utf8_iff`), so no reading goes on into the next name.
-/

namespace Brushwork

/-! ## What stands at an offset -/

/-- Bytes end where there are no more of them, or at a zero byte. -/
def EndsName (rest : List UInt8) : Prop :=
  rest = [] ∨ ∃ more, rest = 0 :: more

/-- The bytes from an offset up to the first zero byte or the end. -/
structure StandsAt (bytes : Array UInt8) (offset : Nat) (part : List UInt8) : Prop where
  ends : ∃ rest, bytes.toList.drop offset = part ++ rest ∧ EndsName rest
  zero_not_mem : 0 ∉ part

theorem takeWhile_of_endsName {part rest : List UInt8} (hpart : 0 ∉ part)
    (hrest : EndsName rest) : (part ++ rest).takeWhile (· ≠ 0) = part := by
  have hall : ∀ b ∈ part, decide (b ≠ 0) = true := fun b hb =>
    decide_eq_true fun hzero => hpart (hzero ▸ hb)
  rw [List.takeWhile_append_of_pos hall]
  obtain rfl | ⟨more, rfl⟩ := hrest
  · rw [List.takeWhile_nil, List.append_nil]
  · rw [List.takeWhile_cons_of_neg (by decide), List.append_nil]

theorem endsName_dropWhile (bytes : List UInt8) : EndsName (bytes.dropWhile (· ≠ 0)) := by
  induction bytes with
  | nil => exact Or.inl rfl
  | cons b bytes ih =>
    by_cases hb : b = 0
    · subst hb
      exact Or.inr ⟨bytes, rfl⟩
    · have hpos : decide (b ≠ 0) = true := decide_eq_true hb
      rwa [List.dropWhile_cons_of_pos (p := fun b => decide (b ≠ 0)) hpos]

/-- From an offset inside the bytes, what stands there is read. -/
theorem nameBytes?_eq_some_iff {bytes : Array UInt8} {offset : Nat} {part : List UInt8} :
    nameBytes? bytes offset = some part ↔ offset ≤ bytes.size ∧ StandsAt bytes offset part := by
  have hextract : (bytes.extract offset bytes.size).toList = bytes.toList.drop offset := by
    rw [Array.toList_extract, List.extract_eq_take_drop, ← Array.length_toList,
      ← List.length_drop, List.take_length]
  unfold nameBytes?
  rw [hextract]
  by_cases hoffset : offset ≤ bytes.size
  · rw [if_pos hoffset, Option.some_inj, and_iff_right hoffset]
    constructor
    · rintro rfl
      refine ⟨⟨_, (List.takeWhile_append_dropWhile ..).symm, endsName_dropWhile _⟩, fun hzero => ?_⟩
      have hne : decide ((0 : UInt8) ≠ 0) = true :=
        List.mem_takeWhile_imp (p := fun b => decide (b ≠ 0)) hzero
      exact absurd hne (by decide)
    · rintro ⟨⟨rest, hdrop, hrest⟩, hpart⟩
      rw [hdrop, takeWhile_of_endsName hpart hrest]
  · simp [hoffset]

theorem nameAt?_of_standsAt {bytes : Array UInt8} {offset : Nat} {part : List UInt8}
    (hoffset : offset ≤ bytes.size) (h : StandsAt bytes offset part) :
    nameAt? bytes offset = String.fromUTF8? ⟨part.toArray⟩ := by
  rw [nameAt?, nameBytes?_eq_some_iff.2 ⟨hoffset, h⟩, Option.bind_some]

/-! ## The bytes of a name -/

/-- The bytes that encode a name. -/
def utf8 (name : String) : List UInt8 :=
  name.toByteArray.data.toList

theorem length_utf8 (name : String) : (utf8 name).length = name.utf8ByteSize :=
  rfl

theorem utf8_eq_flatMap (name : String) :
    utf8 name = name.toList.flatMap String.utf8EncodeChar := by
  rw [utf8, ← String.utf8Encode_toList]
  simp [List.utf8Encode]

theorem zero_eq_ofNat_iff {n : Nat} : (0 : UInt8) = UInt8.ofNat n ↔ n % 256 = 0 := by
  rw [← UInt8.toNat_inj, UInt8.toNat_ofNat', eq_comm]
  rfl

/-- Every byte of a character of several bytes is at least 128. -/
theorem zero_mem_utf8EncodeChar_iff {c : Char} : 0 ∈ String.utf8EncodeChar c ↔ c = '\x00' := by
  have hval : 0 ∈ String.utf8EncodeChar c ↔ c.val.toNat = 0 := by
    unfold String.utf8EncodeChar
    generalize c.val.toNat = v
    dsimp only
    split_ifs <;>
      simp only [List.mem_cons, List.not_mem_nil, or_false, zero_eq_ofNat_iff] <;> omega
  exact hval.trans ⟨fun h => Char.ext (UInt32.toNat_inj.1 h), fun h => h ▸ rfl⟩

theorem zero_mem_utf8_iff {name : String} : 0 ∈ utf8 name ↔ '\x00' ∈ name.toList := by
  rw [utf8_eq_flatMap, List.mem_flatMap]
  constructor
  · rintro ⟨c, hc, hzero⟩
    exact zero_mem_utf8EncodeChar_iff.1 hzero ▸ hc
  · exact fun h => ⟨_, h, zero_mem_utf8EncodeChar_iff.2 rfl⟩

/-- What is left of the bytes of a name encodes a name exactly if it starts with a
character. -/
theorem fromUTF8?_drop_utf8 {name : String} {k : Nat} (hk : k ≤ name.utf8ByteSize) :
    String.fromUTF8? ⟨((utf8 name).drop k).toArray⟩ =
      if h : String.Pos.Raw.IsValid name ⟨k⟩ then some (name.extract ⟨⟨k⟩, h⟩ name.endPos)
      else none := by
  have hbytes : (⟨((utf8 name).drop k).toArray⟩ : ByteArray) =
      name.toByteArray.extract k name.utf8ByteSize := by
    apply ByteArray.ext
    rw [ByteArray.data_extract]
    apply Array.toList_inj.1
    rw [Array.toList_extract, List.extract_eq_take_drop, ← length_utf8, utf8,
      ← List.length_drop, List.take_length]
  have hvalid : String.Pos.Raw.IsValid name ⟨k⟩ ↔
      (⟨((utf8 name).drop k).toArray⟩ : ByteArray).IsValidUTF8 := by
    rw [String.Pos.Raw.isValid_iff_isValidUTF8_extract_utf8ByteSize, hbytes]
    exact and_iff_right hk
  unfold String.fromUTF8?
  by_cases h : String.Pos.Raw.IsValid name ⟨k⟩
  · rw [dif_pos h, dif_pos (hvalid.1 h)]
    exact congrArg some (String.toByteArray_inj.1 hbytes)
  · rw [dif_neg h, dif_neg (mt hvalid.2 h)]

/-! ## Stored names -/

/-- The bytes of names in order, each ended by a zero byte. -/
def encodeNames (names : List String) : List UInt8 :=
  names.flatMap fun name => utf8 name ++ [0]

/-- The position of the first byte of the `i`-th name. -/
def nameOffset (names : List String) (i : Nat) : Nat :=
  (encodeNames (names.take i)).length

/-- The bytes are those of names in order, each ended by a zero byte. After the last name the
zero byte can be missing if the name is not empty. -/
def StoresNames (names : List String) (bytes : Array UInt8) : Prop :=
  bytes.toList = encodeNames names ∨
    bytes.toList ++ [0] = encodeNames names ∧ ∀ name ∈ names.getLast?, name ≠ ""

theorem encodeNames_split {names : List String} {i : Nat} {name : String}
    (hi : names[i]? = some name) :
    encodeNames names =
      encodeNames (names.take i) ++ (utf8 name ++ 0 :: encodeNames (names.drop (i + 1))) := by
  obtain ⟨hlt, rfl⟩ := List.getElem?_eq_some_iff.1 hi
  have hsplit : names = names.take i ++ names[i] :: names.drop (i + 1) := by
    rw [← List.drop_eq_getElem_cons hlt, List.take_append_drop]
  refine (congrArg encodeNames hsplit).trans ?_
  simp only [encodeNames, List.flatMap_append, List.flatMap_cons, List.append_assoc,
    List.cons_append, List.nil_append]

/-- Behind the bytes of a stored name there is a zero byte or the end. -/
theorem StoresNames.exists_rest {names : List String} {bytes : Array UInt8}
    (h : StoresNames names bytes) {i : Nat} {name : String} (hi : names[i]? = some name) :
    ∃ rest, bytes.toList = encodeNames (names.take i) ++ (utf8 name ++ rest) ∧
      EndsName rest := by
  rcases h with hbytes | ⟨hbytes, -⟩
  · exact ⟨_, hbytes.trans (encodeNames_split hi), Or.inr ⟨_, rfl⟩⟩
  · have hsplit := hbytes.trans (encodeNames_split hi)
    rcases List.eq_nil_or_concat (encodeNames (names.drop (i + 1))) with hnil | ⟨more, b, hmore⟩
    · rw [hnil, ← List.append_assoc] at hsplit
      refine ⟨[], ?_, Or.inl rfl⟩
      rw [List.append_nil]
      exact List.append_cancel_right hsplit
    · rw [hmore] at hsplit
      refine ⟨0 :: more, ?_, Or.inr ⟨more, rfl⟩⟩
      have hsplit' : bytes.toList ++ [0] =
          (encodeNames (names.take i) ++ (utf8 name ++ 0 :: more)) ++ [b] := by
        simpa using hsplit
      exact (List.append_inj' hsplit' rfl).1

/-- Inside a stored name, what is left of it stands at the offset. -/
theorem StoresNames.standsAt {names : List String} {bytes : Array UInt8}
    (h : StoresNames names bytes) {i : Nat} {name : String} (hi : names[i]? = some name)
    (hname : '\x00' ∉ name.toList) {k : Nat} (hk : k ≤ name.utf8ByteSize) :
    nameOffset names i + k ≤ bytes.size ∧
      StandsAt bytes (nameOffset names i + k) ((utf8 name).drop k) := by
  obtain ⟨rest, hbytes, hrest⟩ := h.exists_rest hi
  refine ⟨?_, ⟨rest, ?_, hrest⟩, fun hzero => ?_⟩
  · have hlength := congrArg List.length hbytes
    rw [List.length_append, List.length_append, length_utf8] at hlength
    rw [nameOffset, ← Array.length_toList]
    omega
  · rw [hbytes, ← List.drop_drop, nameOffset, List.drop_left]
    exact List.drop_append_of_le_length hk
  · exact hname (zero_mem_utf8_iff.1 (List.mem_of_mem_drop hzero))

theorem StoresNames.nameAt?_eq {names : List String} {bytes : Array UInt8}
    (h : StoresNames names bytes) {i : Nat} {name : String} (hi : names[i]? = some name)
    (hname : '\x00' ∉ name.toList) {k : Nat} (hk : k ≤ name.utf8ByteSize) :
    nameAt? bytes (nameOffset names i + k) =
      if h : String.Pos.Raw.IsValid name ⟨k⟩ then some (name.extract ⟨⟨k⟩, h⟩ name.endPos)
      else none := by
  obtain ⟨hoffset, hstands⟩ := h.standsAt hi hname hk
  rw [nameAt?_of_standsAt hoffset hstands, fromUTF8?_drop_utf8 hk]

/-- From stored names without zero characters, a name is read at the offset where it starts.
From an offset inside of it, what is left of the name is read if a character starts there, and
nothing otherwise. -/
theorem nameAt?_storesNames {names : List String} {bytes : Array UInt8}
    (hnames : ∀ name ∈ names, '\x00' ∉ name.toList) (hbytes : StoresNames names bytes) {i : Nat}
    {name : String} (hi : names[i]? = some name) :
    nameAt? bytes (nameOffset names i) = some name ∧
      ∀ k, 0 < k → k < name.utf8ByteSize →
        nameAt? bytes (nameOffset names i + k) =
          if h : String.Pos.Raw.IsValid name ⟨k⟩ then
            some (name.extract ⟨⟨k⟩, h⟩ name.endPos)
          else none := by
  have hname := hnames name (List.mem_of_getElem? hi)
  refine ⟨?_, fun k _ hk => hbytes.nameAt?_eq hi hname hk.le⟩
  have hstart := hbytes.nameAt?_eq hi hname (Nat.zero_le _)
  rw [Nat.add_zero] at hstart
  have hwhole : name.toByteArray.extract 0 name.utf8ByteSize = name.toByteArray :=
    ByteArray.extract_zero_size
  rw [hstart, dif_pos (show String.Pos.Raw.IsValid name ⟨0⟩ from String.Pos.Raw.isValid_zero)]
  exact congrArg some (String.toByteArray_inj.1 hwhole)

/-- After an empty name, the end of a name with an accent, which lacks its zero byte. -/
theorem nameAt?_storesNames_accented :
    let names := ["base", "", "café"]
    let bytes : Array UInt8 := #[98, 97, 115, 101, 0, 0, 99, 97, 102, 195, 169]
    (∀ name ∈ names, '\x00' ∉ name.toList) ∧ StoresNames names bytes ∧
      nameOffset names 2 = 6 ∧ nameAt? bytes 6 = some "café" ∧
      nameAt? bytes 8 = some "fé" ∧ nameAt? bytes 10 = none := by
  intro names bytes
  have hnames : ∀ name ∈ names, '\x00' ∉ name.toList := by decide
  have hbytes : StoresNames names bytes := Or.inr ⟨by decide, by decide⟩
  obtain ⟨hstart, hinside⟩ := nameAt?_storesNames hnames hbytes (i := 2) rfl
  exact ⟨hnames, hbytes, by decide, hstart, (hinside 2 (by decide) (by decide)).trans (by decide),
    (hinside 4 (by decide) (by decide)).trans (by decide)⟩

end Brushwork
