import Brushwork.Editor.Entity
import Brushwork.Proofs.Number.ReadBack

/-!
# Written positions are read back

A position is written as the texts of its coordinates with blanks between them. It is read back
whatever blanks there are, and whatever follows behind a blank (`read?_of_isWrittenIn`), for the
text of a number has no blanks in it and reads back to the number. So the entity of a placed
object has its origin where the object is (`readsBack_text`).
-/

namespace Brushwork

/-! ## Words and blanks -/

theorem words_blanks_append {gap : List Char} (rest : List Char)
    (h : ∀ c ∈ gap, isBlank c = true) : words (gap ++ rest) = words rest := by
  induction gap with
  | nil => rfl
  | cons c gap ih =>
    have hstep : words (c :: (gap ++ rest)) = words (gap ++ rest) := by
      rw [words, wordsFrom, if_pos (h c List.mem_cons_self)]
      rfl
    rw [List.cons_append, hstep, ih fun d hd => h d (List.mem_cons_of_mem c hd)]

/-- A text without blanks is a word, if it is not empty and no other text joins it. -/
theorem words_word_append {word rest : List Char} (hword : word ≠ [])
    (hblank : ∀ c ∈ word, isBlank c = false) (hrest : ∀ c ∈ rest.head?, isBlank c = true) :
    words (word ++ rest) = word :: words rest := by
  have hcons : ∀ others, consWord word others = word :: others := fun others => by
    rw [consWord, if_neg (mt List.isEmpty_iff.1 hword)]
  rw [words, wordsFrom_append_of_not_blank word [] rest hblank, List.nil_append]
  cases rest with
  | nil => exact hcons []
  | cons c rest =>
    have hc := hrest c rfl
    rw [wordsFrom, if_pos hc, hcons, words, wordsFrom, if_pos hc]
    rfl

/-- The text of a number is a word. -/
theorem words_numberText_append (x : Float32) {rest : List Char}
    (hrest : ∀ c ∈ rest.head?, isBlank c = true) :
    words (numberText [] x ++ rest) = numberText [] x :: words rest :=
  words_word_append (numberText_ne_nil_and_not_isBlank x).1
    (numberText_ne_nil_and_not_isBlank x).2 hrest

/-! ## Positions -/

namespace Vec3

/-- The texts that a position is written in : its coordinates with blanks between them and maybe
around them. Behind a blank after the third, anything may follow. -/
inductive IsWrittenIn (v : Vec3 Float32) : List Char → Prop
  | intro {lead gap gap' rest : List Char} (hlead : ∀ c ∈ lead, isBlank c = true)
      (hgap : gap ≠ [] ∧ ∀ c ∈ gap, isBlank c = true)
      (hgap' : gap' ≠ [] ∧ ∀ c ∈ gap', isBlank c = true)
      (hrest : ∀ c ∈ rest.head?, isBlank c = true) :
      IsWrittenIn v (lead ++ (numberText [] v.x ++ (gap ++ (numberText [] v.y ++ (gap' ++
        (numberText [] v.z ++ rest))))))

variable {v : Vec3 Float32}

theorem head?_append_of_blanks {gap rest : List Char}
    (h : gap ≠ [] ∧ ∀ c ∈ gap, isBlank c = true) : ∀ c ∈ (gap ++ rest).head?, isBlank c = true := by
  obtain ⟨d, ds, rfl⟩ := List.exists_cons_of_ne_nil h.1
  rintro c ⟨⟩
  exact h.2 d List.mem_cons_self

theorem read?_of_isWrittenIn {s : String} (h : v.IsWrittenIn s.toList) : read? s = some v := by
  have hwords : ∃ others, words s.toList =
      numberText [] v.x :: numberText [] v.y :: numberText [] v.z :: others := by
    generalize s.toList = cs at h
    obtain ⟨hlead, hgap, hgap', hrest⟩ := h
    rw [words_blanks_append _ hlead, words_numberText_append v.x (head?_append_of_blanks hgap),
      words_blanks_append _ hgap.2, words_numberText_append v.y (head?_append_of_blanks hgap'),
      words_blanks_append _ hgap'.2, words_numberText_append v.z hrest]
    exact ⟨_, rfl⟩
  obtain ⟨others, hothers⟩ := hwords
  unfold read?
  simp only [hothers, readNumber?_numberText]
  rfl

theorem isWrittenIn_text (v : Vec3 Float32) : v.IsWrittenIn v.text.toList := by
  have hspace : [' '] ≠ [] ∧ ∀ c ∈ [' '], isBlank c = true :=
    ⟨List.cons_ne_nil _ _, by simp [isBlank]⟩
  have htext : v.text.toList = [] ++ (numberText [] v.x ++ ([' '] ++ (numberText [] v.y ++
      ([' '] ++ (numberText [] v.z ++ []))))) := by
    simp [text, singleText]
  rw [htext]
  exact .intro (by simp) hspace hspace (by simp)

end Vec3

/-! ## Placed objects -/

theorem Properties.origin_of_get? {p : Properties} {v : Vec3 Float32}
    (h : p.get? "origin" = some v.text) : p.origin = v := by
  rw [origin, h, Option.bind_some, Vec3.read?_of_isWrittenIn v.isWrittenIn_text, Option.getD_some]

theorem StaticProp.get?_origin_toEntity (prop : StaticProp) (models : Array String) :
    (prop.toEntity models).properties.get? "origin" = some prop.origin.text := by
  unfold toEntity
  cases models[prop.model]? <;> cases prop.castsNoShadow <;>
    simp [Editor.Entity.insert, Properties.get?_insert, modelKey]

theorem StaticModel.get?_origin_toEntity (model : StaticModel) :
    model.toEntity.properties.get? "origin" = some model.origin.text := by
  simp [toEntity, Editor.Entity.insert, Properties.get?_insert]

theorem Cubemap.get?_origin_toEntity (cubemap : Cubemap) :
    cubemap.toEntity.properties.get? "origin" = some cubemap.position.text := by
  simp [toEntity, Editor.Entity.insert, Properties.get?_insert]

/-- Every position is read back from its text, whatever blanks are around and between the
coordinates and whatever follows them, the signs of zeros and what is not a number included. So
the entity of a placed object is where the object is. -/
theorem readsBack_text :
    (∀ (v : Vec3 Float32) (s : String), v.IsWrittenIn s.toList → Vec3.read? s = some v) ∧
    (∀ v : Vec3 Float32, v.IsWrittenIn v.text.toList ∧ Vec3.read? v.text = some v) ∧
    (∀ (prop : StaticProp) (models : Array String),
      (prop.toEntity models).properties.origin = prop.origin) ∧
    (∀ model : StaticModel, model.toEntity.properties.origin = model.origin) ∧
    ∀ cubemap : Cubemap,
      cubemap.toEntity.properties.origin = cubemap.origin.map Binary.ofInt :=
  ⟨fun _ _ => Vec3.read?_of_isWrittenIn,
    fun v => ⟨v.isWrittenIn_text, Vec3.read?_of_isWrittenIn v.isWrittenIn_text⟩,
    fun prop models => Properties.origin_of_get? (prop.get?_origin_toEntity models),
    fun model => Properties.origin_of_get? model.get?_origin_toEntity,
    fun cubemap => Properties.origin_of_get? cubemap.get?_origin_toEntity⟩

/-- A no-break space is a blank too, and a word after the third coordinate is passed over. -/
theorem readsBack_text_spread : Vec3.read? " 1\u00a0-2  3 up" = some ⟨1, -2, 3⟩ := by
  have htext : " 1\u00a0-2  3 up".toList = [' '] ++ (numberText [] (1 : Float32) ++ (['\u00a0'] ++
      (numberText [] (-2 : Float32) ++ ([' ', ' '] ++ (numberText [] (3 : Float32) ++
        [' ', 'u', 'p']))))) := by
    decide +kernel
  refine readsBack_text.1 ⟨1, -2, 3⟩ _ ?_
  rw [htext]
  exact .intro (by simp [isBlank]) (by simp [isBlank]) (by simp [isBlank]) (by simp [isBlank])

end Brushwork
