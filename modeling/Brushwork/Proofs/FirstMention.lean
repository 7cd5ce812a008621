import Mathlib
import Brushwork.Proofs.Machine.Entity

/-!
# The patches that leaves mention

A model refers to its patches through its leaves, and a leaf can mention a patch that another one
has mentioned, or none at all. The positions that are read out of the references are in order of
first mention, since a further reference adds its position at the end or nothing
(`patchPositions_append_singleton`, `pairwise_mentionedBefore`). Those of the patches that are
kept are fixed by what is mentioned and in which order (`Level.Mentions.unique`).

So a reference that stands before already, or that no patch is at, can be put in anywhere without
a change (`AddsNothing`, `Level.Mentions.of_addsNothing`), and `Level.mentions_patchesOf` says
which patches a model has.
-/

namespace Brushwork

/-! ## Positions in order of first mention -/

/-- Of two positions, the first is mentioned before the second. -/
def MentionedBefore (references : List Int) (i j : Nat) : Prop :=
  references.idxOf (i : Int) < references.idxOf (j : Int)

/-- A reference is put in that adds no patch to those of a table with `count` patches. -/
inductive AddsNothing (count : Nat) : List Int → List Int → Prop
  /-- It stands before already. -/
  | again {before after : List Int} {reference : Int} (h : reference ∈ before) :
    AddsNothing count (before ++ after) (before ++ reference :: after)
  /-- It is negative, or no patch is at it. -/
  | nowhere {before after : List Int} {reference : Int}
    (h : reference < 0 ∨ (count : Int) ≤ reference) :
    AddsNothing count (before ++ after) (before ++ reference :: after)

open Level (patchPositions)

theorem mem_patchPositions {references : List Int} {position : Nat} :
    position ∈ patchPositions references ↔ (position : Int) ∈ references := by
  rw [patchPositions, List.mem_eraseDups, List.mem_filterMap]
  constructor
  · rintro ⟨reference, hmem, hposition⟩
    rwa [← Int.mem_toNat?.1 hposition]
  · exact fun hmem => ⟨_, hmem, Int.mem_toNat?.2 rfl⟩

/-- A further reference adds its position at the end if it is the first to mention it, and nothing
otherwise. -/
theorem patchPositions_append_singleton (references : List Int) (reference : Int) :
    patchPositions (references ++ [reference]) = patchPositions references ∨
      ∃ position : Nat, reference = position ∧ reference ∉ references ∧
        patchPositions (references ++ [reference]) = patchPositions references ++ [position] := by
  have hsplit : patchPositions (references ++ [reference]) = patchPositions references ++
      (([reference].filterMap Int.toNat?).removeAll
        (references.filterMap Int.toNat?)).eraseDups := by
    rw [patchPositions, List.filterMap_append, List.eraseDups_append, patchPositions]
  cases hreference : reference.toNat? with
  | none =>
    refine Or.inl ?_
    rw [hsplit, List.filterMap_cons_none hreference]
    exact List.append_nil _
  | some position =>
    have hposition := Int.mem_toNat?.1 hreference
    rw [hsplit, List.filterMap_cons_some hreference, List.filterMap_nil]
    by_cases hmem : position ∈ references.filterMap Int.toNat?
    · refine Or.inl ?_
      rw [List.removeAll, List.filter_cons_of_neg (by simpa using hmem)]
      exact List.append_nil _
    · refine Or.inr ⟨position, hposition, fun hreferences => hmem ?_, ?_⟩
      · exact List.mem_filterMap.2 ⟨reference, hreferences, hreference⟩
      · rw [List.removeAll, List.filter_cons_of_pos (by simpa using hmem)]
        rfl

theorem MentionedBefore.ne {references : List Int} {i j : Nat}
    (h : MentionedBefore references i j) : i ≠ j := by
  rintro rfl
  exact Nat.lt_irrefl _ h

theorem MentionedBefore.append {references : List Int} {i j : Nat}
    (h : MentionedBefore references i j) (hi : (i : Int) ∈ references)
    (hj : (j : Int) ∈ references) (others : List Int) :
    MentionedBefore (references ++ others) i j := by
  rwa [MentionedBefore, List.idxOf_append_of_mem hi, List.idxOf_append_of_mem hj]

/-- A position that is mentioned at last is mentioned after all others. -/
theorem mentionedBefore_append_singleton {references : List Int} {i j : Nat}
    (hi : (i : Int) ∈ references) (hj : (j : Int) ∉ references) :
    MentionedBefore (references ++ [(j : Int)]) i j := by
  rw [MentionedBefore, List.idxOf_append_of_mem hi, List.idxOf_append_of_notMem hj]
  exact Nat.lt_add_right _ (List.idxOf_lt_length_of_mem hi)

/-- Positions are in order of first mention. The induction is on the references from the end, as
every one of them only adds to what those before it gave. -/
theorem pairwise_mentionedBefore (references : List Int) :
    (patchPositions references).Pairwise (MentionedBefore references) := by
  induction references using List.reverseRecOn with
  | nil => exact .nil
  | append_singleton references reference ih =>
    have hkept : (patchPositions references).Pairwise
        (MentionedBefore (references ++ [reference])) :=
      ih.imp_of_mem fun hi hj h =>
        h.append (mem_patchPositions.1 hi) (mem_patchPositions.1 hj) [reference]
    rcases patchPositions_append_singleton references reference with
      heq | ⟨position, rfl, hnew, heq⟩
    · rwa [heq]
    · rw [heq, List.pairwise_append]
      refine ⟨hkept, List.pairwise_singleton _ _, fun i hi j hj => ?_⟩
      rw [List.mem_singleton.1 hj]
      exact mentionedBefore_append_singleton (mem_patchPositions.1 hi) hnew

/-! ## References that add nothing -/

/-- Where a reference is put in that does not stand before, no other changes its place among
the rest. -/
theorem idxOf_lt_idxOf_append_cons_iff {before after : List Int} {reference a b : Int}
    (ha : a = reference → reference ∈ before) (hb : b = reference → reference ∈ before) :
    (before ++ reference :: after).idxOf a < (before ++ reference :: after).idxOf b ↔
      (before ++ after).idxOf a < (before ++ after).idxOf b := by
  have hplace : ∀ c : Int, (c = reference → reference ∈ before) → c ∉ before →
      (reference :: after).idxOf c = after.idxOf c + 1 := fun c hc hnot =>
    List.idxOf_cons_ne after fun heq => hnot (heq ▸ hc heq.symm)
  simp only [List.idxOf_append]
  by_cases hma : a ∈ before <;> by_cases hmb : b ∈ before
  · simp only [if_pos hma, if_pos hmb]
  · have hlt := List.idxOf_lt_length_of_mem hma
    simp only [if_pos hma, if_neg hmb]
    omega
  · have hlt := List.idxOf_lt_length_of_mem hmb
    simp only [if_neg hma, if_pos hmb]
    omega
  · rw [if_neg hma, if_neg hmb, if_neg hma, if_neg hmb, hplace a ha hma, hplace b hb hmb]
    omega

namespace Level

variable (level : Level)

/-- The positions are those of the patches that the references mention and that are kept in the
family, each once and in order of first mention. -/
structure Mentions (references : List Int) (positions : List Nat) : Prop where
  nodup : positions.Nodup
  mem_iff : ∀ position, position ∈ positions ↔ (position : Int) ∈ references ∧
    ∃ patch, level.patches[position]? = some patch ∧ (level.family = .cod → patch.kind = 0)
  pairwise : positions.Pairwise (MentionedBefore references)

/-- The positions of the patches that are kept. -/
def keptPositions (references : List Int) : List Nat :=
  (patchPositions references).filter fun position =>
    (level.patches[position]?).any level.keepsPatch

variable {level} {references others : List Int} {positions : List Nat}

theorem keepsPatch_iff {patch : Patch} :
    level.keepsPatch patch = true ↔ (level.family = .cod → patch.kind = 0) := by
  unfold keepsPatch
  cases level.family <;> simp [Family.keepsOnlyCurvedPatches]

theorem any_keepsPatch_iff {position : Nat} :
    (level.patches[position]?).any level.keepsPatch = true ↔
      ∃ patch, level.patches[position]? = some patch ∧
        (level.family = .cod → patch.kind = 0) := by
  rw [Option.any_eq_true]
  simp only [keepsPatch_iff]

/-- What is mentioned and in which order leaves no choice. -/
theorem Mentions.unique {positions' : List Nat} (h : level.Mentions references positions)
    (h' : level.Mentions references positions') : positions' = positions := by
  have hperm : positions'.Perm positions :=
    (List.perm_ext_iff_of_nodup h'.nodup h.nodup).2 fun position =>
      (h'.mem_iff position).trans (h.mem_iff position).symm
  exact hperm.eq_of_pairwise (fun i j _ _ hij hji => absurd hij (Nat.lt_asymm hji))
    h'.pairwise h.pairwise

theorem mentions_keptPositions (references : List Int) :
    level.Mentions references (level.keptPositions references) where
  nodup := ((pairwise_mentionedBefore references).imp MentionedBefore.ne).filter _
  mem_iff position := by
    rw [keptPositions, List.mem_filter, mem_patchPositions, any_keepsPatch_iff]
  pairwise := (pairwise_mentionedBefore references).filter _

/-- The patches at the positions that are kept are those of the model. -/
theorem map_keptPositions (model : Model) :
    (level.keptPositions (level.leafPatchesOf model)).map (level.patches[·]?) =
      (level.patchesOf model).map some := by
  have hpatches : level.patchesOf model =
      (level.keptPositions (level.leafPatchesOf model)).filterMap (level.patches[·]?) := by
    rw [patchesOf, keptPositions, List.filter_filterMap, List.filterMap_filter]
    congr 1
    funext position
    cases level.patches[position]? <;> rfl
  have hsome : ∀ position ∈ level.keptPositions (level.leafPatchesOf model),
      (level.patches[position]?).isSome = true := by
    intro position hposition
    obtain ⟨patch, hpatch, -⟩ := any_keepsPatch_iff.1 (List.mem_filter.1 hposition).2
    rw [hpatch, Option.isSome_some]
  rw [hpatches, List.map_filterMap_some_eq_filter_map_isSome, eq_comm, List.filter_eq_self]
  exact List.forall_mem_map.2 hsome

/-- A reference that adds nothing changes neither which patches are mentioned nor in which
order. -/
theorem Mentions.of_addsNothing (h : level.Mentions references positions)
    (hadds : AddsNothing level.patches.size references others) :
    level.Mentions others positions := by
  -- Both ways of adding nothing leave alone what is mentioned of the patches that there are.
  obtain ⟨before, after, reference, rfl, rfl, hreference⟩ : ∃ before after reference,
      references = before ++ after ∧ others = before ++ reference :: after ∧
      ∀ position < level.patches.size, (position : Int) = reference → reference ∈ before := by
    cases hadds with
    | again hbefore => exact ⟨_, _, _, rfl, rfl, fun _ _ _ => hbefore⟩
    | nowhere hnowhere => exact ⟨_, _, _, rfl, rfl, fun _ _ _ => by omega⟩
  have hlt : ∀ position ∈ positions, position < level.patches.size := by
    intro position hposition
    obtain ⟨-, patch, hpatch, -⟩ := (h.mem_iff position).1 hposition
    exact (Array.getElem?_eq_some_iff.1 hpatch).1
  refine ⟨h.nodup, fun position => ?_, h.pairwise.imp_of_mem fun hi hj hbefore => ?_⟩
  · rw [h.mem_iff]
    refine and_congr_left fun ⟨patch, hpatch, _⟩ => ?_
    have hposition := hreference position (Array.getElem?_eq_some_iff.1 hpatch).1
    rw [List.mem_append, List.mem_append, List.mem_cons]
    constructor
    · exact Or.imp_right Or.inr
    · rintro (hbefore | heq | hafter)
      · exact Or.inl hbefore
      · exact Or.inl (heq ▸ hposition heq)
      · exact Or.inr hafter
  · exact (idxOf_lt_idxOf_append_cons_iff (hreference _ (hlt _ hi))
      (hreference _ (hlt _ hj))).2 hbefore

theorem Mentions.of_reflTransGen (h : level.Mentions references positions)
    (hadds : Relation.ReflTransGen (AddsNothing level.patches.size) references others) :
    level.Mentions others positions := by
  induction hadds with
  | refl => exact h
  | tail _ hstep ih => exact ih.of_addsNothing hstep

/-- Models have the same patches if their references mention the same positions. -/
theorem patchesOf_eq_of_mentions {other : Level} {model otherModel : Model}
    (hfamily : other.family = level.family) (hpatches : other.patches = level.patches)
    (h : level.Mentions (level.leafPatchesOf model) positions)
    (hother : level.Mentions (other.leafPatchesOf otherModel) positions) :
    other.patchesOf otherModel = level.patchesOf model := by
  have hkept : level.keptPositions (level.leafPatchesOf model) = positions :=
    h.unique (mentions_keptPositions _)
  have hotherKept : other.keptPositions (other.leafPatchesOf otherModel) = positions := by
    refine Mentions.unique ⟨hother.nodup, ?_, hother.pairwise⟩ (mentions_keptPositions _)
    rw [hfamily, hpatches]
    exact hother.mem_iff
  refine List.map_injective_iff.2 (Option.some_injective Patch) ?_
  rw [← map_keptPositions, ← map_keptPositions, hkept, hotherKept, hpatches]

/-- The patches of a model are those at the positions that its references mention, each once and
in order of first mention. References that add nothing make no difference to them. A machine reads
the references of every model without a fault. -/
theorem mentions_patchesOf (level : Level) (model : Model) :
    let references := level.leafPatchesOf model
    (∃ positions, level.Mentions references positions ∧
      (∀ others, level.Mentions references others → others = positions) ∧
      positions.map (level.patches[·]?) = (level.patchesOf model).map some) ∧
    (∀ (other : Level) (otherModel : Model), other.family = level.family →
      other.patches = level.patches →
      Relation.ReflTransGen (AddsNothing level.patches.size) references
        (other.leafPatchesOf otherModel) →
      other.patchesOf otherModel = level.patchesOf model) ∧
    (Machine.Fits level → Machine.patchesOf level model = pure (level.patchesOf model)) := by
  intro references
  have hkept : level.Mentions references (level.keptPositions references) :=
    mentions_keptPositions references
  exact ⟨⟨_, hkept, fun others => hkept.unique, map_keptPositions model⟩,
    fun other otherModel hfamily hpatches hadds =>
      patchesOf_eq_of_mentions hfamily hpatches hkept (hkept.of_reflTransGen hadds),
    fun fits => Machine.patchesOf_eq fits model⟩

/-- A level in a family that keeps patches of one kind only, with a patch of another kind between
two of them, and with leaves that mention the patches at some references. -/
def hedge (references : Array Int) : Level where
  family := .cod
  patches := #[⟨4, 0, .zero, ⟨0, 0⟩⟩, ⟨5, 1, .zero, ⟨0, 0⟩⟩, ⟨6, 0, .zero, ⟨0, 0⟩⟩]
  leafPatches := references

/-- A negative reference, one that stands before and one that no patch is at make no difference. -/
theorem mentions_patchesOf_hedge :
    let model : Model := ⟨⟨0, 0⟩, ⟨0, 0⟩, ⟨0, 6⟩⟩
    let sparse := hedge #[2, 0, 1]
    let dense := hedge #[2, -1, 0, 2, 1, 9]
    Machine.Fits sparse ∧
      Relation.ReflTransGen (AddsNothing sparse.patches.size) (sparse.leafPatchesOf model)
        (dense.leafPatchesOf model) ∧
      dense.patchesOf model = sparse.patchesOf model ∧
      (sparse.patchesOf model).map (·.texture) = [6, 4] ∧
      Machine.patchesOf sparse model = pure (sparse.patchesOf model) := by
  intro model sparse dense
  have fits : Machine.Fits sparse := by decide
  have hnegative : AddsNothing 3 ([2] ++ [0, 1]) ([2] ++ -1 :: [0, 1]) :=
    .nowhere (.inl (by decide))
  have hagain : AddsNothing 3 ([2, -1, 0] ++ [1]) ([2, -1, 0] ++ 2 :: [1]) := .again (by decide)
  have hmissing : AddsNothing 3 ([2, -1, 0, 2, 1] ++ []) ([2, -1, 0, 2, 1] ++ 9 :: []) :=
    .nowhere (.inr (by decide))
  have hadds : Relation.ReflTransGen (AddsNothing sparse.patches.size)
      (sparse.leafPatchesOf model) (dense.leafPatchesOf model) :=
    ((Relation.ReflTransGen.single hnegative).tail hagain).tail hmissing
  obtain ⟨-, hsame, hmachine⟩ := mentions_patchesOf sparse model
  exact ⟨fits, hadds, hsame dense model rfl rfl hadds, rfl, hmachine fits⟩

end Level

end Brushwork
