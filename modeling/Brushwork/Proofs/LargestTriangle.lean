import Mathlib
import Brushwork.Geometry.Triangle
import Brushwork.Proofs.Number.Rank

/-!
# The largest triangle

A running maximum that gives way to larger scores alone holds the first of the largest ones so far
(`Scalar.Leads`). One more element keeps that (`Scalar.Leads.append_singleton`), so it holds of the
whole list (`Scalar.leads_firstLargest`). A score that is no number is below and above nothing,
so an element with one changes nothing wherever it stands (`Scalar.firstLargest_filter`).

The triangle that the points of a side are taken from is therefore the first of the largest ones of
a list. There is none exactly if all are too thin (`Triangle.isFirstLargest_largest?`).
-/

namespace Brushwork

universe u v w

namespace Scalar

/-! ## The first of the largest scores -/

section FirstLargest

variable {α : Type u} [Scalar α] {β : Type w}

/-- An element of a list with the largest score, earlier ones with a score being smaller. -/
structure IsFirstLargest (score : β → α) (xs : List β) (x : β) : Prop where
  score_le : ∀ y ∈ xs, IsNumber (score y) → score y ≤ score x
  exists_before : ∃ before after, xs = before ++ x :: after ∧
    ∀ y ∈ before, IsNumber (score y) → score y < score x

/-- What a running maximum holds after the elements of a list. -/
inductive Leads (score : β → α) (xs : List β) : α × Option β → Prop
  | none : (∀ y ∈ xs, ¬ 0 < score y) → Leads score xs (0, none)
  | some {x : β} : 0 < score x → IsFirstLargest score xs x → Leads score xs (score x, some x)

variable {ρ : Type v} [LinearOrder ρ] {rank : α → ρ} {score : β → α} {xs : List β} {x y : β}

theorem IsFirstLargest.mem (h : IsFirstLargest score xs x) : x ∈ xs := by
  obtain ⟨before, after, rfl, -⟩ := h.exists_before
  simp

/-- Two elements of which neither comes before the other are one. -/
theorem eq_of_append_cons_eq {before after before' after' : List β}
    (h : before ++ x :: after = before' ++ y :: after') (hx : x ∉ before') (hy : y ∉ before) :
    x = y := by
  rcases List.append_eq_append_iff.1 h with ⟨middle, rfl, htail⟩ | ⟨middle, rfl, htail⟩ <;>
    cases middle <;> simp_all

/-- An element with the largest score does not come before another first one. -/
theorem IsFirstLargest.notMem_before (hcompare : ComparesBy rank) (hx : IsFirstLargest score xs x)
    (hnumber : IsNumber (score x)) (hy : y ∈ xs) (hscore : IsNumber (score y))
    {before : List β} (hbefore : ∀ z ∈ before, IsNumber (score z) → score z < score y) :
    x ∉ before := fun hmem =>
  hcompare.not_lt_of_le (hx.score_le y hy hscore) (hbefore x hmem hnumber)

theorem IsFirstLargest.unique (hcompare : ComparesBy rank) (hx : IsFirstLargest score xs x)
    (hy : IsFirstLargest score xs y) (hxnumber : IsNumber (score x))
    (hynumber : IsNumber (score y)) : x = y := by
  obtain ⟨before, after, hsplit, hbefore⟩ := hx.exists_before
  obtain ⟨before', after', hsplit', hbefore'⟩ := hy.exists_before
  exact eq_of_append_cons_eq (hsplit.symm.trans hsplit')
    (hx.notMem_before hcompare hxnumber hy.mem hynumber hbefore')
    (hy.notMem_before hcompare hynumber hx.mem hxnumber hbefore)

/-- A larger element at the end is the only largest one. -/
theorem isFirstLargest_append_singleton (hcompare : ComparesBy rank)
    (hlt : ∀ y ∈ xs, IsNumber (score y) → score y < score x) :
    IsFirstLargest score (xs ++ [x]) x where
  score_le := List.forall_mem_append.2
    ⟨fun y hy hnumber => hcompare.le_of_lt (hlt y hy hnumber),
      List.forall_mem_singleton.2 hcompare.le_refl⟩
  exists_before := ⟨xs, [], rfl, hlt⟩

/-- One at the end that is no larger changes nothing. -/
theorem IsFirstLargest.append_singleton (h : IsFirstLargest score xs x)
    (hle : IsNumber (score y) → score y ≤ score x) : IsFirstLargest score (xs ++ [y]) x where
  score_le := List.forall_mem_append.2 ⟨h.score_le, List.forall_mem_singleton.2 hle⟩
  exists_before := by
    obtain ⟨before, after, rfl, hbefore⟩ := h.exists_before
    exact ⟨before, after ++ [y], by simp, hbefore⟩

/-- A running maximum keeps what it holds when it goes on to one more element. -/
theorem Leads.append_singleton (hcompare : ComparesBy rank) {best : α × Option β}
    (h : Leads score xs best) (y : β) :
    Leads score (xs ++ [y]) (if best.1 < score y then (score y, Option.some y) else best) := by
  cases h with
  | none hnone =>
    split_ifs with hlt
    · refine .some hlt (isFirstLargest_append_singleton hcompare fun z hz hnumber => ?_)
      exact hcompare.lt_of_le_of_lt
        (hcompare.le_of_not_lt hnumber (hcompare.isNumber_left hlt) (hnone z hz)) hlt
    · exact .none (List.forall_mem_append.2 ⟨hnone, List.forall_mem_singleton.2 hlt⟩)
  | @some x hpos hfirst =>
    split_ifs with hlt
    · refine .some (hcompare.lt_of_lt_of_le hpos (hcompare.le_of_lt hlt))
        (isFirstLargest_append_singleton hcompare fun z hz hnumber => ?_)
      exact hcompare.lt_of_le_of_lt (hfirst.score_le z hz hnumber) hlt
    · exact .some hpos (hfirst.append_singleton fun hnumber =>
        hcompare.le_of_not_lt hnumber (hcompare.isNumber_right hpos) hlt)

theorem firstLargest_append_singleton (score : β → α) (xs : List β) (y : β) :
    firstLargest score (xs ++ [y]) =
      if (firstLargest score xs).1 < score y then (score y, some y)
      else firstLargest score xs := by
  rw [firstLargest, List.foldl_append]
  rfl

theorem leads_firstLargest (hcompare : ComparesBy rank) (score : β → α) (xs : List β) :
    Leads score xs (firstLargest score xs) := by
  induction xs using List.reverseRecOn with
  | nil => exact .none (by simp)
  | append_singleton xs y ih =>
    rw [firstLargest_append_singleton]
    exact ih.append_singleton hcompare y

/-- The elements with a score that is a number decide alone. -/
theorem firstLargest_filter (hcompare : ComparesBy rank) (score : β → α) (xs : List β) :
    firstLargest score (xs.filter fun x => score x == score x) = firstLargest score xs := by
  rw [firstLargest, firstLargest, List.foldl_filter]
  congr 1
  funext best x
  split
  · rfl
  · next hnumber => exact (if_neg fun hlt => hnumber (hcompare.isNumber_right hlt)).symm

end FirstLargest

end Scalar

/-! ## The largest triangle -/

namespace Triangle

open Scalar

section Threshold

variable {α : Type u} [Scalar α] {ρ : Type v} [LinearOrder ρ] {rank : α → ρ}
  {ts : List (Triangle α)} {t : Triangle α}

theorem largest?_eq (ts : List (Triangle α)) : largest? ts =
    if minSpread < (firstLargest spread ts).1 then (firstLargest spread ts).2 else none :=
  rfl

variable (hcompare : ComparesBy rank) (hpos : (0 : α) < minSpread)
include hcompare hpos

theorem largest?_eq_none_iff : largest? ts = none ↔ ∀ t ∈ ts, ¬ minSpread < t.spread := by
  have hleads := leads_firstLargest hcompare spread ts
  rw [largest?_eq]
  generalize firstLargest spread ts = best at hleads
  cases hleads with
  | none hnone =>
    refine iff_of_true (ite_self _) fun t ht hlt => hnone t ht ?_
    exact hcompare.lt_of_lt_of_le hpos (hcompare.le_of_lt hlt)
  | @some x _ hfirst =>
    constructor
    · intro h t ht hlt
      have hle := hfirst.score_le t ht (hcompare.isNumber_right hlt)
      rw [if_pos (hcompare.lt_of_lt_of_le hlt hle)] at h
      cases h
    · exact fun h => if_neg (h x hfirst.mem)

theorem largest?_eq_some_iff :
    largest? ts = some t ↔ minSpread < t.spread ∧ IsFirstLargest spread ts t := by
  have hleads := leads_firstLargest hcompare spread ts
  rw [largest?_eq]
  generalize firstLargest spread ts = best at hleads
  cases hleads with
  | none hnone =>
    rw [ite_self]
    refine iff_of_false nofun fun h => hnone t h.2.mem ?_
    exact hcompare.lt_of_lt_of_le hpos (hcompare.le_of_lt h.1)
  | @some x hlarge hfirst =>
    constructor
    · intro h
      obtain ⟨hlt, heq⟩ := Option.ite_none_right_eq_some.1 h
      obtain rfl := Option.some.inj heq
      exact ⟨hlt, hfirst⟩
    · rintro ⟨hlt, ht⟩
      obtain rfl := hfirst.unique hcompare ht (hcompare.isNumber_right hlarge)
        (hcompare.isNumber_right hlt)
      exact if_pos hlt

end Threshold

theorem isFirstLargest_spread_iff {ts : List (Triangle Float)} {t : Triangle Float} :
    IsFirstLargest spread ts t ↔ (∀ s ∈ ts, s.spread.isNaN = false → s.spread ≤ t.spread) ∧
      ∃ before after, ts = before ++ t :: after ∧
        ∀ s ∈ before, s.spread.isNaN = false → s.spread < t.spread := by
  simp only [← isNumber_iff_isNaN]
  exact ⟨fun h => ⟨h.score_le, h.exists_before⟩, fun h => ⟨h.1, h.2⟩⟩

theorem largest?_filter_isNaN (ts : List (Triangle Float)) :
    largest? (ts.filter fun t => !t.spread.isNaN) = largest? ts := by
  have hnumber : (fun t : Triangle Float => !t.spread.isNaN) = fun t => t.spread == t.spread := by
    funext t
    rw [Bool.eq_iff_iff, Bool.not_eq_true', ← isNumber_iff_isNaN]
    rfl
  rw [hnumber, largest?_eq, largest?_eq, firstLargest_filter comparesBy_rankOf]

/-- The triangle that is picked from a list is the first of the largest ones, if it is above the
bound, and there is none exactly if no triangle is. Those whose spread is no number do not
count. -/
theorem isFirstLargest_largest? (ts : List (Triangle Float)) :
    (largest? ts = none ↔ ∀ t ∈ ts, ¬ 0.001 < t.spread) ∧
    (∀ t, largest? ts = some t ↔ 0.001 < t.spread ∧
      (∀ s ∈ ts, s.spread.isNaN = false → s.spread ≤ t.spread) ∧
      ∃ before after, ts = before ++ t :: after ∧
        ∀ s ∈ before, s.spread.isNaN = false → s.spread < t.spread) ∧
    largest? (ts.filter fun t => !t.spread.isNaN) = largest? ts := by
  have hbound : (minSpread : Float) = 0.001 := by decide +kernel
  have hpos : (0 : Float) < minSpread := by decide +kernel
  rw [← hbound]
  refine ⟨largest?_eq_none_iff comparesBy_rankOf hpos, fun t => ?_, largest?_filter_isNaN ts⟩
  rw [largest?_eq_some_iff comparesBy_rankOf hpos, isFirstLargest_spread_iff]

/-- Neither a thin triangle, one without a size, nor a later one as large is picked. -/
example :
    let thin : Triangle Float := ⟨.zero, ⟨0.01, 0, 0⟩, ⟨0, 0.01, 0⟩⟩
    let unsized : Triangle Float := ⟨.zero, ⟨8, 0, 0⟩, ⟨0, 0 / 0, 0⟩⟩
    let large : Triangle Float := ⟨.zero, ⟨8, 0, 0⟩, ⟨0, 8, 0⟩⟩
    let moved : Triangle Float := ⟨⟨1, 1, 1⟩, ⟨9, 1, 1⟩, ⟨1, 9, 1⟩⟩
    largest? [thin, unsized, large, moved] = some large ∧ largest? [unsized, thin] = none := by
  decide +kernel

end Triangle

end Brushwork
