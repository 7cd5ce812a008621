import Brushwork.Proofs.Completion

/-!
# Progress is reported about every hundredth and never goes back

The reports of `n` units are made at the multiples of the interval up to `n`, and each says
which part of the total was done when it was made (`calls_start`). Read as rational numbers
(`Fraction.value`), they grow with the units that are done, also past the total, where they
stay at one (`Fraction.value_part_mono`). A total is cut into at least a hundred intervals, or
one for each unit if it has fewer, and into at most 199 (`le_div_interval`,
`div_interval_le`). `isThrottled_start` puts this together for every total and every number
of units.
-/

namespace Brushwork

namespace Fraction

/-- The fraction as a rational number. -/
def value (f : Fraction) : ℚ :=
  f.num / f.den

theorem value_part (done total : Nat) :
    (part done total).value = if total = 0 then 1 else min ((done : ℚ) / total) 1 := by
  unfold part value
  split_ifs with h
  · rw [Nat.cast_one, div_one]
  · have htotal : (0 : ℚ) < total := Nat.cast_pos.2 (Nat.pos_of_ne_zero h)
    rw [Nat.cast_min, ← min_div_div_right htotal.le, div_self htotal.ne']

theorem value_part_le_one (done total : Nat) : (part done total).value ≤ 1 := by
  rw [value_part]
  split_ifs
  · exact le_rfl
  · exact min_le_right _ _

theorem value_part_pos {done : Nat} (total : Nat) (h : 0 < done) :
    0 < (part done total).value := by
  rw [value_part]
  split_ifs with htotal
  · exact one_pos
  · exact lt_min (div_pos (Nat.cast_pos.2 h) (Nat.cast_pos.2 (Nat.pos_of_ne_zero htotal))) one_pos

/-- More units are no smaller part of a total. -/
theorem value_part_mono (total : Nat) : Monotone fun done => (part done total).value := by
  intro a b h
  simp only [value_part]
  split_ifs
  · exact le_rfl
  · exact min_le_min_right 1 (div_le_div_of_nonneg_right (Nat.cast_le.2 h) (Nat.cast_nonneg total))

end Fraction

namespace Progress

/-- The fraction that is kept is the one that was reported last. -/
theorem fraction_advance : ∀ (n : Nat) (p : Progress),
    (advance n p).1.fraction = (advance n p).2.getLast?.getD p.fraction
  | 0, _ => rfl
  | n + 1, p => by
    have hstep : p.step.1.fraction = p.step.2.getD p.fraction := by
      unfold step
      dsimp only
      split <;> rfl
    have hlast : (advance (n + 1) p).1 = (advance n p.step.1).1 := rfl
    have hreports : (advance (n + 1) p).2 = p.step.2.toList ++ (advance n p.step.1).2 := rfl
    rw [hlast, hreports, fraction_advance n p.step.1, hstep, List.getLast?_append]
    cases (advance n p.step.1).2.getLast? <;> cases p.step.2 <;> rfl

/-- From the start of work, reports are made at the multiples of the interval. -/
theorem calls_start (total n : Nat) :
    (start total).calls n = (List.range' 1 (n / max 1 (total / 100))).map fun j =>
      (j * max 1 (total / 100), .part (j * max 1 (total / 100)) total) := by
  have hinterval : (start total).interval = max 1 (total / 100) := max_comm ..
  have hmultiples := filter_dvd_range' (max 1 (total / 100)) n
  rw [calls_eq, hinterval]
  refine (congrArg (List.map _) hmultiples).trans ?_
  rw [List.map_map]
  refine List.map_congr_left fun j _ => ?_
  rw [Function.comp_apply, Nat.mul_comm]
  rfl

/-- A total has at least a hundred intervals, or one for each unit if it has fewer. -/
theorem le_div_interval (total : Nat) : min total 100 ≤ total / max 1 (total / 100) := by
  rw [Nat.le_div_iff_mul_le (by omega)]
  rcases Nat.lt_or_ge total 100 with hsmall | hlarge
  · rw [Nat.div_eq_of_lt hsmall, Nat.max_eq_left zero_le_one, Nat.mul_one]
    exact min_le_left ..
  · have hpos : 1 ≤ total / 100 := Nat.div_pos hlarge (by decide)
    rw [Nat.max_eq_right hpos, min_eq_right hlarge]
    exact Nat.mul_div_le ..

/-- No total has more than 199 intervals : 199 itself has that many. -/
theorem div_interval_le (total : Nat) : total / max 1 (total / 100) ≤ 199 := by
  rw [← Nat.lt_succ_iff, Nat.div_lt_iff_lt_mul (by omega)]
  omega

/-- How `n` units of work of a total are reported : what is left in the end, and the reports
with the number of units that were done at each. -/
structure IsThrottled (total n : Nat) (last : Progress) (calls : List (Nat × Fraction)) :
    Prop where
  /-- Every unit is counted, also past the total. -/
  processed : last.processed = n
  /-- Reports are made at the multiples of the interval and at no other number of units. -/
  times : calls.map Prod.fst =
    (List.range' 1 (n / max 1 (total / 100))).map (· * max 1 (total / 100))
  length : calls.length = n / max 1 (total / 100)
  /-- Each says which part of the total is done. -/
  value : ∀ call ∈ calls,
    call.2.value = if total = 0 then 1 else min ((call.1 : ℚ) / total) 1
  /-- The last of them is kept. -/
  fraction : last.fraction = (calls.getLast?.map Prod.snd).getD .zero
  bounds : ∀ call ∈ calls, 0 < call.2.value ∧ call.2.value ≤ 1
  /-- No report is below one before it. -/
  ordered : (calls.map (·.2.value)).Pairwise (· ≤ ·)
  /-- All of the total takes about a hundred reports. -/
  whole : n = total → min total 100 ≤ calls.length ∧ calls.length ≤ 199

/-- Units of work are reported at the multiples of about a hundredth of their total, with a
fraction that is above zero, at most one, and never goes back. -/
theorem isThrottled_start (total n : Nat) :
    IsThrottled total n ((start total).advance n).1 ((start total).calls n) ∧
      ((start total).calls n).map Prod.snd = ((start total).advance n).2 := by
  have hreports := map_snd_calls n (start total)
  have hlength : ((start total).calls n).length = n / max 1 (total / 100) := by
    rw [calls_start, List.length_map, List.length_range']
  have hmade : ∀ call ∈ (start total).calls n, 0 < call.1 ∧ call.2 = .part call.1 total := by
    rw [calls_start]
    refine List.forall_mem_map.2 fun j hj => ⟨?_, rfl⟩
    exact Nat.mul_pos (List.mem_range'_1.1 hj).1 (by omega)
  refine ⟨?_, hreports⟩
  exact
    { processed := by rw [processed_advance, start, Nat.zero_add]
      times := by
        rw [calls_start, List.map_map]
        rfl
      length := hlength
      value := by
        intro call hcall
        rw [(hmade call hcall).2, Fraction.value_part]
      fraction := by
        rw [fraction_advance, ← hreports, List.getLast?_map]
        rfl
      bounds := by
        intro call hcall
        obtain ⟨hpos, hpart⟩ := hmade call hcall
        rw [hpart]
        exact ⟨Fraction.value_part_pos total hpos, Fraction.value_part_le_one ..⟩
      ordered := by
        rw [calls_start, List.map_map, List.pairwise_map]
        refine (List.pairwise_lt_range' 1).imp fun hlt => ?_
        exact Fraction.value_part_mono total (Nat.mul_le_mul_right _ hlt.le)
      whole := by
        rintro rfl
        rw [hlength]
        exact ⟨le_div_interval n, div_interval_le n⟩ }

/-- Past the total, everything is reported as done. -/
example : (start 3).calls 5 =
    [(1, ⟨1, 3⟩), (2, ⟨2, 3⟩), (3, ⟨3, 3⟩), (4, ⟨3, 3⟩), (5, ⟨3, 3⟩)] := by
  decide

end Progress

end Brushwork
