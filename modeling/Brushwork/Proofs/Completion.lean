import Brushwork.Proofs.Work

/-!
# What a run reports at its end

Reports are made at the multiples of an interval (`calls_eq`), so the last one is made at the
last multiple up to the total (`getLast?_reports_start`). Everything is reported as
done only if the interval divides the total, as it does with every total below 200, where
every unit is reported. `getLast?_reports_recover` says this of the recovery of a level. Of
201 units, reported two by two, the last report is made after 200
(`getLast?_reports_crowd`).
-/

namespace Brushwork

/-- The multiples of a number up to another. -/
theorem filter_dvd_range' (d n : Nat) :
    (List.range' 1 n).filter (d ∣ ·) = (List.range' 1 (n / d)).map (d * ·) := by
  induction n with
  | zero => rw [Nat.zero_div, List.range'_zero, List.filter_nil, List.map_nil]
  | succ n ih =>
    rw [List.range'_1_concat, List.filter_append, ih, Nat.add_comm 1 n, List.filter_singleton]
    by_cases h : d ∣ n + 1
    · have hnext : d * (1 + n / d) = n + 1 := by
        rw [Nat.add_comm, ← Nat.succ_div_of_dvd h, Nat.mul_div_cancel' h]
      rw [decide_eq_true h, Nat.succ_div_of_dvd h, List.range'_1_concat, List.map_append,
        List.map_singleton, hnext]
      rfl
    · rw [decide_eq_false h, Nat.succ_div_of_not_dvd h]
      exact List.append_nil _

/-- The last multiple of a number up to another. -/
theorem getLast?_multiples (d n : Nat) :
    ((List.range' 1 n).filter (d ∣ ·)).getLast? =
      if n / d = 0 then none else some (d * (n / d)) := by
  rw [filter_dvd_range', List.getLast?_map, List.getLast?_range', Nat.add_sub_cancel_left]
  split_ifs <;> rfl

theorem Fraction.part_inj {a b total : Nat} (htotal : 0 < total) (ha : a ≤ total)
    (hb : b ≤ total) : part a total = part b total ↔ a = b := by
  rw [part, part, if_neg htotal.ne', if_neg htotal.ne', Nat.min_eq_left ha, Nat.min_eq_left hb,
    Fraction.mk.injEq, and_iff_left rfl]

namespace Progress

@[simp] theorem interval_step (p : Progress) : p.step.1.interval = p.interval := by
  rw [interval, interval, total_step]

theorem report_step (p : Progress) :
    p.step.2 = if p.interval ∣ p.processed + 1 then some (.part (p.processed + 1) p.total)
      else none := by
  unfold step
  simp only [Nat.dvd_iff_mod_eq_zero]
  split <;> rfl

/-- The reports that are made while units are marked as done, each with the number of units
that are done when it is made. -/
def calls : Nat → Progress → List (Nat × Fraction)
  | 0, _ => []
  | n + 1, p => (p.step.2.map (p.step.1.processed, ·)).toList ++ calls n p.step.1

theorem map_snd_calls : ∀ (n : Nat) (p : Progress), (calls n p).map Prod.snd = (advance n p).2
  | 0, _ => rfl
  | n + 1, p => by
    have hreports : (advance (n + 1) p).2 = p.step.2.toList ++ (advance n p.step.1).2 := rfl
    rw [calls, List.map_append, map_snd_calls n p.step.1, hreports]
    cases p.step.2 <;> rfl

/-- Reports are made at the multiples of the interval. -/
theorem calls_eq : ∀ (n : Nat) (p : Progress),
    calls n p = ((List.range' (p.processed + 1) n).filter (p.interval ∣ ·)).map
      fun i => (i, Fraction.part i p.total)
  | 0, _ => rfl
  | n + 1, p => by
    have ih := calls_eq n p.step.1
    rw [interval_step, processed_step, total_step] at ih
    rw [calls, ih, report_step, processed_step, List.range'_succ, List.filter_cons]
    by_cases h : p.interval ∣ p.processed + 1
    · rw [if_pos h, if_pos (decide_eq_true h)]
      rfl
    · rw [if_neg h, if_neg (by simpa using h)]
      rfl

/-- Marking units as done reports the fractions at the multiples of the interval. -/
theorem reports_advance (n : Nat) (p : Progress) :
    (advance n p).2 = ((List.range' (p.processed + 1) n).filter (p.interval ∣ ·)).map
      (Fraction.part · p.total) := by
  rw [← map_snd_calls, calls_eq, List.map_map]
  rfl

/-- The last report of a run is made at the last multiple of the interval. -/
theorem getLast?_reports_start (n : Nat) :
    ((start n).advance n).2.getLast? = if n = 0 then none else
      some (.part ((start n).interval * (n / (start n).interval)) n) := by
  have hinterval : n / (start n).interval = 0 ↔ n = 0 := by
    rw [Nat.div_eq_zero_iff]
    have : (start n).interval = max (n / 100) 1 := rfl
    omega
  rw [reports_advance, List.getLast?_map]
  refine (congrArg _ (getLast?_multiples ..)).trans ?_
  by_cases h : n = 0
  · rw [if_pos (hinterval.2 h), if_pos h]
    rfl
  · rw [if_neg (mt hinterval.1 h), if_neg h]
    rfl

end Progress

namespace Level

open Progress

/-- The interval between the reports of the recovery of a level. -/
def reportInterval (level : Level) : Nat :=
  (start level.workUnits).interval

theorem getLast?_reports (level : Level) (settings : Settings) :
    (level.recover settings).reports.getLast? = if level.workUnits = 0 then none else
      some (.part (level.reportInterval * (level.workUnits / level.reportInterval))
        level.workUnits) := by
  have hreports : (level.recover settings).reports =
      ((start level.workUnits).advance level.workUnits).2 :=
    congrArg Prod.snd (progress_recover level settings)
  rw [hreports, getLast?_reports_start]
  rfl

/-- The last report of a recovery is made at the last multiple of the interval. So it says
that everything is done exactly if there is work and the interval divides its units, and if
there is work, it says that more than ninety-nine hundredths of it are done. -/
theorem getLast?_reports_recover (level : Level) (settings : Settings) :
    let units := level.workUnits
    let reported := level.reportInterval * (units / level.reportInterval)
    (level.recover settings).reports.getLast? =
        (if units = 0 then none else some (.part reported units)) ∧
      ((level.recover settings).reports.getLast? = some (.part units units) ↔
        0 < units ∧ level.reportInterval ∣ units) ∧
      (0 < units → 99 * units < 100 * reported) := by
  intro units reported
  have hinterval : level.reportInterval = max (units / 100) 1 := rfl
  have hrest : reported + units % level.reportInterval = units := Nat.div_add_mod ..
  refine ⟨getLast?_reports level settings, ?_, fun hunits => ?_⟩
  · rw [getLast?_reports]
    by_cases hunits : units = 0
    · rw [if_pos hunits, hunits]
      simp
    · have hpos : 0 < units := Nat.pos_of_ne_zero hunits
      have hle : reported ≤ units := Nat.mul_div_le ..
      rw [if_neg hunits, Option.some.injEq, Fraction.part_inj hpos hle le_rfl,
        and_iff_right hpos]
      exact ⟨fun h => h ▸ Nat.dvd_mul_right .., Nat.mul_div_cancel'⟩
  · have hlt : units % level.reportInterval < level.reportInterval :=
      Nat.mod_lt _ (by omega)
    omega

/-- A level of entities with nothing in them. -/
def crowd (n : Nat) : Level where
  entities := .replicate n .empty

theorem workUnits_crowd (n : Nat) : (crowd n).workUnits = n := by
  have hentity : (crowd n).entityUnits .empty = 0 := rfl
  have hentities : (crowd n).entities.toList = List.replicate n .empty := Array.toList_replicate
  have hsize : (crowd n).entities.size = n := Array.size_replicate
  rw [workUnits, ← List.sum_eq_foldr, hentities, hsize, List.map_replicate, hentity,
    List.sum_replicate, smul_zero]
  rfl

/-- Of 201 units the last report is made after 200. -/
theorem getLast?_reports_crowd :
    (crowd 201).workUnits = 201 ∧
    ((crowd 201).recover {}).reports.getLast? = some ⟨200, 201⟩ ∧
    ((crowd 201).recover {}).reports.getLast? ≠
      some (.part (crowd 201).workUnits (crowd 201).workUnits) := by
  have hunits : (crowd 201).workUnits = 201 := workUnits_crowd 201
  have hreported : ((crowd 201).recover {}).reports.getLast? = some ⟨200, 201⟩ := by
    rw [getLast?_reports, reportInterval, hunits]
    rfl
  refine ⟨hunits, hreported, ?_⟩
  rw [hreported, hunits]
  decide

end Level

end Brushwork
