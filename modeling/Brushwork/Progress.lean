import Brushwork.Number.Scalar
import Brushwork.Number.Shortest

/-!
# Progress

Work is counted in units of a total that is known in advance. A report is made about every
hundredth of the total : whenever the number of units done is a multiple of a hundredth of
it, rounded down but at least one. Fractions are exact quotients, turned into
floating-point numbers only where they are shown.
-/

namespace Brushwork

/-- A fraction of the work. -/
structure Fraction where
  num : Nat
  den : Nat
  deriving DecidableEq, Repr

namespace Fraction

/-- Nothing. -/
def zero : Fraction := ⟨0, 1⟩

/-- The part that `done` units are of a total, never more than all of it; everything if
the total is zero. -/
def part (done total : Nat) : Fraction :=
  if total = 0 then ⟨1, 1⟩ else ⟨min done total, total⟩

/-- The fraction as a floating-point quotient. -/
def toFloat (f : Fraction) : Float :=
  Scalar.ofNat f.num / Scalar.ofNat f.den

end Fraction

/-- How much work is done. -/
structure Progress where
  total : Nat
  processed : Nat
  /-- The fraction that was reported last. -/
  fraction : Fraction
  deriving DecidableEq, Repr

namespace Progress

/-- No work is done of a total. -/
def start (total : Nat) : Progress :=
  ⟨total, 0, .zero⟩

/-- The number of units from one report to the next. -/
def interval (p : Progress) : Nat :=
  max (p.total / 100) 1

/-- Mark a unit as done, with the fraction that is reported on it, if any. -/
def step (p : Progress) : Progress × Option Fraction :=
  let processed := p.processed + 1
  if processed % p.interval = 0 then
    let fraction := Fraction.part processed p.total
    (⟨p.total, processed, fraction⟩, some fraction)
  else (⟨p.total, processed, p.fraction⟩, none)

/-- Mark units as done, with the fractions that are reported on them. -/
def advance : Nat → Progress → Progress × List Fraction
  | 0, p => (p, [])
  | n + 1, p =>
    let (next, report) := p.step
    let (last, reports) := advance n next
    (last, report.toList ++ reports)

@[simp] theorem total_step (p : Progress) : p.step.1.total = p.total := by
  unfold step
  dsimp only
  split <;> rfl

@[simp] theorem processed_step (p : Progress) : p.step.1.processed = p.processed + 1 := by
  unfold step
  dsimp only
  split <;> rfl

@[simp] theorem total_advance : ∀ (n : Nat) (p : Progress), (advance n p).1.total = p.total
  | 0, _ => rfl
  | n + 1, p => (total_advance n p.step.1).trans p.total_step

@[simp] theorem processed_advance :
    ∀ (n : Nat) (p : Progress), (advance n p).1.processed = p.processed + n
  | 0, _ => rfl
  | n + 1, p => by
    have h : (advance (n + 1) p).1.processed = p.step.1.processed + n :=
      processed_advance n p.step.1
    rw [h, processed_step]
    omega

/-- The state of the work in words. -/
def summary (p : Progress) : String :=
  "ProgressReporter \x7b total: " ++ p.total.repr ++ ", processed: " ++ p.processed.repr
    ++ ", fraction: " ++ doubleText p.fraction.toFloat ++ ", .. \x7d"

end Progress

end Brushwork
