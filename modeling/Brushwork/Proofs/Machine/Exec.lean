import Brushwork.Proofs.Machine.Word
import Brushwork.Proofs.Session

/-!
# Programs of a machine

A program of a machine has a session that it can read and change at every step, and may end
with a fault (`Exec`). `Ends o s n m x c` : from the session `s`, if it has room for `n` more
units of work, the program `m` ends without a fault in the value of `x`, having raised the
warnings of `x`, done `n` units of work and moved the cursor to `c`. A program that does so
from every session and leaves the cursor where it is `Takes` these units and gives `x`; it
does not look at the session for that.

Both are kept by everything that programs are put together by (`Ends.bind`, `Takes.bind`,
`takes_mapM`, `Takes.counted`, ...), so that what a program does is read off its parts.
-/

namespace Brushwork

/-! ## Sessions after programs -/

namespace Progress

theorem advance_add : ∀ (m n : Nat) (p : Progress),
    advance (m + n) p = ((advance n (advance m p).1).1,
      (advance m p).2 ++ (advance n (advance m p).1).2)
  | 0, n, p => by
    rw [Nat.zero_add]
    rfl
  | m + 1, n, p => by
    have ih := advance_add m n p.step.1
    rw [Nat.add_right_comm]
    simp only [advance, ih, List.append_assoc]

end Progress

namespace Session

variable (s : Session)

@[simp] theorem after_nil_zero : s.after [] 0 = s := by
  simp [after, Progress.advance]

@[simp] theorem after_after (ws ws' : List Warning) (m n : Nat) :
    (s.after ws m).after ws' n = s.after (ws ++ ws') (m + n) := by
  simp [after, Progress.advance_add]

@[simp] theorem processed_after (ws : List Warning) (n : Nat) :
    (s.after ws n).progress.processed = s.progress.processed + n :=
  Progress.processed_advance n s.progress

@[simp] theorem processed_moveTo (cursor : Nat) :
    (s.moveTo cursor).progress.processed = s.progress.processed :=
  rfl

@[simp] theorem moveTo_after (cursor : Nat) (ws : List Warning) (n : Nat) :
    (s.moveTo cursor).after ws n = (s.after ws n).moveTo cursor :=
  rfl

@[simp] theorem moveTo_moveTo (cursor cursor' : Nat) :
    (s.moveTo cursor).moveTo cursor' = s.moveTo cursor' :=
  rfl

theorem moveTo_cursor : s.moveTo s.cursor = s :=
  rfl

end Session

/-! ## Values with warnings, one after another -/

theorem Warned.forEach_pure {α β : Type} (f : α → β) (xs : List α) :
    forEach (fun a => pure (f a)) xs = pure (xs.map f) := by
  refine ext_parts ?_ ?_
  · rw [value_forEach]
    rfl
  · rw [warnings_forEach]
    exact List.flatMap_eq_nil_iff.2 fun _ _ => rfl

theorem Warned.forEach_cons {α β : Type} (g : β → Warned α) (b : β) (bs : List β) :
    forEach g (b :: bs) = g b >>= fun a => forEach g bs >>= fun as => pure (a :: as) := by
  simp [forEach, Bind.bind]

namespace Machine

/-- A program of a machine : it has a session, and may end with a fault. -/
abbrev Exec := StateT Session Checked

/-! ## Instructions -/

/-- Raise a warning. -/
def warn (w : Warning) : Exec Unit :=
  modify fun s => { s with warnings := s.warnings ++ [w] }

/-- Go on with a value, having raised the warnings on the way to it. -/
def log {α : Type} (x : Warned α) : Exec α := do
  modify fun s => { s with warnings := s.warnings ++ x.warnings }
  return x.value

/-- Mark a unit as done, with the fraction that is reported on it, if any. -/
def stepProgress (overflow : Overflow) (p : Progress) : Checked (Progress × Option Fraction) := do
  let processed ← count overflow p.processed 1
  let past ← rem processed p.interval
  if past = 0 then
    let fraction := Fraction.part processed p.total
    return (⟨p.total, processed, fraction⟩, some fraction)
  else
    return (⟨p.total, processed, p.fraction⟩, none)

/-- Mark a unit of work as done, and report the progress if it is due. -/
def step (overflow : Overflow) : Exec Unit := do
  let s ← get
  let (progress, report) ← stepProgress overflow s.progress
  set { s with progress := progress, reports := s.reports ++ report.toList }

/-- A program that is a unit of work. -/
def counted {α : Type} (overflow : Overflow) (m : Exec α) : Exec α := do
  let a ← m
  step overflow
  return a

/-! ## What a program does to a session -/

/-- The session has room for more units of work, where the machine stops at large counts. -/
def Room (overflow : Overflow) (s : Session) (units : Nat) : Prop :=
  overflow = .stops → s.progress.processed + units < wordSize

/-- With the cursor moved to `cursor`, some warnings and units of work later, the session `s`
has become `t`. Of the progress this says nothing if the count of work is no word. -/
structure Reaches (s : Session) (cursor : Nat) (warnings : List Warning) (units : Nat)
    (t : Session) : Prop where
  cursor_eq : t.cursor = cursor
  warnings_eq : t.warnings = s.warnings ++ warnings
  eq_after : s.progress.processed + units < wordSize →
    t = (s.after warnings units).moveTo cursor

variable {overflow : Overflow} {s t u : Session} {cursor next units more : Nat}
  {ws ws' : List Warning}

theorem reaches_refl (s : Session) : Reaches s s.cursor [] 0 s where
  cursor_eq := rfl
  warnings_eq := (List.append_nil _).symm
  eq_after _ := by rw [Session.after_nil_zero, Session.moveTo_cursor]

theorem Reaches.trans (hst : Reaches s cursor ws units t) (htu : Reaches t next ws' more u) :
    Reaches s next (ws ++ ws') (units + more) u where
  cursor_eq := htu.cursor_eq
  warnings_eq := by rw [htu.warnings_eq, hst.warnings_eq, List.append_assoc]
  eq_after h := by
    have ht := hst.eq_after (by omega)
    have hroom : t.progress.processed + more < wordSize := by
      rw [ht, Session.processed_moveTo, Session.processed_after]
      omega
    rw [htu.eq_after hroom, ht, Session.moveTo_after, Session.moveTo_moveTo,
      Session.after_after]

theorem Room.left (h : Room overflow s (units + more)) : Room overflow s units := by
  intro hstops
  have := h hstops
  omega

/-- What room is left after some units of work. -/
theorem Room.right (h : Room overflow s (units + more)) (hst : Reaches s cursor ws units t) :
    Room overflow t more := by
  intro hstops
  have hroom := h hstops
  rw [hst.eq_after (by omega), Session.processed_moveTo, Session.processed_after]
  omega

/-- The program ends without a fault in the value of `x`, having raised the warnings of `x`,
done the units of work, for which the session has room, and moved the cursor to a position. -/
def Ends {α : Type} (overflow : Overflow) (s : Session) (units : Nat) (m : Exec α)
    (x : Warned α) (cursor : Nat) : Prop :=
  Room overflow s units →
    ∃ t, m.run s = pure (x.value, t) ∧ Reaches s cursor x.warnings units t

/-- From every session the program ends so, and leaves the cursor where it is. -/
def Takes {α : Type} (overflow : Overflow) (units : Nat) (m : Exec α) (x : Warned α) : Prop :=
  ∀ s : Session, Ends overflow s units m x s.cursor

variable {α β γ : Type} {m : Exec α} {x : Warned α} {a n : Nat}

theorem takes_pure (a : α) : Takes overflow 0 (pure a) (pure a) :=
  fun s _ => ⟨s, rfl, reaches_refl s⟩

/-- A program goes on where another ended. -/
theorem Ends.bind {f : α → Exec β} {g : α → Warned β} (hm : Ends overflow s a m x cursor)
    (hf : ∀ t : Session, t.cursor = cursor → Ends overflow t n (f x.value) (g x.value) next) :
    Ends overflow s (a + n) (m >>= f) (x >>= g) next := by
  intro hroom
  obtain ⟨t, ht, hst⟩ := hm hroom.left
  obtain ⟨u, hu, htu⟩ := hf t hst.cursor_eq (hroom.right hst)
  exact ⟨u, by rw [StateT.run_bind, ht, pure_bind, hu]; rfl, hst.trans htu⟩

/-- A program goes on with a value, wherever the cursor has been moved to it. -/
theorem Ends.andThen {p : Exec β} {b : β} {f : β → Exec α}
    (hp : Ends overflow s 0 p (pure b) cursor) (hf : Takes overflow n (f b) x) :
    Ends overflow s n (p >>= f) x cursor := by
  have hbind : Ends overflow s (0 + n) (p >>= f) (pure b >>= fun _ => x) cursor :=
    hp.bind fun t ht => ht ▸ hf t
  rwa [Nat.zero_add, pure_bind] at hbind

theorem Takes.bind {f : α → Exec β} {g : α → Warned β} (hm : Takes overflow a m x)
    (hf : Takes overflow n (f x.value) (g x.value)) :
    Takes overflow (a + n) (m >>= f) (x >>= g) :=
  fun s => (hm s).bind fun t ht => ht ▸ hf t

/-- A program that goes on from one that is no work. -/
theorem Takes.andThen {f : α → Exec β} {g : α → Warned β} (hm : Takes overflow 0 m x)
    (hf : Takes overflow n (f x.value) (g x.value)) :
    Takes overflow n (m >>= f) (x >>= g) :=
  Nat.zero_add n ▸ hm.bind hf

/-- A program whose value is not told goes on, if it raises the warnings that are told. -/
theorem Takes.andThen_of_warnings {y : Warned β} {f : α → Exec γ} {g : β → Warned γ}
    (hm : Takes overflow 0 m x) (hwarnings : y.warnings = x.warnings)
    (hf : Takes overflow n (f x.value) (g y.value)) :
    Takes overflow n (m >>= f) (y >>= g) := by
  have hbind : y >>= g = x >>= fun _ => g y.value :=
    Warned.ext_parts rfl (by rw [Warned.warnings_bind, Warned.warnings_bind, hwarnings])
  rw [hbind]
  exact hm.andThen hf

/-- A program that ends in what it makes of the value of another. -/
theorem Ends.bind_pure (hm : Ends overflow s n m x cursor) (f : α → β) :
    Ends overflow s n (m >>= fun a => pure (f a)) (x >>= fun a => pure (f a)) cursor :=
  hm.bind (n := 0) (f := fun a => pure (f a)) (g := fun a => pure (f a)) fun t ht =>
    ht ▸ takes_pure (f x.value) t

theorem Takes.bind_pure (hm : Takes overflow n m x) (f : α → β) :
    Takes overflow n (m >>= fun a => pure (f a)) (x >>= fun a => pure (f a)) :=
  fun s => (hm s).bind_pure f

/-- A checked operation that does not fail takes nothing. -/
theorem Ends.of_checked {c : Checked β} {b : β} {f : β → Exec α} (hc : c = pure b)
    (hf : Ends overflow s n (f b) x cursor) : Ends overflow s n (liftM c >>= f) x cursor := by
  have hrun : (liftM c >>= f).run s = (f b).run s := by
    rw [hc]
    rfl
  intro hroom
  rw [hrun]
  exact hf hroom

theorem Takes.of_checked {c : Checked β} {b : β} {f : β → Exec α} (hc : c = pure b)
    (hf : Takes overflow n (f b) x) : Takes overflow n (liftM c >>= f) x :=
  fun s => .of_checked hc (hf s)

theorem takes_lift {c : Checked α} {b : α} (hc : c = pure b) :
    Takes overflow 0 (liftM c) (pure b) := by
  rw [hc]
  exact takes_pure b

theorem takes_warn (w : Warning) : Takes overflow 0 (warn w) (Warned.warn w) :=
  fun s _ => ⟨s.after [w] 0, by simp [warn, Session.after, Progress.advance],
    rfl, rfl, fun _ => rfl⟩

theorem takes_log (x : Warned α) : Takes overflow 0 (log x) x :=
  fun s _ => ⟨s.after x.warnings 0, by simp [log, Session.after, Progress.advance],
    rfl, rfl, fun _ => rfl⟩

theorem stepProgress_eq {p : Progress} (hroom : p.processed + 1 < wordSize) :
    stepProgress overflow p = pure p.step := by
  have hinterval : 0 < p.interval := Nat.lt_of_lt_of_le Nat.one_pos (Nat.le_max_right _ _)
  rw [stepProgress, count_eq fun _ => hroom, Nat.mod_eq_of_lt hroom, pure_bind,
    rem_eq hinterval, pure_bind, Progress.step]
  dsimp only
  split <;> rfl

theorem exists_stepProgress_eq {p : Progress}
    (hroom : overflow = .stops → p.processed + 1 < wordSize) :
    ∃ next, stepProgress overflow p = pure next := by
  have hinterval : 0 < p.interval := Nat.lt_of_lt_of_le Nat.one_pos (Nat.le_max_right _ _)
  rw [stepProgress, count_eq hroom, pure_bind, rem_eq hinterval, pure_bind]
  split <;> exact ⟨_, rfl⟩

theorem takes_step : Takes overflow 1 (step overflow) (pure ()) := by
  intro s hroom
  obtain ⟨⟨progress, report⟩, hstep⟩ := exists_stepProgress_eq hroom
  refine ⟨{ s with progress, reports := s.reports ++ report.toList }, ?_, rfl,
    (List.append_nil _).symm, ?_⟩
  · simp [step, hstep]
  · intro h
    have hnext : (progress, report) = s.progress.step :=
      Except.ok.inj (hstep.symm.trans (stepProgress_eq h))
    simp [Session.after, Session.moveTo, Progress.advance, ← hnext]

/-- A program that is a unit of work does one more unit. -/
theorem Ends.counted (hm : Ends overflow s n m x cursor) :
    Ends overflow s (n + 1) (counted overflow m) x cursor := by
  have hunit : x = x >>= fun a => (pure () : Warned Unit) >>= fun _ => pure a := by
    simp
  rw [hunit]
  exact hm.bind fun t ht => ht ▸ takes_step.bind_pure (fun _ => x.value) t

theorem Takes.counted (hm : Takes overflow n m x) :
    Takes overflow (n + 1) (counted overflow m) x :=
  fun s => (hm s).counted

/-- A program for every element of a list. -/
theorem takes_mapM {f : β → Exec α} {g : β → Warned α} :
    ∀ {xs : List β}, (∀ b ∈ xs, Takes overflow n (f b) (g b)) →
      Takes overflow (n * xs.length) (xs.mapM f) (Warned.forEach g xs)
  | [], _ => takes_pure []
  | b :: xs, h => by
    have hb := h b List.mem_cons_self
    have ih := takes_mapM fun c hc => h c (List.mem_cons_of_mem _ hc)
    rw [List.mapM_cons, List.length_cons, Nat.mul_succ, Nat.add_comm]
    rw [Warned.forEach_cons]
    exact hb.bind (ih.bind_pure _)

/-- A unit of work for every element of a list. -/
theorem takes_mapM_counted {f : β → Exec α} {g : β → Warned α} {xs : List β}
    (h : ∀ b ∈ xs, Takes overflow 0 (f b) (g b)) :
    Takes overflow xs.length (xs.mapM fun b => counted overflow (f b))
      (Warned.forEach g xs) := by
  have hmapM := takes_mapM fun b hb => (h b hb).counted
  rwa [Nat.zero_add, Nat.one_mul] at hmapM

/-- A program that is no work, for every element of a list. -/
theorem takes_mapM_zero {f : β → Exec α} {g : β → Warned α} {xs : List β}
    (h : ∀ b ∈ xs, Takes overflow 0 (f b) (g b)) :
    Takes overflow 0 (xs.mapM f) (Warned.forEach g xs) := by
  have hmapM := takes_mapM h
  rwa [Nat.zero_mul] at hmapM

end Machine

end Brushwork
