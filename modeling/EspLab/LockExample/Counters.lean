import EspLab.LockExample.Guards
import EspLab.Lib.TestAndAdd
import Mathlib

/-!
# The lock example: the three counters are equivalent

The tasks of one kind all run a loop that tests the counter outside its lock. Whatever
protects the increment, the kind behaves as the abstract `TestAndAdd` loop:

* every run is matched by an abstract run, in which the write of `s_global_num++` is the
  addition and all other steps inside the section stutter;
* every abstract run is matched by a run in which a task that adds goes through its whole
  section at once.

So the three kinds lose no increment and can end with the same values.
-/

namespace EspLab
namespace LockExample

open Transition Rtos

variable {τ : Type*} [DecidableEq τ] {limit : ℤ}

/-! ## Every run is an abstract run -/

/-- The place of a worker in the abstract loop: it owes an addition from its test to its
write. -/
def Pc.stage : Pc → TestAndAdd.Pc
  | .test | .give | .logSet => .testing
  | .take | .logRead | .load | .store _ | .add => .adding
  | .absent | .deleted => .exited

/-- The abstract state with counter `v` and the workers where `pc` has them. -/
def view (v : ℤ) (pc : τ → Pc) : TestAndAdd.State τ := ⟨v, fun t => (pc t).stage⟩

section View

variable {v : ℤ} {pc : τ → Pc} {t : τ} {c : Pc}

lemma view_update (v : ℤ) (pc : τ → Pc) (t : τ) (c : Pc) :
    view v (Function.update pc t c) = (view v pc).goto t c.stage := by
  ext u
  · rfl
  · exact Function.apply_update (fun _ => Pc.stage) pc t c u

lemma view_update_of_stage (hc : c.stage = (pc t).stage) :
    view v (Function.update pc t c) = view v pc := by
  rw [view_update, hc]
  ext u
  · rfl
  · exact congrFun (Function.update_eq_self t fun u => (pc u).stage) u

lemma reach_loop (hpc : pc t = .test) (hv : v < limit) (hc : c.stage = .adding) :
    Reach (TestAndAdd.step limit) (view v pc) (view v (Function.update pc t c)) := by
  apply Reach.single (a := t)
  rw [view_update, hc]
  simp [TestAndAdd.step, view, hpc, Pc.stage, hv]

lemma reach_exit (hpc : pc t = .test) (hv : limit ≤ v) :
    Reach (TestAndAdd.step limit) (view v pc) (view v (Function.update pc t .deleted)) := by
  apply Reach.single (a := t)
  rw [view_update]
  simp [TestAndAdd.step, view, hpc, Pc.stage, Int.not_lt.mpr hv]

lemma reach_add (hpc : (pc t).stage = .adding) (hc : c.stage = .testing) :
    Reach (TestAndAdd.step limit) (view v pc) (view (v + 1) (Function.update pc t c)) := by
  apply Reach.single (a := t)
  rw [view_update, hc]
  simp [TestAndAdd.step, view, hpc, TestAndAdd.State.goto]

end View

/-- A step under a lock is a step of the abstract loop, or none. -/
lemma view_lockedIter {l : Lock} {n : ℤ} {s s' : State τ} {t : τ} (h : Guards l n s)
    (hs : lockedIter l limit s t = some s') :
    Reach (TestAndAdd.step limit) (view s.sGlobalNum s.pc) (view s'.sGlobalNum s'.pc) := by
  rcases lockedIter_cases hs with
    ⟨hpc, hlt⟩ | ⟨hpc, hle⟩ | ⟨hpc, htake⟩ | hpc | hpc | hpc
  · exact reach_loop hpc hlt rfl
  · exact reach_exit hpc hle
  · rcases take_eq_some.mp htake with ⟨m, -, rfl⟩
    show Reach _ _ (view s.sGlobalNum (Function.update s.pc t .load))
    rw [view_update_of_stage (by rw [hpc]; rfl)]
    exact .refl _
  · show Reach _ _ (view s.sGlobalNum (Function.update s.pc t (.store s.sGlobalNum)))
    rw [view_update_of_stage (by rw [hpc]; rfl)]
    exact .refl _
  · -- the value that was read is still the current one
    have htmp := h.fresh hpc
    subst htmp
    exact reach_add (by rw [hpc]; rfl) rfl
  · show Reach _ _ (view s.sGlobalNum (Function.update s.pc t .test))
    rw [view_update_of_stage (by rw [hpc]; rfl)]
    exact .refl _

lemma view_incNumAtomicIter {s s' : State τ} {t : τ}
    (hs : incNumAtomicIter limit s t = some s') :
    Reach (TestAndAdd.step limit) (view s.sAtomicGlobalNum s.pc)
      (view s'.sAtomicGlobalNum s'.pc) := by
  rcases incNumAtomicIter_cases hs with ⟨hpc, hlt⟩ | ⟨hpc, hle⟩ | hpc
  · exact reach_loop hpc hlt rfl
  · exact reach_exit hpc hle
  · exact reach_add (by rw [hpc]; rfl) rfl

/-- Counter `c` has lost no increment, and its lock guards it. -/
def Counts : Counter → State τ → Prop
  | .mutex, s => Guards .sMutex 0 s
  | .spinlock, s => Guards .sSpinlock 0 s
  | .atomic, s => s.sAtomicGlobalNum = s.atomicIncrements

omit [DecidableEq τ] in
lemma counts_ready (c : Counter) : Counts c (ready 0 : State τ) := by
  cases c with
  | mutex => exact Guards.ready .sMutex 0
  | spinlock => exact Guards.ready .sSpinlock 0
  | atomic => rfl

omit [DecidableEq τ] in
lemma Counts.counter_eq {c : Counter} {s : State τ} (h : Counts c s) :
    s.counter c = s.completed c := by
  cases c with
  | mutex | spinlock => exact h.count.trans (Int.zero_add _)
  | atomic => exact h

/-- **Step lemma.** A step keeps the count, and is a step of the abstract loop or none. -/
lemma counts_step {c : Counter} {s s' : State τ} {t : τ} (h : Counts c s)
    (hs : incNumIter limit c s t = some s') :
    Counts c s' ∧
      Reach (TestAndAdd.step limit) (view (s.counter c) s.pc) (view (s'.counter c) s'.pc) := by
  cases c with
  | mutex | spinlock => exact ⟨Guards.lockedIter h hs, view_lockedIter h hs⟩
  | atomic =>
    refine ⟨?_, view_incNumAtomicIter hs⟩
    have hcount : s.sAtomicGlobalNum = s.atomicIncrements := h
    rcases incNumAtomicIter_cases hs with ⟨_, _⟩ | ⟨_, _⟩ | _
    · exact hcount
    · exact hcount
    · show s.sAtomicGlobalNum + 1 = ((s.atomicIncrements + 1 : ℕ) : ℤ)
      omega

/-- **Run lemma.** -/
lemma counts_of_reach {c : Counter} {s : State τ}
    (h : Reach (incNumIter limit c) (ready 0) s) :
    Counts c s ∧ Reach (TestAndAdd.step limit) (.ready 0) (view (s.counter c) s.pc) := by
  apply h.invariant (I := fun u => Counts c u ∧
    Reach (TestAndAdd.step limit) (.ready 0) (view (u.counter c) u.pc))
  · intro u t u' ⟨hcounts, hreach⟩ hu
    have hnext := counts_step hcounts hu
    exact ⟨hnext.1, hreach.trans hnext.2⟩
  · refine ⟨counts_ready c, ?_⟩
    cases c <;> exact .refl _

/-! ## Every abstract run is a run -/

/-- Where a counting task is between two sections. -/
def Counter.place : Counter → TestAndAdd.Pc → Pc
  | _, .testing => .test
  | .atomic, .adding => .add
  | _, .adding => .take
  | _, .exited => .deleted

/-- No task is in its section, and the tasks and the counter are where `x` has them. -/
structure Mirrors (c : Counter) (x : TestAndAdd.State τ) (s : State τ) : Prop where
  pc : ∀ t, s.pc t = c.place (x.pc t)
  value : s.counter c = x.value
  free : ∀ l, (s.lock l).holder = none

lemma Mirrors.goto {c : Counter} {x : TestAndAdd.State τ} {s s' : State τ} {t : τ}
    (h : Mirrors c x s) {p : TestAndAdd.Pc} {v : ℤ}
    (hpc : s'.pc = Function.update s.pc t (c.place p)) (hv : s'.counter c = v)
    (hfree : s'.lock = s.lock) : Mirrors c { x.goto t p with value := v } s' where
  pc u := by
    rw [hpc]
    by_cases hu : u = t
    · rw [hu, Function.update_self]
      exact congrArg c.place (TestAndAdd.goto_self x t p).symm
    · rw [Function.update_of_ne hu, h.pc u]
      exact congrArg c.place (TestAndAdd.goto_of_ne x p hu).symm
  value := hv
  free l := by rw [hfree]; exact h.free l

/-- A task past its test can go through its section alone. -/
lemma reach_section (limit : ℤ) {l : Lock} {s : State τ} {t : τ} (hpc : s.pc t = .take)
    (hfree : (s.lock l).holder = none) :
    ∃ s', Reach (lockedIter l limit) s s' ∧ s'.pc = Function.update s.pc t .test ∧
      s'.sGlobalNum = s.sGlobalNum + 1 ∧ s'.lock = s.lock := by
  let s₁ : State τ := { s.goto t .load with lock := Function.update s.lock l ⟨some t⟩ }
  let s₂ := s₁.load t
  let s₃ := s₂.store t s.sGlobalNum
  let s₄ := s₃.give l t .test
  have htake : s.take l t .load = some s₁ :=
    take_eq_some.mpr ⟨_, Mutex.take_eq_some.mpr ⟨hfree, rfl⟩, rfl⟩
  have h₁ : lockedIter l limit s t = some s₁ := by simp only [lockedIter, hpc, htake]
  have h₂ : lockedIter l limit s₁ t = some s₂ := by simp [lockedIter, s₁, s₂]
  have h₃ : lockedIter l limit s₂ t = some s₃ := by simp [lockedIter, s₁, s₂, s₃, State.goto]
  have h₄ : lockedIter l limit s₃ t = some s₄ := by simp [lockedIter, s₃, s₄]
  refine ⟨s₄, .head h₁ (.head h₂ (.head h₃ (.single h₄))), ?_, rfl, ?_⟩
  · simp [s₁, s₂, s₃, s₄]
  · funext l'
    have hlock : s.lock l = ⟨none⟩ := by rw [← hfree]
    by_cases hl : l' = l
    · simp [s₁, s₂, s₃, s₄, State.give, State.store, State.load, State.goto, Mutex.give, hl, hlock]
    · simp [s₁, s₂, s₃, s₄, State.give, State.store, State.load, State.goto, hl]

/-- A test of the counter sends the task where the abstract test does. -/
lemma incNumIter_test (limit : ℤ) (c : Counter) {s : State τ} {t : τ} (hpc : s.pc t = .test) :
    incNumIter limit c s t =
      some (s.goto t (c.place (if s.counter c < limit then .adding else .exited))) := by
  cases c with
  | mutex | spinlock =>
    by_cases hlt : s.sGlobalNum < limit <;>
      simp [incNumIter, incNumMutexIter, incNumSpinlockIter, lockedIter, hpc, Counter.place,
        State.counter, hlt]
  | atomic =>
    by_cases hlt : s.sAtomicGlobalNum < limit <;>
      simp [incNumIter, incNumAtomicIter, hpc, Counter.place, State.counter, hlt]

/-- **Step lemma.** Every abstract step is a run of the counting tasks. -/
lemma mirrors_step {c : Counter} {x x' : TestAndAdd.State τ} {s : State τ} {t : τ}
    (h : Mirrors c x s) (hx : TestAndAdd.step limit x t = some x') :
    ∃ s', Reach (incNumIter limit c) s s' ∧ Mirrors c x' s' := by
  have hpc := h.pc t
  have hval := h.value
  rcases TestAndAdd.step_cases hx with ⟨hxt, hlt⟩ | ⟨hxt, hle⟩ | hxt
  · rw [hxt] at hpc
    have hstep := incNumIter_test limit c (show s.pc t = .test from hpc)
    rw [hval, if_pos hlt] at hstep
    exact ⟨_, .single hstep, h.goto rfl hval rfl⟩
  · rw [hxt] at hpc
    have hstep := incNumIter_test limit c (show s.pc t = .test from hpc)
    rw [hval, if_neg (Int.not_lt.mpr hle)] at hstep
    exact ⟨_, .single hstep, h.goto rfl hval rfl⟩
  · rw [hxt] at hpc
    cases c with
    | mutex | spinlock =>
      obtain ⟨s', hs', hpc', hnum, hlock⟩ := reach_section limit hpc (h.free _)
      exact ⟨s', hs', h.goto hpc' (hnum.trans (congrArg (· + 1) hval)) hlock⟩
    | atomic =>
      have hstep : incNumAtomicIter limit s t = some (s.fetchAdd t) := by
        simp [incNumAtomicIter, show s.pc t = .add from hpc]
      exact ⟨_, .single hstep, h.goto rfl (congrArg (· + 1) hval) rfl⟩

/-! ## The outcomes -/

/-- The values with which all tasks of a kind can exit when they start at counter 0. -/
def outcomes (τ : Type*) [DecidableEq τ] (limit : ℤ) (c : Counter) : Set ℤ :=
  {v | ∃ s : State τ, Reach (incNumIter limit c) (ready 0) s ∧
    (∀ t, s.pc t = .deleted) ∧ s.counter c = v}

/-- The three kinds refine the abstract loop, and it them. -/
lemma outcomes_eq (c : Counter) : outcomes τ limit c = TestAndAdd.outcomes τ limit := by
  ext v
  apply Iff.intro
  · intro ⟨s, hs, hall, hv⟩
    refine ⟨_, (counts_of_reach hs).2, ?_, hv⟩
    intro t
    show (s.pc t).stage = .exited
    rw [hall t]
    rfl
  · intro ⟨x, hx, hall, hv⟩
    have hready : Mirrors c (.ready 0) (ready 0 : State τ) := by
      cases c <;> exact ⟨fun _ => rfl, rfl, fun _ => rfl⟩
    obtain ⟨s, hs, hmirror⟩ :=
      Reach.simulate (R := fun x s => Mirrors c x s) (fun _ _ _ _ => mirrors_step) hready hx
    refine ⟨s, hs, ?_, hmirror.value.trans hv⟩
    intro t
    rw [hmirror.pc t, hall t]
    cases c <;> rfl

/-- **The counters are equivalent.** Whichever of the three kinds of tasks run, the counter is
the number of completed increments and stays below the limit plus the number of tasks, and
the values with which all tasks can exit are the same. -/
theorem counters_equivalent (τ : Type*) [DecidableEq τ] [Fintype τ] [Nonempty τ] (limit : ℤ)
    (hlimit : 1 ≤ limit) :
    (∀ (c : Counter) (s : State τ), Reach (incNumIter limit c) (ready 0) s →
      s.counter c = s.completed c ∧ s.counter c ≤ limit + Fintype.card τ - 1) ∧
    ∀ c : Counter, outcomes τ limit c = Set.Icc limit (limit + Fintype.card τ - 1) := by
  apply And.intro
  · intro c s hs
    have hcounts := counts_of_reach hs
    exact ⟨hcounts.1.counter_eq, TestAndAdd.value_le hlimit hcounts.2⟩
  · intro c
    ext v
    rw [outcomes_eq, TestAndAdd.mem_outcomes hlimit, Set.mem_Icc]

/-- Two tasks that count to three. -/
theorem counters_equivalent_two :
    (∀ (c : Counter) (s : State (Fin 2)), Reach (incNumIter 3 c) (ready 0) s →
      s.counter c = s.completed c ∧ s.counter c ≤ 3 + Fintype.card (Fin 2) - 1) ∧
    ∀ c : Counter, outcomes (Fin 2) 3 c = Set.Icc (3 : ℤ) (3 + Fintype.card (Fin 2) - 1) :=
  counters_equivalent (Fin 2) 3 (by decide)

end LockExample
end EspLab
