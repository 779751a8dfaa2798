import EspLab.Lib.Transition
import Mathlib.Algebra.Order.Ring.Int
import Mathlib.Data.Fintype.Card

/-!
# Counting to a limit with a test outside the increment

Each of finitely many tasks runs `while (value < limit) add 1`, where the test and the
addition are two atomic steps. Between them other tasks can step, so the counter can pass
the limit, but each task adds at most one beyond it.

* `bounded_of_reach`: the counter and the additions still owed stay below `limit + T - 1`
  for `T` tasks.
* `mem_outcomes`: the values with which all tasks can exit are exactly
  `limit, …, limit + T - 1`.
-/

namespace EspLab
namespace TestAndAdd

open Transition

/-- Where a task is in its loop. -/
inductive Pc
  /-- before the test -/
  | testing
  /-- past the test, before the addition -/
  | adding
  /-- out of the loop -/
  | exited
deriving DecidableEq

/-- The counter and where each task is. -/
@[ext] structure State (τ : Type*) where
  value : ℤ
  pc : τ → Pc

variable {τ : Type*} [DecidableEq τ]

/-- Task `t` moved to `c`. -/
def State.goto (s : State τ) (t : τ) (c : Pc) : State τ :=
  { s with pc := Function.update s.pc t c }

@[simp] lemma goto_self (s : State τ) (t : τ) (c : Pc) : (s.goto t c).pc t = c :=
  Function.update_self ..

@[simp] lemma goto_of_ne (s : State τ) {t u : τ} (c : Pc) (hu : u ≠ t) :
    (s.goto t c).pc u = s.pc u := Function.update_of_ne hu ..

/-- One step of task `t`. -/
def step (limit : ℤ) (s : State τ) (t : τ) : Option (State τ) :=
  match s.pc t with
  | .testing => some (s.goto t (if s.value < limit then .adding else .exited))
  | .adding => some { s.goto t .testing with value := s.value + 1 }
  | .exited => none

/-- All tasks are before their test. -/
def State.ready (value : ℤ) : State τ := ⟨value, fun _ => .testing⟩

/-- What a task can do. -/
inductive Step (limit : ℤ) (s : State τ) (t : τ) : State τ → Prop
  | enter : s.pc t = .testing → s.value < limit → Step limit s t (s.goto t .adding)
  | exit : s.pc t = .testing → limit ≤ s.value → Step limit s t (s.goto t .exited)
  | add : s.pc t = .adding → Step limit s t { s.goto t .testing with value := s.value + 1 }

theorem step_cases {limit : ℤ} {s s' : State τ} {t : τ} (h : step limit s t = some s') :
    Step limit s t s' := by
  unfold step at h
  split at h
  · next hpc =>
    cases h
    split
    · next hlt => exact .enter hpc hlt
    · next hlt => exact .exit hpc (Int.not_lt.mp hlt)
  · next hpc =>
    cases h
    exact .add hpc
  · cases h

/-! ## How far the counter can get -/

section Bound

variable [Fintype τ]

/-- The number of tasks past their test. -/
def State.owed (s : State τ) : ℕ := (Finset.univ.filter fun t => s.pc t = .adding).card

omit [DecidableEq τ] in
lemma owed_ready (v : ℤ) : (State.ready v : State τ).owed = 0 := by
  simp [State.owed, State.ready]

lemma owed_goto_adding {s : State τ} {t : τ} (ht : s.pc t ≠ .adding) :
    (s.goto t .adding).owed = s.owed + 1 := by
  have hfilter : (Finset.univ.filter fun u => (s.goto t .adding).pc u = .adding) =
      insert t (Finset.univ.filter fun u => s.pc u = .adding) := by
    ext u
    by_cases hu : u = t
    · simp [hu]
    · simp [hu]
  rw [State.owed, hfilter, Finset.card_insert_of_notMem (by simp [ht]), State.owed]

lemma owed_goto_of_ne {s : State τ} {t : τ} {c : Pc} (hc : c ≠ .adding)
    (ht : s.pc t ≠ .adding) : (s.goto t c).owed = s.owed := by
  have hpc : ∀ u, (s.goto t c).pc u = .adding ↔ s.pc u = .adding := by
    intro u
    by_cases hu : u = t
    · simp [hu, hc, ht]
    · simp [hu]
  simp only [State.owed, hpc]

lemma owed_goto_of_adding {s : State τ} {t : τ} {c : Pc} (hc : c ≠ .adding)
    (ht : s.pc t = .adding) : (s.goto t c).owed + 1 = s.owed := by
  have hback : (s.goto t c).goto t .adding = s := by
    ext u
    · rfl
    · by_cases hu : u = t
      · simp [State.goto, hu, ht]
      · simp [State.goto, hu]
  have hne : (s.goto t c).pc t ≠ .adding := by rwa [goto_self]
  rw [← owed_goto_adding hne, hback]

omit [DecidableEq τ] in
lemma owed_lt_card {s : State τ} {t : τ} (ht : s.pc t ≠ .adding) :
    s.owed < Fintype.card τ := by
  apply Finset.card_lt_univ_of_notMem (x := t)
  simp [ht]

/-- The counter and the additions owed stay below the limit plus the number of tasks, and
a task exits only at or above the limit. -/
def Bounded (limit : ℤ) (s : State τ) : Prop :=
  s.value + s.owed ≤ limit + Fintype.card τ - 1 ∧ ∀ t, s.pc t = .exited → limit ≤ s.value

/-- **Step lemma.** A task that passes its test finds the counter below the limit, and at
most the other tasks owe an addition. -/
lemma bounded_step {limit : ℤ} {s s' : State τ} {t : τ} (h : Bounded limit s)
    (hs : step limit s t = some s') : Bounded limit s' := by
  obtain ⟨hle, hexit⟩ := h
  cases step_cases hs with
  | enter hpc hlt =>
    have hpc' : s.pc t ≠ .adding := by simp [hpc]
    have howed := owed_goto_adding hpc'
    have hcard := owed_lt_card hpc'
    constructor
    · show s.value + ((s.goto t .adding).owed : ℤ) ≤ _
      omega
    · intro u hu
      by_cases hut : u = t
      · simp [hut] at hu
      · exact hexit u (by simpa [hut] using hu)
  | exit hpc hle' =>
    have howed := owed_goto_of_ne (c := .exited) (by simp) (show s.pc t ≠ .adding by simp [hpc])
    constructor
    · show s.value + ((s.goto t .exited).owed : ℤ) ≤ _
      omega
    · intro _ _
      exact hle'
  | add hpc =>
    have howed := owed_goto_of_adding (c := .testing) (by simp) hpc
    constructor
    · show s.value + 1 + ((s.goto t .testing).owed : ℤ) ≤ _
      omega
    · intro u hu
      by_cases hut : u = t
      · simp [hut] at hu
      · have hexit' := hexit u (by simpa [hut] using hu)
        show limit ≤ s.value + 1
        omega

variable [Nonempty τ]

theorem bounded_of_reach {limit : ℤ} (hlimit : 1 ≤ limit) {s : State τ}
    (h : Reach (step limit) (.ready 0) s) : Bounded limit s := by
  apply h.invariant fun _ _ _ => bounded_step
  constructor
  · have hcard : 0 < Fintype.card τ := Fintype.card_pos
    rw [owed_ready]
    show (0 : ℤ) + ((0 : ℕ) : ℤ) ≤ _
    omega
  · intro t ht
    cases ht

/-- The counter never passes the limit by the number of tasks. -/
theorem value_le {limit : ℤ} (hlimit : 1 ≤ limit) {s : State τ}
    (h : Reach (step limit) (.ready 0) s) : s.value ≤ limit + Fintype.card τ - 1 := by
  have hle := (bounded_of_reach hlimit h).1
  omega

end Bound

/-! ## Schedules for every outcome -/

/-- The tasks of `S` are at `c`, the others before their test. -/
def State.mark (value : ℤ) (S : Finset τ) (c : Pc) : State τ :=
  ⟨value, fun t => if t ∈ S then c else .testing⟩

lemma mark_empty (v : ℤ) (c : Pc) : (State.mark v ∅ c : State τ) = .ready v := by
  simp [State.mark, State.ready]

lemma mark_goto {v : ℤ} {S : Finset τ} {t : τ} (c : Pc) :
    (State.mark v S c).goto t c = .mark v (insert t S) c := by
  ext u
  · rfl
  · by_cases hu : u = t
    · simp [State.mark, State.goto, hu]
    · simp [State.mark, State.goto, hu]

lemma mark_insert_goto {v : ℤ} {S : Finset τ} {t : τ} (c : Pc) (ht : t ∉ S) :
    (State.mark v (insert t S) c).goto t .testing = .mark v S c := by
  ext u
  · rfl
  · by_cases hu : u = t
    · simp [State.mark, State.goto, hu, ht]
    · simp [State.mark, State.goto, hu]

variable {limit : ℤ}

/-- Below the limit any set of tasks can pass the test. -/
lemma reach_adding {v : ℤ} (hv : v < limit) (S : Finset τ) :
    Reach (step limit) (.ready v) (.mark v S .adding) := by
  induction S using Finset.induction_on with
  | empty =>
    rw [mark_empty]
    exact .refl _
  | insert t S ht ih =>
    apply ih.tail (a := t)
    rw [← mark_goto]
    simp [step, State.mark, ht, hv]

/-- At or above the limit any set of tasks can exit. -/
lemma reach_exited {v : ℤ} (hv : limit ≤ v) (S : Finset τ) :
    Reach (step limit) (.ready v) (.mark v S .exited) := by
  induction S using Finset.induction_on with
  | empty =>
    rw [mark_empty]
    exact .refl _
  | insert t S ht ih =>
    apply ih.tail (a := t)
    rw [← mark_goto]
    simp [step, State.mark, ht, Int.not_lt.mpr hv]

/-- The tasks past the test add one each. -/
lemma reach_added (v : ℤ) (S : Finset τ) :
    Reach (step limit) (.mark v S .adding) (.ready (v + S.card)) := by
  induction S using Finset.induction_on generalizing v with
  | empty =>
    rw [mark_empty, Finset.card_empty, Nat.cast_zero, add_zero]
    exact .refl _
  | insert t S ht ih =>
    have hadd : step limit (.mark v (insert t S) .adding) t =
        some (.mark (v + 1) S .adding) := by
      have hgoto := mark_insert_goto (v := v) .adding ht
      simp only [step, State.mark, Finset.mem_insert_self, if_true] at hgoto ⊢
      rw [hgoto]
    have hcard : v + ((insert t S).card : ℤ) = v + 1 + S.card := by
      rw [Finset.card_insert_of_notMem ht]
      omega
    rw [hcard]
    exact .head hadd (ih (v + 1))

/-- Below the limit any set of tasks can add one each. -/
lemma reach_add {v : ℤ} (hv : v < limit) (S : Finset τ) :
    Reach (step limit) (.ready v : State τ) (.ready (v + S.card)) :=
  (reach_adding hv S).trans (reach_added v S)

/-- One task alone counts up to the limit. -/
lemma reach_ready (t : τ) (n : ℕ) (hn : n ≤ limit) :
    Reach (step limit) (.ready 0) (.ready n : State τ) := by
  induction n with
  | zero => exact .refl _
  | succ n ih =>
    have hadd := reach_add (v := n) (show (n : ℤ) < limit by omega) {t}
    rw [Finset.card_singleton] at hadd
    exact (ih (by omega)).trans hadd

/-- The values with which all tasks can exit when the counter starts at zero. -/
def outcomes (τ : Type*) [DecidableEq τ] (limit : ℤ) : Set ℤ :=
  {v | ∃ s : State τ, Reach (step limit) (.ready 0) s ∧ (∀ t, s.pc t = .exited) ∧ s.value = v}

/-- **Exactness.** The values with which all tasks can exit are the limit and the values
above it, up to one addition for each further task. -/
theorem mem_outcomes [Fintype τ] [Nonempty τ] (hlimit : 1 ≤ limit) {v : ℤ} :
    v ∈ outcomes τ limit ↔ limit ≤ v ∧ v ≤ limit + Fintype.card τ - 1 := by
  obtain ⟨t₀⟩ := ‹Nonempty τ›
  constructor
  · rintro ⟨s, hs, hall, rfl⟩
    exact ⟨(bounded_of_reach hlimit hs).2 t₀ (hall t₀), value_le hlimit hs⟩
  · rintro ⟨hlo, hhi⟩
    -- one task counts to `limit - 1`, then as many tasks as are needed pass the test there
    obtain ⟨n, hn⟩ := Int.eq_ofNat_of_zero_le (show 0 ≤ limit - 1 by omega)
    obtain ⟨k, hk⟩ := Int.eq_ofNat_of_zero_le (show 0 ≤ v - (limit - 1) by omega)
    obtain ⟨S, -, hS⟩ := Finset.exists_subset_card_eq
      (show k ≤ (Finset.univ : Finset τ).card by rw [Finset.card_univ]; omega)
    have hv : (n : ℤ) + S.card = v := by omega
    have hcount := reach_ready t₀ n (show (n : ℤ) ≤ limit by omega)
    have hover := reach_add (show (n : ℤ) < limit by omega) S
    rw [hv] at hover
    have hexit := reach_exited hlo (Finset.univ : Finset τ)
    exact ⟨_, hcount.trans (hover.trans hexit), by simp [State.mark], rfl⟩

end TestAndAdd
end EspLab
