import EspLab.LockExample.Guards
import Mathlib.Data.Fintype.Basic

/-!
# The lock example: the log of `inc_num_mutex`

An iteration of `inc_num_mutex` prints `s_global_num` twice: before its increment, inside the
section, and again after it has given the mutex back. The second line is one above the first
only if no other task writes between the give and that line.

Any number of tasks run, with any task indices, and the counter starts at any value, as an
integer: that `s_global_num` is an `int`, which overflows at `2 ^ 31`, is left out.
-/

namespace EspLab
namespace LockExample
namespace Rounds

open Transition Rtos

variable {τ : Type*} [DecidableEq τ]

/-- A choice of the scheduler: a task runs, or the entry function sets `timed_out`. -/
inductive Action (τ : Type*)
  | task (t : τ)
  | timeOut
deriving DecidableEq

/-- One step of the tasks, which all run `inc_num_mutex`. -/
def step (taskIndex : τ → ℤ) (s : State τ) : Action τ → Option (State τ)
  | .task t => incNumMutex (taskIndex t) s t
  | .timeOut => some { s with timedOut := true }

/-- In every finished iteration the value set is one above the value read. -/
def Consistent (s : State τ) : Prop := ∀ r ∈ s.rounds, r.setValue = r.readValue + 1

/-- A task writes only while no task is between its give and its "set value" line. -/
def Logged (s : State τ) (a : Action τ) : Prop :=
  ∀ t tmp, a = .task t → s.pc t = .store tmp → ∀ u, s.pc u ≠ .logSet

variable {taskIndex : τ → ℤ} {n : ℤ} {s s' : State τ} {t u : τ}

/-- The task at this point is about to write. -/
def storing : Pc → Bool
  | .store _ => true
  | _ => false

omit [DecidableEq τ] in
lemma logged_task : Logged s (.task t) ↔ (storing (s.pc t) → ∀ u, s.pc u ≠ .logSet) := by
  constructor
  · intro h hstore
    cases hpc : s.pc t with
    | store tmp => exact h t tmp rfl hpc
    | absent | test | take | logRead | load | give | logSet | add | deleted =>
      rw [hpc] at hstore
      cases hstore
  · intro h _ tmp ht hpc
    cases ht
    exact h (by rw [hpc]; rfl)

instance [Fintype τ] (s : State τ) : (a : Action τ) → Decidable (Logged s a)
  | .task _ => decidable_of_iff _ logged_task.symm
  | .timeOut => isTrue nofun

/-! ## What a task has printed -/

/-- How far the counter is above the value a task has printed in this iteration. -/
def shift : Pc → Option ℤ
  | .load | .store _ => some 0
  | .give | .logSet => some 1
  | _ => none

lemma inside_or_logSet {c : Pc} {k : ℤ} (h : shift c = some k) :
    c.phase ≠ .outside ∨ c = .logSet := by
  cases c with
  | load | store | give => exact .inl (by simp [Pc.phase])
  | logSet => exact .inr rfl
  | absent | test | take | logRead | add | deleted => cases h

/-- The mutex guards the counter, every task past its "read value" line knows the counter, and
the finished iterations are consistent. -/
structure Inv (n : ℤ) (s : State τ) : Prop where
  guards : Guards .sMutex n s
  known : ∀ t k, shift (s.pc t) = some k → s.sGlobalNum = s.readValue t + k
  consistent : Consistent s

omit [DecidableEq τ] in
lemma inv_ready (n : ℤ) : Inv n (ready n : State τ) where
  guards := .ready .sMutex n
  known _ _ h := by cases h
  consistent _ h := by cases h

/-- A step of task `t` that leaves the counter and what the others have printed. -/
lemma Inv.known_of_eq (h : Inv n s) {c : Pc} (hpc : s'.pc = Function.update s.pc t c)
    (hnum : s'.sGlobalNum = s.sGlobalNum) (hread : ∀ v, v ≠ t → s'.readValue v = s.readValue v)
    (ht : ∀ k, shift c = some k → s.sGlobalNum = s'.readValue t + k) :
    ∀ v k, shift (s'.pc v) = some k → s'.sGlobalNum = s'.readValue v + k := by
  intro v k hk
  rw [hpc] at hk
  rw [hnum]
  by_cases hv : v = t
  · rw [hv, Function.update_self] at hk
    rw [hv]
    exact ht k hk
  · rw [Function.update_of_ne hv] at hk
    rw [hread v hv]
    exact h.known v k hk

omit [DecidableEq τ] in
/-- Nobody else knows the counter while a task is about to write it. -/
lemma Inv.shift_eq_none (h : Inv n s) (hok : Logged s (.task t)) {tmp : ℤ}
    (hpc : s.pc t = .store tmp) (hu : u ≠ t) : shift (s.pc u) = none := by
  by_contra hsome
  obtain ⟨k, hk⟩ := Option.ne_none_iff_exists'.mp hsome
  rcases inside_or_logSet hk with hin | hlog
  · exact hu (h.guards.guarded.exclusive hin (by simp [hpc, Pc.phase]))
  · exact hok t tmp rfl hpc u hlog

/-- Every task past its "read value" line goes on knowing the counter. -/
lemma known_task (h : Inv n s) (hok : Logged s (.task t))
    (hs : incNumMutex (taskIndex t) s t = some s') :
    ∀ v k, shift (s'.pc v) = some k → s'.sGlobalNum = s'.readValue v + k := by
  have hknown := h.known t
  cases incNumMutex_cases hs with
  | loop hpc _ | exit hpc _ =>
    exact h.known_of_eq rfl rfl (fun _ _ => rfl) (fun _ hk => by cases hk)
  | take hpc htake =>
    rcases take_eq_some.mp htake with ⟨m, -, rfl⟩
    exact h.known_of_eq (c := .logRead) rfl rfl (fun _ _ => rfl) (fun _ hk => by cases hk)
  | logRead hpc =>
    refine h.known_of_eq (c := .load) rfl rfl ?_ ?_
    · intro v hv
      exact Function.update_of_ne hv ..
    · intro k hk
      cases hk
      show s.sGlobalNum = Function.update s.readValue t s.sGlobalNum t + 0
      rw [Function.update_self, Int.add_zero]
  | load hpc =>
    refine h.known_of_eq (c := .store s.sGlobalNum) rfl rfl (fun _ _ => rfl) ?_
    intro k hk
    exact hknown k (by rw [hpc]; exact hk)
  | store hpc =>
    -- the others are in no position to notice the write
    intro v k hk
    by_cases hv : v = t
    · subst hv
      have hread := hknown 0 (by rw [hpc]; rfl)
      have htmp := h.guards.fresh hpc
      simp only [State.store_pc, Function.update_self] at hk
      cases hk
      show _ + 1 = s.readValue v + 1
      omega
    · rw [State.store_pc, Function.update_of_ne hv, h.shift_eq_none hok hpc hv] at hk
      cases hk
  | give hpc =>
    refine h.known_of_eq (c := .logSet) rfl rfl (fun _ _ => rfl) ?_
    intro k hk
    exact hknown k (by rw [hpc]; exact hk)
  | logSet hpc =>
    exact h.known_of_eq (c := .test) rfl rfl (fun _ _ => rfl) (fun _ hk => by cases hk)

/-- A task prints the value that it has set. -/
lemma consistent_task (h : Inv n s) (hs : incNumMutex (taskIndex t) s t = some s') :
    Consistent s' := by
  cases incNumMutex_cases hs with
  | take _ htake =>
    rcases take_eq_some.mp htake with ⟨m, -, rfl⟩
    exact h.consistent
  | logSet hpc =>
    intro r hr
    rcases List.mem_append.mp hr with hr | hr
    · exact h.consistent r hr
    · rcases List.mem_singleton.mp hr with rfl
      exact h.known t 1 (by rw [hpc]; rfl)
  | loop | exit | logRead | load | store | give => exact h.consistent

/-- **Step lemma.** -/
lemma inv_task (h : Inv n s) (hok : Logged s (.task t))
    (hs : incNumMutex (taskIndex t) s t = some s') : Inv n s' where
  guards := h.guards.incNumMutex hs
  known := known_task h hok hs
  consistent := consistent_task h hs

lemma inv_of_reachBy (h : ReachBy (step taskIndex) Logged (ready n) s) : Inv n s := by
  apply h.invariant ?_ (inv_ready n)
  intro u a v hu hok hv
  cases a with
  | task t => exact inv_task hu hok hv
  | timeOut =>
    cases hv
    exact ⟨⟨hu.guards.guarded, hu.guards.count⟩, hu.known, hu.consistent⟩

/-! ## A write before a pending "set value" line -/

/-- Task `t` is about to print a value more than one above the one it has read, or a round
with such a pair of values has been printed. -/
def Overtaken (t : τ) (s : State τ) : Prop :=
  (s.pc t = .logSet ∧ s.readValue t + 1 < s.sGlobalNum) ∨ ¬ Consistent s

lemma guards_step {a : Action τ} (h : Guards .sMutex n s) (hs : step taskIndex s a = some s') :
    Guards .sMutex n s' := by
  cases a with
  | task t => exact h.incNumMutex hs
  | timeOut =>
    cases hs
    exact ⟨h.guarded, h.count⟩

/-- No step takes a round back. -/
lemma rounds_grow {a : Action τ} (hs : step taskIndex s a = some s') :
    ∃ l, s'.rounds = s.rounds ++ l := by
  cases a with
  | timeOut =>
    cases hs
    exact ⟨[], (List.append_nil _).symm⟩
  | task u =>
    cases incNumMutex_cases hs with
    | take _ htake =>
      rcases take_eq_some.mp htake with ⟨m, -, rfl⟩
      exact ⟨[], (List.append_nil _).symm⟩
    | logSet hpc => exact ⟨_, rfl⟩
    | loop | exit | logRead | load | store | give => exact ⟨[], (List.append_nil _).symm⟩

/-- A step of another task leaves what `t` has printed and where it is, and does not lower the
counter. -/
lemma other_step (hg : Guards .sMutex n s) (hs : incNumMutex (taskIndex u) s u = some s')
    (hu : t ≠ u) :
    s'.pc t = s.pc t ∧ s'.readValue t = s.readValue t ∧ s.sGlobalNum ≤ s'.sGlobalNum := by
  have hpc : ∀ c, Function.update s.pc u c t = s.pc t := fun c => Function.update_of_ne hu ..
  cases incNumMutex_cases hs with
  | take _ htake =>
    rcases take_eq_some.mp htake with ⟨m, -, rfl⟩
    exact ⟨hpc _, rfl, Int.le_refl _⟩
  | logRead _ => exact ⟨hpc _, Function.update_of_ne hu .., Int.le_refl _⟩
  | store hstore =>
    have htmp := hg.fresh hstore
    refine ⟨hpc _, rfl, ?_⟩
    show s.sGlobalNum ≤ _ + 1
    omega
  | loop | exit | load | give | logSet => exact ⟨hpc _, rfl, Int.le_refl _⟩

/-- **Step lemma.** A task that was overtaken prints the wrong value, and no round is ever
taken back. -/
lemma overtaken_step {a : Action τ} (hg : Guards .sMutex n s) (h : Overtaken t s)
    (hs : step taskIndex s a = some s') : Overtaken t s' := by
  rcases h with ⟨hpc, hlt⟩ | hbad
  · cases a with
    | timeOut =>
      cases hs
      exact .inl ⟨hpc, hlt⟩
    | task u =>
      by_cases hu : t = u
      · -- its only step is the "set value" line
        subst hu
        have hs' : incNumMutex (taskIndex t) s t = some (s.logSet t (taskIndex t)) := by
          simp [incNumMutex, hpc]
        cases hs'.symm.trans hs
        right
        intro hall
        have hset := hall _ (List.mem_append_right _ (List.mem_singleton_self _))
        simp only at hset
        omega
      · obtain ⟨hpc', hread, hle⟩ := other_step hg hs hu
        left
        refine ⟨hpc'.trans hpc, ?_⟩
        omega
  · right
    intro hall
    obtain ⟨l, hl⟩ := rounds_grow hs
    apply hbad
    intro r hr
    exact hall r (by rw [hl]; exact List.mem_append_left _ hr)

/-- A task that writes while another is about to log overtakes it. -/
lemma overtaken_of_store (hi : Inv n s) {tmp : ℤ} (ht : s.pc t = .store tmp)
    (hu : s.pc u = .logSet) (hs : incNumMutex (taskIndex t) s t = some s') : Overtaken u s' := by
  have hne : u ≠ t := by
    intro hut
    rw [hut, ht] at hu
    cases hu
  have hs' : incNumMutex (taskIndex t) s t = some (s.store t tmp) := by simp [incNumMutex, ht]
  have hknown := hi.known u 1 (by rw [hu]; rfl)
  have htmp := hi.guards.fresh ht
  cases hs'.symm.trans hs
  left
  refine ⟨(Function.update_of_ne hne ..).trans hu, ?_⟩
  show s.readValue u + 1 < tmp + 1
  omega

/-! ## The log -/

/-- **When the log is consistent.** In every run in which a task writes only while no other is
between its give and its "set value" line, each iteration prints a value set that is one above
the value read. A run that ends with all "set value" lines printed is consistent only then. -/
theorem rounds_consistent_iff (taskIndex : τ → ℤ) (n : ℤ) (as : List (Action τ)) (s : State τ)
    (hs : exec (step taskIndex) (ready n) as = some s) :
    (Along (step taskIndex) Logged (ready n) as → Consistent s) ∧
    ((∀ t, s.pc t ≠ .logSet) → Consistent s → Along (step taskIndex) Logged (ready n) as) := by
  apply And.intro
  · intro hok
    exact (inv_of_reachBy (.of_exec hs hok)).consistent
  · intro hquiet hall
    by_contra hok
    obtain ⟨u, a, v, hu, hbad, hv, hvs⟩ := exists_violation hs hok
    have hinv := inv_of_reachBy hu
    simp only [Logged, not_forall, not_not] at hbad
    obtain ⟨t, tmp, rfl, ht, w, hw⟩ := hbad
    have hover := hvs.invariant (I := fun x => Guards .sMutex n x ∧ Overtaken w x)
      (fun _ _ _ h hx => ⟨guards_step h.1 hx, overtaken_step h.1 h.2 hx⟩)
      ⟨guards_step hinv.guards hv, overtaken_of_store hinv ht hw hv⟩
    rcases hover.2 with ⟨hpc, -⟩ | hnot
    · exact hquiet w hpc
    · exact hnot hall

/-- The index passed to the task created with `thread_id`. -/
def threadIndex (threadId : Fin 2) : ℤ := threadId.val

/-- The two tasks go through one iteration each. Task 1 takes the mutex and reads before task 0
prints its "set value" line, and writes after it. -/
def inTurnRun : List (Action (Fin 2)) :=
  List.replicate 6 (.task 0) ++ List.replicate 4 (.task 1) ++ [.task 0] ++
    List.replicate 3 (.task 1)

theorem rounds_consistent_iff_inTurn : ∃ s : State (Fin 2),
    exec (step threadIndex) (ready 0) inTurnRun = some s ∧
    s.rounds = [⟨0, 0, 1⟩, ⟨1, 1, 2⟩] ∧ Consistent s ∧
    Along (step threadIndex) Logged (ready 0) inTurnRun := by
  have hok : Along (step threadIndex) Logged (ready 0) inTurnRun := by decide
  exact ⟨_, rfl, rfl, (rounds_consistent_iff _ 0 inTurnRun _ rfl).1 hok, hok⟩

/-- Task 0 gives the mutex; task 1 goes through its whole section before task 0 logs. -/
def overtakingRun : List (Action (Fin 2)) :=
  List.replicate 6 (.task 0) ++ List.replicate 6 (.task 1) ++ [.task 0]

/-- Task 0 reads 0, but the value it says it has set is 2. -/
theorem overtaken_round : ∃ s : State (Fin 2),
    exec (step threadIndex) (ready 0) overtakingRun = some s ∧
    s.rounds = [⟨0, 0, 2⟩] ∧ ¬ Consistent s := by
  refine ⟨_, rfl, rfl, ?_⟩
  intro hall
  have hset : (2 : ℤ) = 0 + 1 := hall ⟨0, 0, 2⟩ (List.mem_singleton_self _)
  omega

end Rounds
end LockExample
end EspLab
