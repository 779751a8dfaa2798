import EspLab.Lib.Rtos
import Mathlib.Data.Int.Notation

/-!
# The lock example: the worker tasks

`lock_example.c` counts in `s_global_num` with tasks that increment it under a mutex or a
spinlock, and in `s_atomic_global_num` with tasks that increment it atomically. The increment
`s_global_num++` of a `volatile int` is a read and a separate write.

A step is one access to something shared: a loop test, a take or give of a lock, a read, a
write, a log line that prints `s_global_num`. The delay of `inc_num_mutex` takes no step of its
own. A spinlock is a mutex here: that its section also masks interrupts only removes
interleavings. The model is parametric in the type of tasks.
-/

namespace EspLab
namespace LockExample

open Transition Rtos

/-- `ITERATION_NUMBER` -/
def iterationNumber : ℤ := 100000

/-- `s_mutex` and `s_spinlock`. -/
inductive Lock
  | sMutex
  | sSpinlock
deriving DecidableEq

/-- Where a worker task is. -/
inductive Pc
  /-- not created yet -/
  | absent
  /-- the test of the `while` loop -/
  | test
  /-- `xSemaphoreTake` or `portENTER_CRITICAL` -/
  | take
  /-- `ESP_LOGI(TAG, "task%d read value = %d ..", ..)` -/
  | logRead
  /-- the read of `s_global_num++` -/
  | load
  /-- the write of `s_global_num++`, with the value that was read -/
  | store (tmp : ℤ)
  /-- `xSemaphoreGive` or `portEXIT_CRITICAL` -/
  | give
  /-- `ESP_LOGI(TAG, "task%d set value = %d", ..)` -/
  | logSet
  /-- `atomic_fetch_add(&s_atomic_global_num, 1)` -/
  | add
  /-- `vTaskDelete(NULL)` reached -/
  | deleted
deriving DecidableEq

/-- The values in the two lines that an iteration of `inc_num_mutex` prints. -/
structure Round where
  taskIndex : ℤ
  readValue : ℤ
  setValue : ℤ
deriving DecidableEq

/-- The globals, the locks and where each task is. `readValue` is what the last "read value"
line of each task printed, `rounds` the finished iterations of `inc_num_mutex`; `increments`
counts the increments of `s_global_num` completed since it was last reset, `atomicIncrements`
those of `s_atomic_global_num`. The counters are integers: the overflow of the C `int` is left
out. -/
structure State (τ : Type*) where
  sGlobalNum : ℤ
  sAtomicGlobalNum : ℤ
  lock : Lock → Mutex τ
  timedOut : Bool
  pc : τ → Pc
  readValue : τ → ℤ
  rounds : List Round
  increments : ℕ
  atomicIncrements : ℕ

variable {τ : Type*} [DecidableEq τ]

namespace State

/-- Task `t` moved to `c`. -/
def goto (s : State τ) (t : τ) (c : Pc) : State τ :=
  { s with pc := Function.update s.pc t c }

/-- Take lock `l` and go on to `c`; blocked while another task holds it. -/
def take (s : State τ) (l : Lock) (t : τ) (c : Pc) : Option (State τ) :=
  ((s.lock l).take t).map fun m => { s.goto t c with lock := Function.update s.lock l m }

/-- The read of `s_global_num++`. -/
def load (s : State τ) (t : τ) : State τ := s.goto t (.store s.sGlobalNum)

/-- The write of `s_global_num++`. -/
def store (s : State τ) (t : τ) (tmp : ℤ) : State τ :=
  { s.goto t .give with sGlobalNum := tmp + 1, increments := s.increments + 1 }

/-- Give lock `l` and go on to `c`. -/
def give (s : State τ) (l : Lock) (t : τ) (c : Pc) : State τ :=
  { s.goto t c with lock := Function.update s.lock l ((s.lock l).give t) }

/-- Print the "read value" line. -/
def logRead (s : State τ) (t : τ) : State τ :=
  { s.goto t .load with readValue := Function.update s.readValue t s.sGlobalNum }

/-- Print the "set value" line. -/
def logSet (s : State τ) (t : τ) (taskIndex : ℤ) : State τ :=
  { s.goto t .test with rounds := s.rounds ++ [⟨taskIndex, s.readValue t, s.sGlobalNum⟩] }

/-- `atomic_fetch_add(&s_atomic_global_num, 1)` -/
def fetchAdd (s : State τ) (t : τ) : State τ :=
  { s.goto t .test with
    sAtomicGlobalNum := s.sAtomicGlobalNum + 1
    atomicIncrements := s.atomicIncrements + 1 }

end State

/-- One step of a task that counts to `limit` under lock `l`. -/
def lockedIter (l : Lock) (limit : ℤ) (s : State τ) (t : τ) : Option (State τ) :=
  match s.pc t with
  | .test => some (s.goto t (if s.sGlobalNum < limit then .take else .deleted))
  | .take => s.take l t .load
  | .load => some (s.load t)
  | .store tmp => some (s.store t tmp)
  | .give => some (s.give l t .test)
  | _ => none

/-- One step of `inc_num_mutex_iter`. The take has no timeout, so it returns `pdTRUE`. -/
def incNumMutexIter (limit : ℤ) (s : State τ) (t : τ) : Option (State τ) :=
  lockedIter .sMutex limit s t

/-- One step of `inc_num_spinlock_iter`. -/
def incNumSpinlockIter (limit : ℤ) (s : State τ) (t : τ) : Option (State τ) :=
  lockedIter .sSpinlock limit s t

/-- One step of `inc_num_atomic_iter`. -/
def incNumAtomicIter (limit : ℤ) (s : State τ) (t : τ) : Option (State τ) :=
  match s.pc t with
  | .test => some (s.goto t (if s.sAtomicGlobalNum < limit then .add else .deleted))
  | .add => some (s.fetchAdd t)
  | _ => none

/-- One step of `inc_num_mutex`. -/
def incNumMutex (taskIndex : ℤ) (s : State τ) (t : τ) : Option (State τ) :=
  match s.pc t with
  | .test => some (s.goto t (if s.timedOut then .deleted else .take))
  | .take => s.take .sMutex t .logRead
  | .logRead => some (s.logRead t)
  | .load => some (s.load t)
  | .store tmp => some (s.store t tmp)
  | .give => some (s.give .sMutex t .logSet)
  | .logSet => some (s.logSet t taskIndex)
  | _ => none

/-- The three kinds of tasks that count to a limit. -/
inductive Counter
  | mutex
  | spinlock
  | atomic
deriving DecidableEq

/-- One step of a counting task. -/
def incNumIter (limit : ℤ) : Counter → State τ → τ → Option (State τ)
  | .mutex => incNumMutexIter limit
  | .spinlock => incNumSpinlockIter limit
  | .atomic => incNumAtomicIter limit

/-- The variable a kind of task counts in. -/
def State.counter (s : State τ) : Counter → ℤ
  | .mutex | .spinlock => s.sGlobalNum
  | .atomic => s.sAtomicGlobalNum

/-- The increments of that variable completed so far. -/
def State.completed (s : State τ) : Counter → ℕ
  | .mutex | .spinlock => s.increments
  | .atomic => s.atomicIncrements

/-- Counters at `n`, locks free, every task at the head of its loop. -/
def ready (n : ℤ) : State τ where
  sGlobalNum := n
  sAtomicGlobalNum := n
  lock _ := .free
  timedOut := false
  pc _ := .test
  readValue _ := 0
  rounds := []
  increments := 0
  atomicIncrements := 0

/-! ## What the operations do to the program counters -/

namespace State

variable (s : State τ) (t : τ) (l : Lock) (c : Pc) (tmp i : ℤ)

@[simp] lemma goto_pc : (s.goto t c).pc = Function.update s.pc t c := rfl

@[simp] lemma load_pc : (s.load t).pc = Function.update s.pc t (.store s.sGlobalNum) := rfl

@[simp] lemma store_pc : (s.store t tmp).pc = Function.update s.pc t .give := rfl

@[simp] lemma give_pc : (s.give l t c).pc = Function.update s.pc t c := rfl

@[simp] lemma logRead_pc : (s.logRead t).pc = Function.update s.pc t .load := rfl

@[simp] lemma logSet_pc : (s.logSet t i).pc = Function.update s.pc t .test := rfl

@[simp] lemma fetchAdd_pc : (s.fetchAdd t).pc = Function.update s.pc t .test := rfl

end State

lemma take_eq_some {s s' : State τ} {l : Lock} {t : τ} {c : Pc} :
    s.take l t c = some s' ↔ ∃ m, (s.lock l).take t = some m ∧
      { s.goto t c with lock := Function.update s.lock l m } = s' := by
  rw [State.take, Option.map_eq_some_iff]

section Frame

variable {s s' : State τ} {l l' : Lock} {t : τ} {c : Pc}

lemma take_pc (h : s.take l t c = some s') : s'.pc = Function.update s.pc t c := by
  rcases take_eq_some.mp h with ⟨m, -, rfl⟩
  rfl

lemma take_lock_of_ne (h : s.take l t c = some s') (hl : l' ≠ l) : s'.lock l' = s.lock l' := by
  rcases take_eq_some.mp h with ⟨m, -, rfl⟩
  exact Function.update_of_ne hl ..

lemma give_lock_of_ne (hl : l' ≠ l) : (s.give l t c).lock l' = s.lock l' :=
  Function.update_of_ne hl ..

end Frame

/-! ## What a step can do -/

/-- The steps of a task that counts under lock `l`. -/
inductive LockedStep (l : Lock) (limit : ℤ) (s : State τ) (t : τ) : State τ → Prop
  | loop : s.pc t = .test → s.sGlobalNum < limit → LockedStep l limit s t (s.goto t .take)
  | exit : s.pc t = .test → limit ≤ s.sGlobalNum → LockedStep l limit s t (s.goto t .deleted)
  | take {s' : State τ} : s.pc t = .take → s.take l t .load = some s' →
      LockedStep l limit s t s'
  | load : s.pc t = .load → LockedStep l limit s t (s.load t)
  | store {tmp : ℤ} : s.pc t = .store tmp → LockedStep l limit s t (s.store t tmp)
  | give : s.pc t = .give → LockedStep l limit s t (s.give l t .test)

theorem lockedIter_cases {l : Lock} {limit : ℤ} {s s' : State τ} {t : τ}
    (h : lockedIter l limit s t = some s') : LockedStep l limit s t s' := by
  unfold lockedIter at h
  split at h
  · next hpc =>
    cases h
    split
    · next hlt => exact .loop hpc hlt
    · next hlt => exact .exit hpc (Int.not_lt.mp hlt)
  · next hpc => exact .take hpc h
  · next hpc =>
    cases h
    exact .load hpc
  · next hpc =>
    cases h
    exact .store hpc
  · next hpc =>
    cases h
    exact .give hpc
  · cases h

/-- The steps of `inc_num_atomic_iter`. -/
inductive AtomicStep (limit : ℤ) (s : State τ) (t : τ) : State τ → Prop
  | loop : s.pc t = .test → s.sAtomicGlobalNum < limit → AtomicStep limit s t (s.goto t .add)
  | exit : s.pc t = .test → limit ≤ s.sAtomicGlobalNum →
      AtomicStep limit s t (s.goto t .deleted)
  | add : s.pc t = .add → AtomicStep limit s t (s.fetchAdd t)

theorem incNumAtomicIter_cases {limit : ℤ} {s s' : State τ} {t : τ}
    (h : incNumAtomicIter limit s t = some s') : AtomicStep limit s t s' := by
  unfold incNumAtomicIter at h
  split at h
  · next hpc =>
    cases h
    split
    · next hlt => exact .loop hpc hlt
    · next hlt => exact .exit hpc (Int.not_lt.mp hlt)
  · next hpc =>
    cases h
    exact .add hpc
  · cases h

/-- The steps of `inc_num_mutex`. -/
inductive MutexStep (taskIndex : ℤ) (s : State τ) (t : τ) : State τ → Prop
  | loop : s.pc t = .test → s.timedOut = false → MutexStep taskIndex s t (s.goto t .take)
  | exit : s.pc t = .test → s.timedOut = true → MutexStep taskIndex s t (s.goto t .deleted)
  | take {s' : State τ} : s.pc t = .take → s.take .sMutex t .logRead = some s' →
      MutexStep taskIndex s t s'
  | logRead : s.pc t = .logRead → MutexStep taskIndex s t (s.logRead t)
  | load : s.pc t = .load → MutexStep taskIndex s t (s.load t)
  | store {tmp : ℤ} : s.pc t = .store tmp → MutexStep taskIndex s t (s.store t tmp)
  | give : s.pc t = .give → MutexStep taskIndex s t (s.give .sMutex t .logSet)
  | logSet : s.pc t = .logSet → MutexStep taskIndex s t (s.logSet t taskIndex)

theorem incNumMutex_cases {taskIndex : ℤ} {s s' : State τ} {t : τ}
    (h : incNumMutex taskIndex s t = some s') : MutexStep taskIndex s t s' := by
  unfold incNumMutex at h
  split at h
  · next hpc =>
    cases h
    by_cases ht : s.timedOut = true
    · rw [if_pos ht]
      exact .exit hpc ht
    · rw [if_neg ht]
      exact .loop hpc (Bool.eq_false_iff.mpr ht)
  · next hpc => exact .take hpc h
  · next hpc =>
    cases h
    exact .logRead hpc
  · next hpc =>
    cases h
    exact .load hpc
  · next hpc =>
    cases h
    exact .store hpc
  · next hpc =>
    cases h
    exact .give hpc
  · next hpc =>
    cases h
    exact .logSet hpc
  · cases h

end LockExample
end EspLab
