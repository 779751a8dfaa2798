import EspLab.LockExample.Guards

/-!
# The lock example: the entry function

`comp_lock_entry_func` runs the four kinds of worker tasks one after the other: it creates the
tasks of a kind, delays, assigns a global, and goes on to the next kind. A delay says nothing
about how far the tasks have got, so tasks of different kinds can run at the same time.
-/

namespace EspLab
namespace LockExample
namespace EntryFunc

open Transition Rtos

/-- `SHARE_RES_THREAD_NUM` -/
def shareResThreadNum : ℕ := 2

/-- The task functions. -/
inductive Kind
  | iter (c : Counter)
  | mutex
deriving DecidableEq

/-- A worker task: its function, and the `core_id` or `thread_id` it was created with. -/
structure Task where
  kind : Kind
  index : ℕ
deriving DecidableEq

/-- How many tasks of a kind the entry function creates. -/
def Kind.count (cores : ℕ) : Kind → ℕ
  | .iter _ => cores
  | .mutex => shareResThreadNum

/-- Where `comp_lock_entry_func` is. -/
inductive EntryPc
  /-- `s_global_num = 0`, `timed_out = false` -/
  | init
  /-- `s_mutex = xSemaphoreCreateMutex()` -/
  | createMutex
  /-- the loop that creates the tasks of kind `k`, before index `i` -/
  | create (k : Kind) (i : ℕ)
  /-- the `vTaskDelay` after that loop -/
  | delay (k : Kind)
  /-- the assignment after that delay -/
  | assign (k : Kind)
  /-- the last `vTaskDelay` -/
  | grace
  /-- `return` -/
  | returned (code : ℤ)
deriving DecidableEq

/-- Where the entry function is, and what it shares with the workers. -/
structure System where
  entry : EntryPc
  workers : State Task

/-- `s_global_num = 0` -/
def resetGlobalNum {τ : Type*} (s : State τ) : State τ :=
  { s with sGlobalNum := 0, increments := 0 }

/-- One step of `comp_lock_entry_func`. -/
def entryFunc (cores : ℕ) (s : System) : Option System :=
  match s.entry with
  | .init => some
      { entry := .createMutex, workers := { resetGlobalNum s.workers with timedOut := false } }
  | .createMutex => some
      { entry := .create (.iter .mutex) 0
        workers := { s.workers with lock := Function.update s.workers.lock .sMutex .free } }
  | .create k i =>
      if i < k.count cores then
        some { entry := .create k (i + 1), workers := s.workers.goto ⟨k, i⟩ .test }
      else some { s with entry := .delay k }
  | .delay k => some { s with entry := .assign k }
  | .assign (.iter .mutex) => some
      { entry := .create (.iter .spinlock) 0, workers := resetGlobalNum s.workers }
  | .assign (.iter .spinlock) => some
      { entry := .create (.iter .atomic) 0
        workers := { s.workers with sAtomicGlobalNum := 0, atomicIncrements := 0 } }
  | .assign (.iter .atomic) => some
      { entry := .create .mutex 0, workers := resetGlobalNum s.workers }
  | .assign .mutex => some { entry := .grace, workers := { s.workers with timedOut := true } }
  | .grace => some { s with entry := .returned 0 }
  | .returned _ => none

/-- One step of a worker task. -/
def workerStep (s : State Task) (t : Task) : Option (State Task) :=
  match t.kind with
  | .iter c => incNumIter iterationNumber c s t
  | .mutex => incNumMutex t.index s t

/-- A choice of the scheduler: the entry function runs, or finds that the mutex could not be
created, or a worker task runs. -/
inductive Action
  | entry
  | noMutex
  | task (t : Task)
deriving DecidableEq

/-- One step of the party the scheduler picks. -/
def step (cores : ℕ) (s : System) : Action → Option System
  | .entry => entryFunc cores s
  | .noMutex => if s.entry = .createMutex then some { s with entry := .returned 1 } else none
  | .task t => (workerStep s.workers t).map fun w => { s with workers := w }

/-- `comp_lock_entry_func` is called after power-on. -/
def start : System where
  entry := .init
  workers := { ready 0 with pc := fun _ => .absent }

/-! ## What a step can do -/

/-- The steps of the entry function. -/
inductive EntryStep (cores : ℕ) (s : System) : System → Prop
  | init : s.entry = .init → EntryStep cores s
      { entry := .createMutex, workers := { resetGlobalNum s.workers with timedOut := false } }
  | createMutex : s.entry = .createMutex → EntryStep cores s
      { entry := .create (.iter .mutex) 0
        workers := { s.workers with lock := Function.update s.workers.lock .sMutex .free } }
  | create {k : Kind} {i : ℕ} : s.entry = .create k i → i < k.count cores → EntryStep cores s
      { entry := .create k (i + 1), workers := s.workers.goto ⟨k, i⟩ .test }
  | created {k : Kind} {i : ℕ} : s.entry = .create k i → k.count cores ≤ i →
      EntryStep cores s { s with entry := .delay k }
  | wake {k : Kind} : s.entry = .delay k → EntryStep cores s { s with entry := .assign k }
  | resetForSpinlock : s.entry = .assign (.iter .mutex) → EntryStep cores s
      { entry := .create (.iter .spinlock) 0, workers := resetGlobalNum s.workers }
  | atomicInit : s.entry = .assign (.iter .spinlock) → EntryStep cores s
      { entry := .create (.iter .atomic) 0
        workers := { s.workers with sAtomicGlobalNum := 0, atomicIncrements := 0 } }
  | resetForMutex : s.entry = .assign (.iter .atomic) → EntryStep cores s
      { entry := .create .mutex 0, workers := resetGlobalNum s.workers }
  | timeOut : s.entry = .assign .mutex → EntryStep cores s
      { entry := .grace, workers := { s.workers with timedOut := true } }
  | done : s.entry = .grace → EntryStep cores s { s with entry := .returned 0 }

theorem entryFunc_cases {cores : ℕ} {s s' : System} (h : entryFunc cores s = some s') :
    EntryStep cores s s' := by
  unfold entryFunc at h
  split at h
  · next hpc =>
    cases h
    exact .init hpc
  · next hpc =>
    cases h
    exact .createMutex hpc
  · next hpc =>
    split at h
    · next hlt =>
      cases h
      exact .create hpc hlt
    · next hlt =>
      cases h
      exact .created hpc (Nat.not_lt.mp hlt)
  · next hpc =>
    cases h
    exact .wake hpc
  · next hpc =>
    cases h
    exact .resetForSpinlock hpc
  · next hpc =>
    cases h
    exact .atomicInit hpc
  · next hpc =>
    cases h
    exact .resetForMutex hpc
  · next hpc =>
    cases h
    exact .timeOut hpc
  · next hpc =>
    cases h
    exact .done hpc
  · cases h

/-- The task exists. -/
def Live (c : Pc) : Prop := c ≠ .absent ∧ c ≠ .deleted

/-- The lock under which a task increments `s_global_num`, if it does. -/
def Kind.lock : Kind → Option Lock
  | .iter .mutex | .mutex => some .sMutex
  | .iter .spinlock => some .sSpinlock
  | .iter .atomic => none

section Worker

variable {s s' : State Task} {t : Task}

/-- What a worker does: it counts under its lock, or atomically, or prints rounds. -/
theorem workerStep_cases (h : workerStep s t = some s') :
    (∃ l, t.kind.lock = some l ∧ lockedIter l iterationNumber s t = some s') ∨
    (t.kind.lock = none ∧ incNumAtomicIter iterationNumber s t = some s') ∨
    (t.kind.lock = some .sMutex ∧ incNumMutex t.index s t = some s') := by
  unfold workerStep at h
  split at h
  · next c hk =>
    rw [hk]
    cases c with
    | mutex | spinlock => exact .inl ⟨_, rfl, h⟩
    | atomic => exact .inr (.inl ⟨rfl, h⟩)
  · next hk =>
    rw [hk]
    exact .inr (.inr ⟨rfl, h⟩)

/-- A step moves one live task. -/
lemma workerStep_pc (h : workerStep s t = some s') :
    Live (s.pc t) ∧ ∃ c, s'.pc = Function.update s.pc t c := by
  rcases workerStep_cases h with ⟨l, -, h⟩ | ⟨-, h⟩ | ⟨-, h⟩
  · cases lockedIter_cases h with
    | take hpc hs => exact ⟨by simp [Live, hpc], _, take_pc hs⟩
    | loop hpc | exit hpc | load hpc | store hpc | give hpc =>
      exact ⟨by simp [Live, hpc], _, rfl⟩
  · cases incNumAtomicIter_cases h with
    | loop hpc | exit hpc | add hpc => exact ⟨by simp [Live, hpc], _, rfl⟩
  · cases incNumMutex_cases h with
    | take hpc hs => exact ⟨by simp [Live, hpc], _, take_pc hs⟩
    | loop hpc | exit hpc | logRead hpc | load hpc | store hpc | give hpc | logSet hpc =>
      exact ⟨by simp [Live, hpc], _, rfl⟩

/-- A step touches no lock but its own. -/
lemma workerStep_lock (h : workerStep s t = some s') {l : Lock} (hl : t.kind.lock ≠ some l) :
    s'.lock l = s.lock l := by
  rcases workerStep_cases h with ⟨l', hk, h⟩ | ⟨-, h⟩ | ⟨hk, h⟩
  · have hne : l ≠ l' := by
      rintro rfl
      exact hl hk
    cases lockedIter_cases h with
    | take _ hs => exact take_lock_of_ne hs hne
    | give => exact give_lock_of_ne hne
    | loop | exit | load | store => rfl
  · cases incNumAtomicIter_cases h with
    | loop | exit | add => rfl
  · have hne : l ≠ .sMutex := by
      rintro rfl
      exact hl hk
    cases incNumMutex_cases h with
    | take _ hs => exact take_lock_of_ne hs hne
    | give => exact give_lock_of_ne hne
    | loop | exit | logRead | load | store | logSet => rfl

/-- A task that uses lock `l`, or none, keeps the discipline of `l`. -/
lemma guards_workerStep {l : Lock} {n : ℤ} (hg : Guards l n s) (h : workerStep s t = some s')
    (hl : ∀ l', t.kind.lock = some l' → l' = l) : Guards l n s' := by
  rcases workerStep_cases h with ⟨l', hk, h⟩ | ⟨-, h⟩ | ⟨hk, h⟩
  · have heq := hl l' hk
    subst heq
    exact hg.lockedIter h
  · exact hg.incNumAtomicIter h
  · have heq := hl .sMutex hk
    subst heq
    exact hg.incNumMutex h

/-- A task that increments no guarded variable has no section. -/
lemma phase_workerStep (h : workerStep s t = some s') (hk : t.kind.lock = none) :
    (s'.pc t).phase = .outside := by
  rcases workerStep_cases h with ⟨l, hl, -⟩ | ⟨-, h⟩ | ⟨hl, -⟩
  · rw [hk] at hl
    cases hl
  · cases incNumAtomicIter_cases h with
    | loop | exit | add => simp [Pc.phase]
  · rw [hk] at hl
    cases hl

end Worker

end EntryFunc
end LockExample
end EspLab
