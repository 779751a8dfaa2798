import EspLab.LockExample.Joined

/-!
# The lock example never deadlocks

Here the tasks run in any order and the delays say nothing. The value of `s_global_num` is then
not protected, but the locks are kept: a lock is held by the task in its section and nobody else.
In its section a task waits for nothing. So there is always a task that can run, until all have
exited.
-/

namespace EspLab
namespace LockExample
namespace EntryFunc

open Transition Rtos

/-! ## Which task holds a lock -/

/-- Where a task stands with respect to lock `l`, whatever it has read. -/
def sectionOf (l : Lock) (t : Task) (c : Pc) : Phase Unit :=
  if t.kind.lock = some l ∧ c.phase ≠ .outside then .inside else .outside

/-- The tasks in the sections of lock `l` are exactly its holder. -/
def Held (l : Lock) (w : State Task) : Prop :=
  Guarded (w.lock l) () fun t => sectionOf l t (w.pc t)

section Sections

variable {l : Lock} {t : Task} {c : Pc} {w w' : State Task}

lemma sectionOf_eq_inside (hl : t.kind.lock = some l) (hc : c.phase ≠ .outside) :
    sectionOf l t c = .inside := if_pos ⟨hl, hc⟩

lemma sectionOf_eq_outside (hc : c.phase = .outside) : sectionOf l t c = .outside :=
  if_neg fun h => h.2 hc

lemma sectionOf_of_ne (hl : t.kind.lock ≠ some l) : sectionOf l t c = .outside :=
  if_neg fun h => hl h.1

lemma sectionOf_ne_outside : sectionOf l t c ≠ .outside ↔
    t.kind.lock = some l ∧ c.phase ≠ .outside := by
  unfold sectionOf
  split
  · next h => simp [h]
  · next h => simp [h]

lemma Held.holder_iff (h : Held l w) : (w.lock l).holder = some t ↔
    t.kind.lock = some l ∧ (w.pc t).phase ≠ .outside :=
  (Guarded.holder_iff h t).trans sectionOf_ne_outside

/-- A move that neither enters nor leaves a section of `l`. -/
lemma Held.move (h : Held l w) (hlock : w'.lock l = w.lock l)
    (hpc : w'.pc = Function.update w.pc t c) (hc : sectionOf l t c = sectionOf l t (w.pc t)) :
    Held l w' := by
  unfold Held
  rw [hlock, hpc]
  refine Guarded.congr h fun u => ?_
  -- only task `t` has moved, and not with respect to `l`
  by_cases hu : u = t
  · rw [hu, Function.update_self, hc]
  · rw [Function.update_of_ne hu]

/-- A move within a section, or outside of all of them. -/
lemma Held.stay (h : Held l w) (hlock : w'.lock l = w.lock l)
    (hpc : w'.pc = Function.update w.pc t c)
    (hc : c.phase = .outside ↔ (w.pc t).phase = .outside) : Held l w' := by
  refine h.move hlock hpc ?_
  unfold sectionOf
  simp only [ne_eq, hc]

lemma Held.take (h : Held l w) (hl : t.kind.lock = some l) (hc : c.phase ≠ .outside)
    (hs : w.take l t c = some w') : Held l w' := by
  rcases take_eq_some.mp hs with ⟨m, hm, rfl⟩
  show Guarded (Function.update w.lock l m l) () _
  rw [Function.update_self]
  refine Guarded.take h hm ?_ fun u hu => ?_
  · show sectionOf l t (Function.update w.pc t c t) = _
    rw [Function.update_self, sectionOf_eq_inside hl hc]
  · show sectionOf l u (Function.update w.pc t c u) = _
    rw [Function.update_of_ne hu]

lemma Held.give (h : Held l w) (hl : t.kind.lock = some l) (hpc : w.pc t = .give)
    (hc : c.phase = .outside) : Held l (w.give l t c) := by
  show Guarded (Function.update w.lock l ((w.lock l).give t) l) () _
  rw [Function.update_self]
  refine Guarded.give h ?_ ?_ fun u hu => ?_
  · exact sectionOf_ne_outside.mpr ⟨hl, by simp [hpc, Pc.phase]⟩
  · show sectionOf l t (Function.update w.pc t c t) = _
    rw [Function.update_self, sectionOf_eq_outside hc]
  · show sectionOf l u (Function.update w.pc t c u) = _
    rw [Function.update_of_ne hu]

/-- **Step lemma.** Every worker keeps every lock, its own and those of others. -/
lemma held_workerStep (h : Held l w) (hs : workerStep w t = some w') : Held l w' := by
  by_cases hl : t.kind.lock = some l
  -- a task of `l`: where it takes or gives is where it enters or leaves
  · rcases workerStep_cases hs with ⟨l', hl', hs⟩ | ⟨hl', -⟩ | ⟨hl', hs⟩
    · obtain rfl : l' = l := Option.some.inj (hl'.symm.trans hl)
      cases lockedIter_cases hs with
      | take hpc hs => exact h.take hl (by simp [Pc.phase]) hs
      | give hpc => exact h.give hl hpc rfl
      | loop hpc | exit hpc | load hpc | store hpc =>
        exact h.stay rfl rfl (by simp [hpc, Pc.phase])
    · rw [hl] at hl'
      cases hl'
    · obtain rfl : Lock.sMutex = l := Option.some.inj (hl'.symm.trans hl)
      cases incNumMutex_cases hs with
      | take hpc hs => exact h.take hl (by simp [Pc.phase]) hs
      | give hpc => exact h.give hl hpc rfl
      | loop hpc | exit hpc | logRead hpc | load hpc | store hpc | logSet hpc =>
        exact h.stay rfl rfl (by simp [hpc, Pc.phase])
  -- a task of another lock, or of none, does not touch `l`
  · obtain ⟨-, c, hpc⟩ := workerStep_pc hs
    exact h.move (workerStep_lock hs hl) hpc (by rw [sectionOf_of_ne hl, sectionOf_of_ne hl])

end Sections

/-! ## The places of a task -/

/-- The places in the function of a task. -/
def Place : Kind → Pc → Prop
  | .iter .atomic, c => c = .absent ∨ c = .test ∨ c = .add ∨ c = .deleted
  | .iter _, c => c ≠ .logRead ∧ c ≠ .logSet ∧ c ≠ .add
  | .mutex, c => c ≠ .add

lemma place_test (k : Kind) : Place k .test := by
  rcases k with (_ | _ | _) | _ <;> simp [Place]

lemma place_workerStep {t : Task} {w w' : State Task} (hs : workerStep w t = some w') :
    Place t.kind (w'.pc t) := by
  unfold workerStep at hs
  split at hs
  · next c hk =>
    rw [hk]
    cases c with
    | mutex | spinlock =>
      cases lockedIter_cases hs with
      | take hpc hs => simp [take_pc hs, Place]
      | loop hpc | exit hpc | load hpc | store hpc | give hpc => simp [Place]
    | atomic =>
      cases incNumAtomicIter_cases hs with
      | loop hpc | exit hpc | add hpc => simp [Place]
  · next hk =>
    rw [hk]
    cases incNumMutex_cases hs with
    | take hpc hs => simp [take_pc hs, Place]
    | loop hpc | exit hpc | logRead hpc | load hpc | store hpc | give hpc | logSet hpc =>
      simp [Place]

lemma take_eq_none {w : State Task} {l : Lock} {t : Task} {c : Pc} :
    w.take l t c = none ↔ (w.lock l).holder ≠ none := by
  rw [State.take, Option.map_eq_none_iff, Mutex.take_eq_none]

/-- A task that cannot run has not been created, has exited or waits for its lock. -/
lemma workerStep_eq_none {t : Task} {w : State Task} (hplace : Place t.kind (w.pc t)) :
    workerStep w t = none ↔ ¬ Live (w.pc t) ∨
      w.pc t = .take ∧ ∃ l, t.kind.lock = some l ∧ (w.lock l).holder ≠ none := by
  unfold workerStep
  rcases hk : t.kind with (_ | _ | _) | _ <;> rw [hk] at hplace
  case iter.mutex | iter.spinlock =>
    show lockedIter _ _ w t = none ↔ _
    cases hpc : w.pc t <;>
      simp_all [lockedIter, Place, Live, Kind.lock, take_eq_none]
  case iter.atomic =>
    show incNumAtomicIter _ w t = none ↔ _
    cases hpc : w.pc t <;> simp_all [incNumAtomicIter, Place, Live, Kind.lock]
  case mutex =>
    show incNumMutex _ w t = none ↔ _
    cases hpc : w.pc t <;> simp_all [incNumMutex, Place, Live, Kind.lock, take_eq_none]

/-! ## The invariant -/

/-- The locks are kept, every task is in its function, and a task that has not been created yet
has not begun. -/
structure Orderly (s : System) : Prop where
  held : ∀ l, Held l s.workers
  place : ∀ t : Task, Place t.kind (s.workers.pc t)
  pending : ∀ t, Pending t s.entry → s.workers.pc t = .absent

lemma orderly_start : Orderly start where
  held _ := .of_free fun _ => sectionOf_eq_outside rfl
  place t := by rcases t with ⟨(_ | _ | _) | _, _⟩ <;> simp [start, Place]
  pending _ _ := rfl

lemma orderly_worker {s : System} {t : Task} {w : State Task} (h : Orderly s)
    (hs : workerStep s.workers t = some w) : Orderly { s with workers := w } := by
  obtain ⟨hlive, c, hpc⟩ := workerStep_pc hs
  refine ⟨fun l => held_workerStep (h.held l) hs, fun u => ?_, fun u hu => ?_⟩
  · show Place u.kind (w.pc u)
    -- the task that runs stays in its function, the others stay where they are
    by_cases hut : u = t
    · rw [hut]
      exact place_workerStep hs
    · rw [hpc, Function.update_of_ne hut]
      exact h.place u
  · have habs := h.pending u hu
    have hut : u ≠ t := by
      rintro rfl
      exact hlive.1 habs
    show w.pc u = .absent
    rw [hpc, Function.update_of_ne hut, habs]

/-- The entry function goes on without touching a task or a lock. -/
lemma Orderly.next {s : System} (h : Orderly s) {e : EntryPc} {w : State Task}
    (hlock : w.lock = s.workers.lock) (hpc : w.pc = s.workers.pc)
    (hpending : ∀ t, Pending t e → Pending t s.entry) : Orderly ⟨e, w⟩ := by
  refine ⟨fun l => ?_, fun t => ?_, fun t ht => ?_⟩
  · show Guarded (w.lock l) () fun t => sectionOf l t (w.pc t)
    rw [hlock, hpc]
    exact h.held l
  · show Place t.kind (w.pc t)
    rw [hpc]
    exact h.place t
  · show w.pc t = .absent
    rw [hpc]
    exact h.pending t (hpending t ht)

lemma orderly_create {s : System} {k : Kind} {i : ℕ} (h : Orderly s) (he : s.entry = .create k i) :
    Orderly { entry := .create k (i + 1), workers := s.workers.goto ⟨k, i⟩ .test } := by
  -- the task being created is one that was pending
  have habs : s.workers.pc ⟨k, i⟩ = .absent := by
    apply h.pending
    rw [he]
    exact .inl ⟨rfl, Nat.le_refl i⟩
  refine ⟨fun l => ?_, fun t => ?_, fun t ht => ?_⟩
  · exact (h.held l).stay (c := .test) rfl rfl (by simp [habs, Pc.phase])
  · show Place t.kind (Function.update s.workers.pc ⟨k, i⟩ .test t)
    by_cases hti : t = ⟨k, i⟩
    · rw [hti, Function.update_self]
      exact place_test k
    · rw [Function.update_of_ne hti]
      exact h.place t
  · have hti : t ≠ ⟨k, i⟩ := by
      rintro rfl
      rcases ht with ⟨-, hle⟩ | hlt
      · exact absurd hle (Nat.not_succ_le_self i)
      · exact absurd hlt (Nat.lt_irrefl _)
    show Function.update s.workers.pc ⟨k, i⟩ .test t = .absent
    rw [Function.update_of_ne hti]
    apply h.pending
    rw [he]
    rcases ht with ⟨hk, hle⟩ | hlt
    · exact .inl ⟨hk, Nat.le_of_succ_le hle⟩
    · exact .inr hlt

/-- The mutex is created before any task. -/
lemma orderly_createMutex {s : System} (h : Orderly s) (he : s.entry = .createMutex) :
    Orderly { entry := .create (.iter .mutex) 0, workers := { s.workers with
      lock := Function.update s.workers.lock .sMutex .free } } := by
  have habs : ∀ t, s.workers.pc t = .absent := fun t => h.pending t (by rw [he]; trivial)
  refine ⟨fun l => ?_, h.place, fun t _ => habs t⟩
  cases l with
  | sMutex => exact Guarded.of_free fun t => sectionOf_eq_outside (by
      show (s.workers.pc t).phase = .outside
      rw [habs t]
      rfl)
  | sSpinlock => exact h.held .sSpinlock

lemma orderly_entry {cores : ℕ} {s s' : System} (h : Orderly s)
    (hs : entryFunc cores s = some s') : Orderly s' := by
  cases entryFunc_cases hs with
  | create he => exact orderly_create h he
  | createMutex he => exact orderly_createMutex h he
  | init he => exact h.next rfl rfl fun _ _ => by rw [he]; trivial
  | created he =>
    refine h.next rfl rfl fun t ht => ?_
    rw [he]
    exact .inr ht
  | wake he =>
    refine h.next rfl rfl fun t ht => ?_
    rw [he]
    exact ht
  | resetForSpinlock he | atomicInit he | resetForMutex he =>
    refine h.next rfl rfl fun t ht => ?_
    rw [he]
    exact pending_assign rfl ht
  | timeOut he | done he => exact h.next rfl rfl fun _ ht => ht.elim

lemma orderly_step {cores : ℕ} {s s' : System} {a : Action} (h : Orderly s)
    (hs : step cores s a = some s') : Orderly s' := by
  cases a with
  | entry => exact orderly_entry h hs
  | noMutex =>
    rw [step] at hs
    split at hs
    · cases hs
      exact h.next rfl rfl fun _ ht => ht.elim
    · cases hs
  | task t =>
    rcases Option.map_eq_some_iff.mp hs with ⟨w, hw, rfl⟩
    exact orderly_worker h hw

lemma orderly_of_reach {cores : ℕ} {s : System} (h : Reach (step cores) start s) : Orderly s :=
  h.invariant (fun _ _ _ => orderly_step) orderly_start

/-! ## The result -/

/-- While some task is alive, some task can run. -/
lemma Orderly.exists_workerStep {s : System} (h : Orderly s) {t : Task}
    (ht : Live (s.workers.pc t)) : ∃ u, workerStep s.workers u ≠ none := by
  by_contra hnone
  have hall : ∀ u, workerStep s.workers u = none := by
    intro u
    by_contra hu
    exact hnone ⟨u, hu⟩
  rcases (workerStep_eq_none (h.place t)).mp (hall t) with hdead | ⟨-, l, -, hlock⟩
  · exact hdead ht
  · -- the task that holds the lock is in its section, where it does not wait
    obtain ⟨u, hu⟩ := Option.ne_none_iff_exists'.mp hlock
    have hphase := ((h.held l).holder_iff.mp hu).2
    rcases (workerStep_eq_none (h.place u)).mp (hall u) with hdead | ⟨htake, -⟩
    · exact hphase (phase_of_not_live hdead)
    · rw [htake] at hphase
      exact hphase rfl

/-- **No deadlock.** In every run, on any number of cores, a lock is held by the task that is in
its section and by no other; and the system comes to rest only when the entry function has
returned and every task has exited, with both locks free. -/
theorem lock_no_deadlock (cores : ℕ) {s : System} (h : Reach (step cores) start s) :
    (∀ l t, (s.workers.lock l).holder = some t ↔
      t.kind.lock = some l ∧ (s.workers.pc t).phase ≠ .outside) ∧
    (Stuck (step cores) s ↔
      (∃ code, s.entry = .returned code) ∧ ∀ t, ¬ Live (s.workers.pc t)) ∧
    (Stuck (step cores) s → ∀ l, (s.workers.lock l).holder = none) := by
  have hinv := orderly_of_reach h
  have hrest : Stuck (step cores) s ↔
      (∃ code, s.entry = .returned code) ∧ ∀ t, ¬ Live (s.workers.pc t) := by
    apply Iff.intro
    · intro hstuck
      refine ⟨?_, fun t ht => ?_⟩
      · have hentry : entryFunc cores s = none := hstuck .entry
        unfold entryFunc at hentry
        split at hentry
        case h_10 code he => exact ⟨code, he⟩
        case h_3 => split at hentry <;> cases hentry
        all_goals cases hentry
      · obtain ⟨u, hu⟩ := hinv.exists_workerStep ht
        exact hu (Option.map_eq_none_iff.mp (hstuck (.task u)))
    · rintro ⟨⟨code, he⟩, hdead⟩ (_ | _ | t)
      · show entryFunc cores s = none
        rw [entryFunc, he]
      · show (if s.entry = .createMutex then _ else none) = none
        rw [he]
        rfl
      · exact Option.map_eq_none_iff.mpr
          ((workerStep_eq_none (hinv.place t)).mpr (.inl (hdead t)))
  refine ⟨fun l t => (hinv.held l).holder_iff, hrest, fun hstuck l => ?_⟩
  rw [Option.eq_none_iff_forall_ne_some]
  intro t ht
  exact ((hinv.held l).holder_iff.mp ht).2 (phase_of_not_live ((hrest.mp hstuck).2 t))

/-- The first task has been created and has taken the mutex. -/
def takeRun : List Action :=
  [.entry, .entry, .entry, .task ⟨.iter .mutex, 0⟩, .task ⟨.iter .mutex, 0⟩]

theorem lock_no_deadlock_taken : ∃ s, exec (step 2) start takeRun = some s ∧
    (s.workers.lock .sMutex).holder = some ⟨.iter .mutex, 0⟩ ∧ ¬ Stuck (step 2) s := by
  obtain ⟨hheld, hstuck, -⟩ := lock_no_deadlock 2 ⟨takeRun, rfl⟩
  exact ⟨_, rfl, (hheld .sMutex ⟨.iter .mutex, 0⟩).mpr ⟨rfl, by decide⟩,
    fun hrest => (hstuck.mp hrest).2 ⟨.iter .mutex, 0⟩ ⟨by decide, by decide⟩⟩

end EntryFunc
end LockExample
end EspLab
