import EspLab.LockExample.Joined

/-!
# The lock example: is `s_global_num` protected?

It is in the runs in which the tasks are joined before each reset. In the others it is not: a
task that is alive at the reset can go on to its increment in the next phase, whose tasks use
another lock, and be between its read and its write when one of them is, or at the next reset.
-/

namespace EspLab
namespace LockExample
namespace EntryFunc

open Transition Rtos

/-! ## Where the tasks that count under a lock can be -/

/-- The tasks that count to the limit under a lock. -/
def countingKind : Lock → Kind
  | .sMutex => .iter .mutex
  | .sSpinlock => .iter .spinlock

/-- A place in the loop of these tasks. -/
def Counting : Pc → Prop
  | .logRead | .logSet | .add => False
  | _ => True

/-- The tasks that count stay in their loop, and the time-out comes last. -/
structure Shape (s : System) : Prop where
  counting : ∀ t l, t.kind = countingKind l → Counting (s.workers.pc t)
  early : s.workers.timedOut = true → s.entry = .grace ∨ ∃ code, s.entry = .returned code

lemma workerStep_counting {t : Task} {l : Lock} (ht : t.kind = countingKind l) (w : State Task) :
    workerStep w t = lockedIter l iterationNumber w t := by
  unfold workerStep
  rw [ht]
  cases l <;> rfl

lemma workerStep_timedOut {w w' : State Task} {t : Task} (h : workerStep w t = some w') :
    w'.timedOut = w.timedOut := by
  rcases workerStep_cases h with ⟨l, -, h⟩ | ⟨-, h⟩ | ⟨-, h⟩
  · cases lockedIter_cases h with
    | take _ hs =>
      rcases take_eq_some.mp hs with ⟨m, -, rfl⟩
      rfl
    | loop | exit | load | store | give => rfl
  · cases incNumAtomicIter_cases h with
    | loop | exit | add => rfl
  · cases incNumMutex_cases h with
    | take _ hs =>
      rcases take_eq_some.mp hs with ⟨m, -, rfl⟩
      rfl
    | loop | exit | logRead | load | store | give | logSet => rfl

/-- A task that counts goes to a place in its loop. -/
lemma counting_workerStep {w w' : State Task} {t : Task} {l : Lock} (ht : t.kind = countingKind l)
    (h : workerStep w t = some w') : Counting (w'.pc t) := by
  rw [workerStep_counting ht] at h
  cases lockedIter_cases h with
  | take _ hs =>
    rw [take_pc hs, Function.update_self]
    trivial
  | loop | exit | load | store | give => simp [Counting]

lemma shape_worker {s : System} {t : Task} {w : State Task} (h : Shape s)
    (hs : workerStep s.workers t = some w) : Shape { s with workers := w } where
  counting u l hu := by
    by_cases hut : u = t
    · rw [hut] at hu ⊢
      exact counting_workerStep hu hs
    · obtain ⟨-, c, hpc⟩ := workerStep_pc hs
      show Counting (w.pc u)
      rw [hpc, Function.update_of_ne hut]
      exact h.counting u l hu
  early ht := h.early ((workerStep_timedOut hs).symm.trans ht)

/-- **Step lemma.** -/
lemma shape_step {cores : ℕ} {s s' : System} {a : Action} (h : Shape s)
    (hs : step cores s a = some s') : Shape s' := by
  cases a with
  | task t =>
    rcases Option.map_eq_some_iff.mp hs with ⟨w, hw, rfl⟩
    exact shape_worker h hw
  | noMutex =>
    simp only [step] at hs
    split at hs
    · cases hs
      exact ⟨h.counting, fun _ => .inr ⟨1, rfl⟩⟩
    · cases hs
  | entry =>
    have hearly := h.early
    cases entryFunc_cases hs with
    | init => exact ⟨h.counting, fun ht => by cases ht⟩
    | timeOut | done => exact ⟨h.counting, by simp⟩
    | @create k i he _ =>
      refine ⟨?_, ?_⟩
      · intro t l ht
        rw [State.goto_pc]
        by_cases hti : t = ⟨k, i⟩
        · rw [hti, Function.update_self]
          trivial
        · rw [Function.update_of_ne hti]
          exact h.counting t l ht
      · intro ht
        simpa [he] using hearly ht
    | createMutex he | created he | wake he | resetForSpinlock he | atomicInit he
    | resetForMutex he =>
      refine ⟨h.counting, fun ht => ?_⟩
      simpa [he] using hearly ht

lemma shape_start : Shape start where
  counting _ _ _ := trivial
  early ht := by cases ht

/-! ## Some task gets to its write -/

/-- Only tasks of kind `k` step. -/
def Only (k : Kind) (_ : State Task) (t : Task) : Prop := t.kind = k

/-- The tasks of a kind leave the other tasks, the other locks and the time-out alone. -/
lemma frame_only {k : Kind} {w w' : State Task} (h : ReachBy workerStep (Only k) w w') :
    (∀ u, u.kind ≠ k → w'.pc u = w.pc u) ∧ (∀ l, k.lock ≠ some l → w'.lock l = w.lock l) ∧
    w'.timedOut = w.timedOut := by
  apply h.invariant (I := fun x => (∀ u, u.kind ≠ k → x.pc u = w.pc u) ∧
    (∀ l, k.lock ≠ some l → x.lock l = w.lock l) ∧ x.timedOut = w.timedOut) ?_
    ⟨fun _ _ => rfl, fun _ _ => rfl, rfl⟩
  intro x t y ⟨hpc, hlock, hout⟩ ht hy
  refine ⟨?_, ?_, (workerStep_timedOut hy).trans hout⟩
  · intro u hu
    obtain ⟨-, c, hc⟩ := workerStep_pc hy
    have hut : u ≠ t := by
      rintro rfl
      exact hu ht
    rw [hc, Function.update_of_ne hut, hpc u hu]
  · intro l hl
    rw [workerStep_lock hy (by rwa [show t.kind = k from ht]), hlock l hl]

/-- Runs of the workers are runs of the system, wherever the entry function is. -/
lemma reach_workers (cores : ℕ) (e : EntryPc) {k : Kind} {w w' : State Task}
    (h : ReachBy workerStep (Only k) w w') : Reach (step cores) ⟨e, w⟩ ⟨e, w'⟩ := by
  apply h.invariant (I := fun x => Reach (step cores) ⟨e, w⟩ ⟨e, x⟩) ?_ (.refl _)
  intro x t y hx _ hy
  exact hx.tail (a := .task t) (Option.map_eq_some_iff.mpr ⟨y, hy, rfl⟩)

section CountingTask

variable {w : State Task} {l : Lock} {t : Task} (ht : t.kind = countingKind l)
include ht

/-- A task that finds its lock free takes it and reads. -/
lemma reachBy_writing_of_take (hpc : w.pc t = .take) (hfree : (w.lock l).holder = none) :
    ∃ w', ReachBy workerStep (Only (countingKind l)) w w' ∧ Writing w' t := by
  let w₁ : State Task := { w.goto t .load with lock := Function.update w.lock l ⟨some t⟩ }
  have htake : w.take l t .load = some w₁ :=
    take_eq_some.mpr ⟨_, Mutex.take_eq_some.mpr ⟨hfree, rfl⟩, rfl⟩
  have h₁ : workerStep w t = some w₁ := by
    rw [workerStep_counting ht]
    simp only [lockedIter, hpc, htake]
  have h₂ : workerStep w₁ t = some (w₁.load t) := by
    rw [workerStep_counting ht]
    simp [lockedIter, w₁]
  refine ⟨_, .head h₁ ht (.head h₂ ht (.refl _)), w₁.sGlobalNum, ?_⟩
  rw [State.load_pc, Function.update_self]

/-- Below the limit a task passes its test. -/
lemma reachBy_writing_of_test (hpc : w.pc t = .test) (hfree : (w.lock l).holder = none)
    (hroom : w.sGlobalNum < iterationNumber) :
    ∃ w', ReachBy workerStep (Only (countingKind l)) w w' ∧ Writing w' t := by
  have h₁ : workerStep w t = some (w.goto t .take) := by
    rw [workerStep_counting ht]
    simp [lockedIter, hpc, hroom]
  have hpc' : (w.goto t .take).pc t = .take := by rw [State.goto_pc, Function.update_self]
  obtain ⟨w', hw', hwriting⟩ := reachBy_writing_of_take ht hpc' hfree
  exact ⟨w', .head h₁ ht hw', hwriting⟩

/-- The holder of the lock gets to its write, or gives the lock back and starts anew. -/
lemma reachBy_writing_of_inside (hholder : (w.lock l).holder = some t)
    (hne : (w.pc t).phase ≠ .outside) (hc : Counting (w.pc t))
    (hroom : w.sGlobalNum < iterationNumber) :
    ∃ w', ReachBy workerStep (Only (countingKind l)) w w' ∧ Writing w' t := by
  cases hpc : w.pc t with
  | store tmp => exact ⟨w, .refl _, tmp, hpc⟩
  | load =>
    have h₁ : workerStep w t = some (w.load t) := by
      rw [workerStep_counting ht]
      simp [lockedIter, hpc]
    refine ⟨_, .head h₁ ht (.refl _), w.sGlobalNum, ?_⟩
    rw [State.load_pc, Function.update_self]
  | give =>
    have h₁ : workerStep w t = some (w.give l t .test) := by
      rw [workerStep_counting ht]
      simp [lockedIter, hpc]
    have hpc' : (w.give l t .test).pc t = .test := by rw [State.give_pc, Function.update_self]
    have hfree : ((w.give l t .test).lock l).holder = none := by
      simp [State.give, Mutex.give, hholder]
    obtain ⟨w', hw', hwriting⟩ := reachBy_writing_of_test ht hpc' hfree hroom
    exact ⟨w', .head h₁ ht hw', hwriting⟩
  | absent | test | take | deleted => simp [hpc, Pc.phase] at hne
  | logRead | logSet | add => simp [hpc, Counting] at hc

end CountingTask

/-- A lock and the tasks that count under it: the holder is the one in its section, and
every task is in its loop. -/
structure Contended (l : Lock) (w : State Task) : Prop where
  holder_iff : ∀ u, (w.lock l).holder = some u ↔ (w.pc u).phase ≠ .outside
  inside : ∀ u, (w.pc u).phase ≠ .outside → u.kind = countingKind l
  counting : ∀ u, u.kind = countingKind l → Counting (w.pc u)

/-- Below the limit, if one of the tasks is alive some task gets to its write. -/
lemma exists_writing {w : State Task} {l : Lock} {t : Task} (h : Contended l w)
    (ht : t.kind = countingKind l) (hlive : Live (w.pc t))
    (hroom : w.sGlobalNum < iterationNumber) :
    ∃ w' u, ReachBy workerStep (Only (countingKind l)) w w' ∧ u.kind = countingKind l ∧
      Writing w' u := by
  cases hholder : (w.lock l).holder with
  | some u =>
    have hne := (h.holder_iff u).mp hholder
    have hu := h.inside u hne
    obtain ⟨w', hw', hwriting⟩ := reachBy_writing_of_inside hu hholder hne (h.counting u hu) hroom
    exact ⟨w', u, hw', hu, hwriting⟩
  | none =>
    -- nobody is in its section, so the task is before its own
    have hout : (w.pc t).phase = .outside := by
      by_contra hne
      rw [(h.holder_iff t).mpr hne] at hholder
      cases hholder
    have hc := h.counting t ht
    cases hpc : w.pc t with
    | test =>
      obtain ⟨w', hw', hwriting⟩ := reachBy_writing_of_test ht hpc hholder hroom
      exact ⟨w', t, hw', ht, hwriting⟩
    | take =>
      obtain ⟨w', hw', hwriting⟩ := reachBy_writing_of_take ht hpc hholder
      exact ⟨w', t, hw', ht, hwriting⟩
    | absent => exact absurd hpc hlive.1
    | deleted => exact absurd hpc hlive.2
    | load | store tmp | give => simp [hpc, Pc.phase] at hout
    | logRead | logSet | add => simp [hpc, Counting] at hc

/-! ## The entry function goes on -/

/-- The tasks of a kind are created, whatever the others do. -/
lemma reach_created (cores : ℕ) (k : Kind) (i : ℕ) (w : State Task) :
    ∃ w', Reach (step cores) ⟨.create k i, w⟩ ⟨.delay k, w'⟩ ∧
      ∀ u, u.kind ≠ k → w'.pc u = w.pc u := by
  induction hn : k.count cores - i generalizing i w with
  | zero =>
    have hstep : step cores ⟨.create k i, w⟩ .entry = some ⟨.delay k, w⟩ :=
      if_neg (show ¬ i < k.count cores by omega)
    exact ⟨w, .single hstep, fun _ _ => rfl⟩
  | succ n ih =>
    have hstep : step cores ⟨.create k i, w⟩ .entry =
        some ⟨.create k (i + 1), w.goto ⟨k, i⟩ .test⟩ :=
      if_pos (show i < k.count cores by omega)
    obtain ⟨w', hw', hframe⟩ := ih (i + 1) (w.goto ⟨k, i⟩ .test) (by omega)
    refine ⟨w', .head hstep hw', ?_⟩
    intro u hu
    have hne : u ≠ ⟨k, i⟩ := by
      rintro rfl
      exact hu rfl
    rw [hframe u hu, State.goto_pc, Function.update_of_ne hne]

/-- A write of a task from the first phase is still pending at the second reset. -/
lemma unprotected_of_mutex (cores : ℕ) {w : State Task} {u : Task} (hu : u.kind = .iter .mutex)
    (hw : Writing w u) :
    ∃ s, Reach (step cores) ⟨.create (.iter .spinlock) 0, w⟩ s ∧ ¬ Protected s := by
  obtain ⟨w₁, hw₁, hframe₁⟩ := reach_created cores (.iter .spinlock) 0 w
  let w₂ : State Task := { w₁ with sAtomicGlobalNum := 0, atomicIncrements := 0 }
  obtain ⟨w₃, hw₃, hframe₃⟩ := reach_created cores (.iter .atomic) 0 w₂
  have hinit : Reach (step cores) ⟨.delay (.iter .spinlock), w₁⟩ ⟨.create (.iter .atomic) 0, w₂⟩ :=
    ⟨[.entry, .entry], rfl⟩
  have hwake : Reach (step cores) ⟨.delay (.iter .atomic), w₃⟩ ⟨.assign (.iter .atomic), w₃⟩ :=
    ⟨[.entry], rfl⟩
  refine ⟨_, hw₁.trans (hinit.trans (hw₃.trans hwake)), ?_⟩
  intro hp
  rcases hw with ⟨tmp, htmp⟩
  apply hp.apart (.inr ⟨_, .inr rfl, rfl⟩) u
  refine ⟨tmp, ?_⟩
  rw [hframe₃ u (by simp [hu]), ← htmp]
  exact hframe₁ u (by simp [hu])

/-- Before the time-out a task of the last phase takes the free mutex and reads. -/
lemma reachBy_writing_of_mutex {w : State Task} {t : Task} (ht : t.kind = .mutex)
    (hpc : w.pc t = .test) (hfree : (w.lock .sMutex).holder = none) (hout : w.timedOut = false) :
    ∃ w', ReachBy workerStep (Only .mutex) w w' ∧ Writing w' t := by
  have hstep : ∀ x, workerStep x t = incNumMutex t.index x t := by
    intro x
    rw [workerStep, ht]
  let w₁ := w.goto t .take
  let w₂ : State Task :=
    { w₁.goto t .logRead with lock := Function.update w.lock .sMutex ⟨some t⟩ }
  have hloop : workerStep w t = some w₁ := by simp [hstep, incNumMutex, hpc, hout, w₁]
  have htake : w₁.take .sMutex t .logRead = some w₂ :=
    take_eq_some.mpr ⟨_, Mutex.take_eq_some.mpr ⟨hfree, rfl⟩, rfl⟩
  have htake' : workerStep w₁ t = some w₂ := by
    rw [← htake]
    simp [hstep, incNumMutex, w₁]
  have hlog : workerStep w₂ t = some (w₂.logRead t) := by simp [hstep, incNumMutex, w₂]
  have hload : workerStep (w₂.logRead t) t = some ((w₂.logRead t).load t) := by
    simp [hstep, incNumMutex]
  exact ⟨_, .head hloop ht (.head htake' ht (.head hlog ht (.head hload ht (.refl _)))), _,
    Function.update_self ..⟩

/-- A write of a spinlock task is still pending when the first task of the last phase, under
the mutex, gets to its own. -/
lemma unprotected_of_spinlock (cores : ℕ) {w : State Task} {u : Task}
    (hu : u.kind = .iter .spinlock) (hw : Writing w u) (hfree : (w.lock .sMutex).holder = none)
    (hout : w.timedOut = false) :
    ∃ s, Reach (step cores) ⟨.create .mutex 0, w⟩ s ∧ ¬ Protected s := by
  let t : Task := ⟨.mutex, 0⟩
  have hne : u ≠ t := by
    rintro rfl
    cases hu
  have hcreate : step cores ⟨.create .mutex 0, w⟩ .entry =
      some ⟨.create .mutex 1, w.goto t .test⟩ := rfl
  obtain ⟨w', hw', hwriting⟩ := reachBy_writing_of_mutex (w := w.goto t .test) (t := t) rfl
    (by rw [State.goto_pc, Function.update_self]) hfree hout
  refine ⟨_, .head hcreate (reach_workers cores _ hw'), ?_⟩
  intro hp
  rcases hw with ⟨tmp, htmp⟩
  apply hne (hp.exclusive u t ⟨tmp, ?_⟩ hwriting)
  show w'.pc u = .store tmp
  rw [(frame_only hw').1 u (by simp [hu]), State.goto_pc, Function.update_of_ne hne, htmp]

/-! ## A task alive at a reset -/

section Alive

variable {k : Kind} {w : State Task} (hi : Inv ⟨.delay k, w⟩)
include hi

/-- In the phases before a reset the live tasks that increment are those that count. -/
lemma kind_of_live (hk : k.ResetAfter) {t : Task} (hlock : t.kind.lock ≠ none)
    (hlive : Live (w.pc t)) : t.kind = countingKind k.phaseLock := by
  obtain ⟨l, hl⟩ := Option.ne_none_iff_exists'.mp hlock
  have hle : l = k.phaseLock := hi.live t l hl hlive
  have hcreated : ¬ k.rank < t.kind.rank := fun hlt => hlive.1 (hi.pending t hlt)
  rw [← hle]
  rcases t with ⟨_ | _, i⟩
  · rename_i c
    cases c <;> cases hl <;> rfl
  · rcases hk with rfl | rfl
    · exact absurd (show 0 < 3 by decide) hcreated
    · exact absurd (show 2 < 3 by decide) hcreated

lemma contended (hk : k.ResetAfter) (hshape : Shape ⟨.delay k, w⟩) : Contended k.phaseLock w where
  holder_iff := hi.guards.guarded.holder_iff
  inside u hu := by
    apply kind_of_live hi hk
    · exact fun hnone => hu (hi.atomics u hnone)
    · by_contra hdead
      exact hu (phase_of_not_live hdead)
  counting u hu := hshape.counting u _ hu

/-- **The condition is needed.** If a task that increments `s_global_num` is alive when the
entry function leaves the delay before a reset, the variable can lose its protection. -/
lemma exists_unprotected (cores : ℕ) (hk : k.ResetAfter) (hshape : Shape ⟨.delay k, w⟩) {t : Task}
    (hlock : t.kind.lock ≠ none) (hlive : Live (w.pc t)) :
    ∃ s, Reach (step cores) ⟨.assign k, w⟩ s ∧ ¬ Protected s := by
  have ht := kind_of_live hi hk hlock hlive
  have hcont := contended hi hk hshape
  -- the counter is below the limit after the reset
  obtain ⟨w', u, hw', hu, hwriting⟩ := exists_writing (w := resetGlobalNum w)
    ⟨hcont.holder_iff, hcont.inside, hcont.counting⟩ ht hlive
    (show (0 : ℤ) < iterationNumber by decide)
  rcases hk with rfl | rfl
  · obtain ⟨s, hs, hbad⟩ := unprotected_of_mutex cores hu hwriting
    exact ⟨s, .head (a := .entry) rfl ((reach_workers cores _ hw').trans hs), hbad⟩
  · obtain ⟨-, hlocks, hout⟩ := frame_only hw'
    have hfree : (w'.lock .sMutex).holder = none := by
      rw [hlocks .sMutex (by decide)]
      exact hi.others .sMutex (show Lock.sMutex ≠ .sSpinlock by decide)
    have hearly : w'.timedOut = false := by
      rw [hout, ← Bool.not_eq_true]
      intro htrue
      simpa using hshape.early htrue
    obtain ⟨s, hs, hbad⟩ := unprotected_of_spinlock cores hu hwriting hfree hearly
    exact ⟨s, .head (a := .entry) rfl ((reach_workers cores _ hw').trans hs), hbad⟩

end Alive

/-! ## The result -/

/-- **Protection.** `s_global_num` is protected in every state of every run in which the entry
function goes on to a reset only when the tasks that increment it have exited. A run that has
just gone on earlier can be continued to a state in which it is not. -/
theorem global_num_protected (cores : ℕ) :
    (∀ s, ReachBy (step cores) Joined start s → Protected s) ∧
    ∀ s a s', ReachBy (step cores) Joined start s → ¬ Joined s a → step cores s a = some s' →
      ∃ u, Reach (step cores) s' u ∧ ¬ Protected u := by
  apply And.intro
  · intro s hs
    exact (inv_of_reachBy hs).isProtected
  · intro s a s' hs hbad hstep
    have hi := inv_of_reachBy hs
    have hshape : Shape s := hs.invariant (fun _ _ _ h _ hv => shape_step h hv) shape_start
    simp only [Joined, not_forall, not_not] at hbad
    obtain ⟨rfl, k, hk, he, t, hlock, hlive⟩ := hbad
    rcases s with ⟨e, w⟩
    subst he
    cases hstep
    exact exists_unprotected hi cores hk hshape hlock hlive

/-- The task on core 0 that increments under the mutex. -/
def mutexIter₀ : Task := ⟨.iter .mutex, 0⟩

/-- One core: the task is created and gets between its read and its write while the entry
function delays. -/
lemma reachBy_writing : ∃ s, ReachBy (step 1) Joined start s ∧ s.entry = .delay (.iter .mutex) ∧
    Writing s.workers mutexIter₀ := by
  have hentry : ∀ s : System, (∀ k, s.entry ≠ .delay k) → Joined s .entry :=
    fun s hs _ k _ he => absurd he (hs k)
  have htask : ∀ s, Joined s (.task mutexIter₀) := fun s ha => by cases ha
  refine ⟨_, .head (a := .entry) rfl (hentry _ ?_) (.head (a := .entry) rfl (hentry _ ?_)
    (.head (a := .entry) rfl (hentry _ ?_) (.head (a := .entry) rfl (hentry _ ?_)
    (.head (a := .task mutexIter₀) rfl (htask _) (.head (a := .task mutexIter₀) rfl (htask _)
    (.head (a := .task mutexIter₀) rfl (htask _) (.refl _))))))), rfl, 0, rfl⟩
  · simp [start]
  · simp
  · simp
  · simp

/-- The run above is protected; going on to the reset from there is not. -/
theorem global_num_protected_writing :
    ∃ s, Writing s.workers mutexIter₀ ∧ Protected s ∧
      ∃ u, Reach (step 1) { s with entry := .assign (.iter .mutex) } u ∧ ¬ Protected u := by
  obtain ⟨s, hs, hentry, hwriting⟩ := reachBy_writing
  obtain ⟨hprotected, hneeded⟩ := global_num_protected 1
  refine ⟨s, hwriting, hprotected s hs, ?_⟩
  apply hneeded s .entry _ hs
  · intro hok
    exact hok rfl _ (.inl rfl) hentry mutexIter₀ (by decide) (live_of_writing hwriting)
  · show entryFunc 1 s = _
    rw [entryFunc, hentry]

/-- One core: the task increments once and reads again; the delay ends, the entry function
resets the counter, and the task writes. -/
def lostResetRun : List Action :=
  List.replicate 4 .entry ++ List.replicate 8 (.task mutexIter₀) ++ List.replicate 2 .entry ++
    [.task mutexIter₀]

/-- One increment has been completed since the reset, but the counter is 2. -/
theorem reset_overwritten : ∃ s, exec (step 1) start lostResetRun = some s ∧
    s.workers.sGlobalNum = 2 ∧ s.workers.increments = 1 ∧ ¬ Protected s := by
  refine ⟨_, rfl, rfl, rfl, ?_⟩
  intro h
  have hcount : (2 : ℤ) = 1 := h.counted
  omega

end EntryFunc
end LockExample
end EspLab
