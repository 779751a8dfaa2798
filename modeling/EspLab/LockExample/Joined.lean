import EspLab.LockExample.EntryFunc

/-!
# The lock example: `s_global_num` while the tasks are joined

Within one kind of tasks the lock protects `s_global_num`. Two kinds that use different locks,
or a kind and a reset of the entry function, are kept apart by delays only. So the variable is
protected in the runs in which every task that increments it has exited when the entry function
leaves the delay before a reset.
-/

namespace EspLab
namespace LockExample
namespace EntryFunc

open Transition Rtos

/-- The task is between the read and the write of `s_global_num++`. -/
def Writing (s : State Task) (t : Task) : Prop := ∃ tmp, s.pc t = .store tmp

/-- The assignment after the delay of this kind is a reset. -/
def Kind.ResetAfter (k : Kind) : Prop := k = .iter .mutex ∨ k = .iter .atomic

/-- The entry function is at `s_global_num = 0`. -/
def AtReset (e : EntryPc) : Prop := e = .init ∨ ∃ k : Kind, k.ResetAfter ∧ e = .assign k

/-- One access to `s_global_num` at a time, and no increment since the last reset lost. -/
structure Protected (s : System) : Prop where
  exclusive : ∀ t u, Writing s.workers t → Writing s.workers u → t = u
  apart : AtReset s.entry → ∀ t, ¬ Writing s.workers t
  counted : s.workers.sGlobalNum = s.workers.increments

/-- The entry function leaves the delay before a reset only when no task that increments
`s_global_num` is alive. -/
def Joined (s : System) (a : Action) : Prop :=
  a = .entry → ∀ k : Kind, k.ResetAfter → s.entry = .delay k →
    ∀ t : Task, t.kind.lock ≠ none → ¬ Live (s.workers.pc t)

/-! ## The invariant -/

/-- The order in which the kinds are created. -/
def Kind.rank : Kind → ℕ
  | .iter .mutex => 0
  | .iter .spinlock => 1
  | .iter .atomic => 2
  | .mutex => 3

/-- The lock in use while the entry function creates and awaits the tasks of a kind. -/
def Kind.phaseLock : Kind → Lock
  | .iter .mutex | .mutex => .sMutex
  | .iter .spinlock | .iter .atomic => .sSpinlock

/-- The lock in use. -/
def EntryPc.lock : EntryPc → Lock
  | .create k _ | .delay k | .assign k => k.phaseLock
  | .init | .createMutex | .grace | .returned _ => .sMutex

/-- The task has not been created yet. -/
def Pending (t : Task) : EntryPc → Prop
  | .init | .createMutex => True
  | .create k i => (t.kind = k ∧ i ≤ t.index) ∨ k.rank < t.kind.rank
  | .delay k | .assign k => k.rank < t.kind.rank
  | .grace | .returned _ => False

/-- The live tasks that increment `s_global_num` all use the lock in use, and before a reset
there are none. -/
structure Inv (s : System) : Prop where
  guards : Guards s.entry.lock 0 s.workers
  others : ∀ l, l ≠ s.entry.lock → (s.workers.lock l).holder = none
  live : ∀ t l, t.kind.lock = some l → Live (s.workers.pc t) → l = s.entry.lock
  atomics : ∀ t, t.kind.lock = none → (s.workers.pc t).phase = .outside
  pending : ∀ t, Pending t s.entry → s.workers.pc t = .absent
  quiet : AtReset s.entry → ∀ t, t.kind.lock ≠ none → ¬ Live (s.workers.pc t)

/-- The entry function resets at its start and after a delay only. -/
lemma not_atReset {e : EntryPc} (hinit : e ≠ .init) (hassign : ∀ k, e ≠ .assign k) :
    ¬ AtReset e := by
  rintro (he | ⟨k, -, he⟩)
  · exact hinit he
  · exact hassign k he

lemma Kind.lock_eq_phaseLock {k : Kind} {l : Lock} (h : k.lock = some l) : l = k.phaseLock := by
  cases k with
  | iter c => cases c <;> cases h <;> rfl
  | mutex => cases h; rfl

lemma phase_of_not_live {c : Pc} (h : ¬ Live c) : c.phase = .outside := by
  cases c <;> simp_all [Live, Pc.phase]

lemma live_of_writing {s : State Task} {t : Task} (h : Writing s t) : Live (s.pc t) := by
  rcases h with ⟨tmp, htmp⟩
  simp [Live, htmp]

/-- Without live tasks that use a lock nobody is in a section. -/
lemma Inv.outside {s : System} (h : Inv s)
    (hq : ∀ t : Task, t.kind.lock ≠ none → ¬ Live (s.workers.pc t)) (t : Task) :
    (s.workers.pc t).phase = .outside := by
  by_cases ht : t.kind.lock = none
  · exact h.atomics t ht
  · exact phase_of_not_live (hq t ht)

/-- Without live tasks that use a lock every lock is free. -/
lemma Inv.free {s : System} (h : Inv s)
    (hq : ∀ t : Task, t.kind.lock ≠ none → ¬ Live (s.workers.pc t)) (l : Lock) :
    (s.workers.lock l).holder = none := by
  by_cases hl : l = s.entry.lock
  · rw [hl, Option.eq_none_iff_forall_ne_some]
    intro t ht
    exact (h.guards.guarded.holder_iff t).mp ht (h.outside hq t)
  · exact h.others l hl

/-- The variable is protected wherever the invariant holds. -/
lemma Inv.isProtected {s : System} (h : Inv s) : Protected s where
  exclusive t u ht hu := by
    rcases ht with ⟨x, hx⟩
    rcases hu with ⟨y, hy⟩
    exact h.guards.guarded.exclusive (by simp [hx, Pc.phase]) (by simp [hy, Pc.phase])
  apart hr t ht := by
    apply h.quiet hr t ?_ (live_of_writing ht)
    intro hnone
    rcases ht with ⟨x, hx⟩
    have hout := h.atomics t hnone
    simp [hx, Pc.phase] at hout
  counted := h.guards.count.trans (Int.zero_add _)

/-- **Step lemma**, for the workers. -/
lemma inv_worker {s : System} {t : Task} {w : State Task} (h : Inv s)
    (hs : workerStep s.workers t = some w) : Inv { s with workers := w } := by
  obtain ⟨hlive, c, hpc⟩ := workerStep_pc hs
  have hlock : ∀ l, t.kind.lock = some l → l = s.entry.lock := fun l hl => h.live t l hl hlive
  have hne : ∀ u, u ≠ t → w.pc u = s.workers.pc u := by
    intro u hu
    rw [hpc, Function.update_of_ne hu]
  have hback : ∀ u, Live (w.pc u) → Live (s.workers.pc u) := by
    intro u hu
    by_cases hut : u = t
    · rw [hut]
      exact hlive
    · rwa [hne u hut] at hu
  constructor
  case guards => exact guards_workerStep h.guards hs hlock
  case others =>
    intro l hl
    show (w.lock l).holder = none
    rw [workerStep_lock hs fun ht => hl (hlock l ht)]
    exact h.others l hl
  case live =>
    intro u l hl hu
    exact h.live u l hl (hback u hu)
  case atomics =>
    intro u hu
    by_cases hut : u = t
    · subst hut
      exact phase_workerStep hs hu
    · show (w.pc u).phase = .outside
      rw [hne u hut]
      exact h.atomics u hu
  case pending =>
    intro u hu
    have habs := h.pending u hu
    have hut : u ≠ t := by
      intro hut
      rw [hut] at habs
      exact hlive.1 habs
    exact (hne u hut).trans habs
  case quiet =>
    intro hr u hu hl
    exact h.quiet hr u hu (hback u hl)

/-- A step after which nobody is in a section and every lock is free. -/
lemma Inv.rest {s : System} (h : Inv s) {e : EntryPc} {w : State Task}
    (hq : ∀ t : Task, t.kind.lock ≠ none → ¬ Live (s.workers.pc t))
    (hpc : w.pc = s.workers.pc) (hfree : ∀ l, (w.lock l).holder = none)
    (hcount : w.sGlobalNum = w.increments) (hp : ∀ t, Pending t e → Pending t s.entry) :
    Inv ⟨e, w⟩ := by
  have hout := h.outside hq
  constructor
  case guards =>
    constructor
    · show Guarded (w.lock e.lock) _ fun t => (w.pc t).phase
      rw [show w.lock e.lock = .free from congrArg Mutex.mk (hfree e.lock), hpc]
      exact .of_free hout
    · exact hcount.trans (Int.zero_add _).symm
  case others => exact fun l _ => hfree l
  case live =>
    intro t l hl ht
    rw [hpc] at ht
    exact absurd ht (hq t (by rw [hl]; simp))
  case atomics =>
    intro t _
    rw [hpc]
    exact hout t
  case pending =>
    intro t ht
    rw [hpc]
    exact h.pending t (hp t ht)
  case quiet =>
    intro _ t ht
    rw [hpc]
    exact hq t ht

/-- A step that leaves the workers and the lock in use. -/
lemma Inv.next {s : System} (h : Inv s) {e : EntryPc} {w : State Task}
    (hpc : w.pc = s.workers.pc) (hlock : w.lock = s.workers.lock)
    (hnum : w.sGlobalNum = s.workers.sGlobalNum) (hinc : w.increments = s.workers.increments)
    (he : e.lock = s.entry.lock) (hp : ∀ t, Pending t e → Pending t s.entry)
    (hq : AtReset e → ∀ t : Task, t.kind.lock ≠ none → ¬ Live (s.workers.pc t)) :
    Inv ⟨e, w⟩ := by
  rcases h with ⟨⟨hguarded, hcount⟩, hothers, hlive, hatomics, hpending, -⟩
  constructor
  case guards =>
    constructor
    · show Guarded (w.lock e.lock) _ fun t => (w.pc t).phase
      rw [he, hlock, hnum, hpc]
      exact hguarded
    · rw [hnum, hinc]
      exact hcount
  case others =>
    intro l hl
    rw [hlock]
    exact hothers l (by rwa [← he])
  case live =>
    intro t l hl ht
    rw [hpc] at ht
    exact (hlive t l hl ht).trans he.symm
  case atomics =>
    rw [hpc]
    exact hatomics
  case pending =>
    intro t ht
    rw [hpc]
    exact hpending t (hp t ht)
  case quiet =>
    rw [hpc]
    exact hq

/-- The next kind has not been created when the entry function assigns. -/
lemma pending_assign {t : Task} {k k' : Kind} (hk : k'.rank = k.rank + 1)
    (h : Pending t (.create k' 0)) : Pending t (.assign k) := by
  show k.rank < t.kind.rank
  rcases h with ⟨ht, -⟩ | hlt
  · rw [ht]
    omega
  · omega

/-- A task of the current kind is created. -/
lemma inv_create {s : System} {k : Kind} {i : ℕ} (h : Inv s) (he : s.entry = .create k i) :
    Inv { entry := .create k (i + 1), workers := s.workers.goto ⟨k, i⟩ .test } := by
  have habs : s.workers.pc ⟨k, i⟩ = .absent := by
    apply h.pending
    rw [he]
    exact .inl ⟨rfl, Nat.le_refl i⟩
  have hlock : EntryPc.lock (.create k (i + 1)) = s.entry.lock := by rw [he]; rfl
  constructor
  case guards =>
    rw [hlock]
    exact h.guards.move (t := ⟨k, i⟩) (c := .test) (by rw [habs]; rfl) rfl rfl rfl rfl
  case others =>
    intro l hl
    exact h.others l (by rwa [← hlock])
  case live =>
    intro t l hl ht
    rw [hlock]
    by_cases hti : t = ⟨k, i⟩
    · rw [hti] at hl
      rw [he]
      exact Kind.lock_eq_phaseLock hl
    · rw [State.goto_pc, Function.update_of_ne hti] at ht
      exact h.live t l hl ht
  case atomics =>
    intro t ht
    rw [State.goto_pc]
    by_cases hti : t = ⟨k, i⟩
    · rw [hti, Function.update_self]
      rfl
    · rw [Function.update_of_ne hti]
      exact h.atomics t ht
  case pending =>
    intro t ht
    have hti : t ≠ ⟨k, i⟩ := by
      rintro rfl
      rcases ht with ⟨-, hle⟩ | hlt
      · exact absurd hle (Nat.not_succ_le_self i)
      · exact absurd hlt (Nat.lt_irrefl _)
    rw [State.goto_pc, Function.update_of_ne hti]
    apply h.pending
    rw [he]
    rcases ht with ⟨hk, hle⟩ | hlt
    · exact .inl ⟨hk, Nat.le_of_succ_le hle⟩
    · exact .inr hlt
  case quiet =>
    exact fun hr => absurd hr (not_atReset (by simp) (by simp))

/-- Initially no task exists. -/
lemma inv_start : Inv start where
  guards := ⟨.of_free fun _ => rfl, rfl⟩
  others _ _ := rfl
  live _ _ _ ht := absurd rfl ht.1
  atomics _ _ := rfl
  pending _ _ := rfl
  quiet _ _ _ ht := absurd rfl ht.1

/-- **Step lemma**, for the entry function. -/
lemma inv_entry {cores : ℕ} {s s' : System} (h : Inv s) (hok : Joined s .entry)
    (hs : entryFunc cores s = some s') : Inv s' := by
  have habsent : (∀ t, Pending t s.entry) →
      ∀ t : Task, t.kind.lock ≠ none → ¬ Live (s.workers.pc t) :=
    fun hp t _ hl => hl.1 (h.pending t (hp t))
  have hquiet := h.quiet
  rcases s with ⟨e, w⟩
  cases entryFunc_cases hs with
  | init he =>
    subst he
    have hq := habsent fun _ => trivial
    exact h.rest hq rfl (h.free hq) rfl fun _ _ => trivial
  | createMutex he =>
    subst he
    have hq := habsent fun _ => trivial
    refine h.rest hq rfl ?_ h.isProtected.counted fun _ _ => trivial
    intro l
    by_cases hl : l = .sMutex
    · rw [hl]
      rfl
    · show (Function.update w.lock _ _ l).holder = none
      rw [Function.update_of_ne hl]
      exact h.free hq l
  | create he hlt => exact inv_create h he
  | created he hle =>
    subst he
    refine h.next rfl rfl rfl rfl rfl ?_ ?_
    · exact fun _ hp => .inr hp
    · exact fun hr => absurd hr (not_atReset (by simp) (by simp))
  | wake he =>
    subst he
    refine h.next rfl rfl rfl rfl rfl ?_ ?_
    · exact fun _ hp => hp
    · rintro (hr | ⟨k, hk, hr⟩) <;> cases hr
      exact hok rfl _ hk rfl
  | resetForSpinlock he =>
    subst he
    have hq := hquiet (.inr ⟨_, .inl rfl, rfl⟩)
    exact h.rest hq rfl (h.free hq) rfl fun _ hp => pending_assign rfl hp
  | atomicInit he =>
    subst he
    refine h.next rfl rfl rfl rfl rfl ?_ ?_
    · exact fun _ hp => pending_assign rfl hp
    · exact fun hr => absurd hr (not_atReset (by simp) (by simp))
  | resetForMutex he =>
    subst he
    have hq := hquiet (.inr ⟨_, .inr rfl, rfl⟩)
    exact h.rest hq rfl (h.free hq) rfl fun _ hp => pending_assign rfl hp
  | timeOut he =>
    subst he
    refine h.next rfl rfl rfl rfl rfl ?_ ?_
    · exact fun _ hp => hp.elim
    · exact fun hr => absurd hr (not_atReset (by simp) (by simp))
  | done he =>
    subst he
    refine h.next rfl rfl rfl rfl rfl ?_ ?_
    · exact fun _ hp => hp.elim
    · exact fun hr => absurd hr (not_atReset (by simp) (by simp))

/-- **Step lemma.** -/
lemma inv_step {cores : ℕ} {s s' : System} {a : Action} (h : Inv s) (hok : Joined s a)
    (hs : step cores s a = some s') : Inv s' := by
  cases a with
  | entry => exact inv_entry h hok hs
  | noMutex =>
    simp only [step] at hs
    split at hs
    · next he =>
      cases hs
      refine h.next rfl rfl rfl rfl ?_ ?_ ?_
      · rw [he]
        rfl
      · exact fun _ hp => hp.elim
      · exact fun hr => absurd hr (not_atReset (by simp) (by simp))
    · cases hs
  | task t =>
    rcases Option.map_eq_some_iff.mp hs with ⟨w, hw, rfl⟩
    exact inv_worker h hw

/-- **Run lemma.** -/
lemma inv_of_reachBy {cores : ℕ} {s : System} (h : ReachBy (step cores) Joined start s) : Inv s :=
  h.invariant (fun _ _ _ => inv_step) inv_start

end EntryFunc
end LockExample
end EspLab
