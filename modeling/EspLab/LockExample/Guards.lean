import EspLab.LockExample.Model

/-!
# The lock example: what a lock guards

A task is in its critical section from the take of its lock to the give. As long as every
task that increments `s_global_num` uses the same lock, the value a task has read is still
the current one when it writes, and the counter is the number of increments.
-/

namespace EspLab
namespace LockExample

open Transition Rtos

variable {τ : Type*} [DecidableEq τ]

/-- Where a task stands with respect to the section around `s_global_num++`. -/
def Pc.phase : Pc → Phase ℤ
  | .logRead | .load | .give => .inside
  | .store tmp => .loaded tmp
  | _ => .outside

/-- Lock `l` guards `s_global_num`, and no increment since it was `n` has been lost. -/
structure Guards (l : Lock) (n : ℤ) (s : State τ) : Prop where
  guarded : Guarded (s.lock l) s.sGlobalNum fun t => (s.pc t).phase
  count : s.sGlobalNum = n + s.increments

namespace Guards

variable {l : Lock} {n : ℤ} {s s' : State τ} {t : τ}

omit [DecidableEq τ] in
lemma ready (l : Lock) (n : ℤ) : Guards l n (ready n : State τ) where
  guarded := .of_free fun _ => rfl
  count := (Int.add_zero n).symm

/-- Other tasks keep their phase when task `t` moves. -/
lemma phase_of_ne {c : Pc} {u : τ} (hu : u ≠ t) :
    (Function.update s.pc t c u).phase = (s.pc u).phase := by
  rw [Function.update_of_ne hu]

omit [DecidableEq τ] in
/-- A value read in the section is the current one. -/
lemma fresh (h : Guards l n s) {tmp : ℤ} (hpc : s.pc t = .store tmp) : tmp = s.sGlobalNum :=
  h.guarded.fresh t tmp (by rw [hpc]; rfl)

/-- A move within a phase, whatever it does to the log. -/
lemma move (h : Guards l n s) {c : Pc} (hc : c.phase = (s.pc t).phase) (hlock : s'.lock = s.lock)
    (hnum : s'.sGlobalNum = s.sGlobalNum) (hinc : s'.increments = s.increments)
    (hpc : s'.pc = Function.update s.pc t c) : Guards l n s' := by
  constructor
  · rw [hlock, hnum, hpc]
    apply h.guarded.congr
    intro u
    by_cases hu : u = t
    · rw [hu, Function.update_self, hc]
    · rw [phase_of_ne hu]
  · rw [hnum, hinc, h.count]

lemma take (h : Guards l n s) {c : Pc} (hc : c.phase = .inside)
    (hs : s.take l t c = some s') : Guards l n s' := by
  rcases take_eq_some.mp hs with ⟨m, hm, rfl⟩
  constructor
  · show Guarded (Function.update s.lock l m l) _ _
    rw [Function.update_self]
    apply h.guarded.take hm
    · show (Function.update s.pc t c t).phase = .inside
      rw [Function.update_self, hc]
    · exact fun u hu => phase_of_ne hu
  · exact h.count

lemma load (h : Guards l n s) (hpc : s.pc t = .load) : Guards l n (s.load t) := by
  constructor
  · apply h.guarded.load (t := t)
    · simp [hpc, Pc.phase]
    · exact .inr (by simp [Pc.phase])
    · exact fun u hu => phase_of_ne hu
  · exact h.count

lemma store (h : Guards l n s) {tmp : ℤ} (hpc : s.pc t = .store tmp) :
    Guards l n (s.store t tmp) := by
  have htmp := h.fresh hpc
  have hcount := h.count
  constructor
  · apply h.guarded.store (t := t)
    · simp [hpc, Pc.phase]
    · simp [Pc.phase]
    · exact fun u hu => phase_of_ne hu
  · show tmp + 1 = n + ((s.increments + 1 : ℕ) : ℤ)
    omega

lemma give (h : Guards l n s) {c : Pc} (hpc : s.pc t = .give) (hc : c.phase = .outside) :
    Guards l n (s.give l t c) := by
  constructor
  · show Guarded (Function.update s.lock l ((s.lock l).give t) l) _ _
    rw [Function.update_self]
    apply h.guarded.give
    · simp [hpc, Pc.phase]
    · simp [hc]
    · exact fun u hu => phase_of_ne hu
  · exact h.count

/-- **Step lemma.** A task that counts under `l` keeps its discipline. -/
theorem lockedIter {limit : ℤ} (h : Guards l n s) (hs : lockedIter l limit s t = some s') :
    Guards l n s' := by
  cases lockedIter_cases hs with
  | loop hpc _ | exit hpc _ => exact h.move (by rw [hpc]; rfl) rfl rfl rfl rfl
  | take hpc hs => exact h.take rfl hs
  | load hpc => exact h.load hpc
  | store hpc => exact h.store hpc
  | give hpc => exact h.give hpc rfl

/-- **Step lemma.** So does `inc_num_mutex` for the mutex. -/
theorem incNumMutex {taskIndex : ℤ} (h : Guards .sMutex n s)
    (hs : incNumMutex taskIndex s t = some s') : Guards .sMutex n s' := by
  cases incNumMutex_cases hs with
  | loop hpc _ | exit hpc _ => exact h.move (by rw [hpc]; rfl) rfl rfl rfl rfl
  | logRead hpc | logSet hpc => exact h.move (by rw [hpc]; rfl) rfl rfl rfl rfl
  | take hpc hs => exact h.take rfl hs
  | load hpc => exact h.load hpc
  | store hpc => exact h.store hpc
  | give hpc => exact h.give hpc rfl

/-- **Step lemma.** `inc_num_atomic_iter` does not touch `s_global_num`. -/
theorem incNumAtomicIter {limit : ℤ} (h : Guards l n s)
    (hs : incNumAtomicIter limit s t = some s') : Guards l n s' := by
  cases incNumAtomicIter_cases hs with
  | loop hpc _ | exit hpc _ | add hpc => exact h.move (by rw [hpc]; rfl) rfl rfl rfl rfl

end Guards

end LockExample
end EspLab
