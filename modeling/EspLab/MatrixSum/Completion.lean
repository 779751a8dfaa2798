import EspLab.MatrixSum.Theorems
import Mathlib.Data.BitVec

/-!
# The homework always completes, with the full product and sum

No run deadlocks: the mutex is free, or its holder can go on. Each step leaves less to do, so
every run extends to one in which all tasks have finished, and there `M3` is the product and
`sum` the sum of its entries.
-/

namespace EspLab
namespace MatrixSum

open Transition Rtos

variable {n : ℕ} {τ R : Type*} [DecidableEq τ]

/-! ## Progress -/

/-- The steps of the summing loop's body that are behind a task at this stage. -/
def Stage.rank : Stage R → ℕ
  | .idle => 0
  | .locked => 1
  | .started => 2
  | .loaded _ => 3
  | .stored => 4
  | .ended => 5

/-- A bound on the steps a task still takes. -/
def TaskState.remaining (x : TaskState n R) : ℕ := 6 * x.todo.length - x.stage.rank

lemma Stage.rank_le (g : Stage R) : g.rank ≤ 5 := by
  cases g <;> simp [Stage.rank]

section Remaining

variable [Fintype τ] {s s' : State n τ R}

/-- A bound on the steps all tasks still take. -/
def remaining (s : State n τ R) : ℕ := ∑ t, (s.tasks t).remaining

lemma remaining_lt {t : τ} {x : TaskState n R} (htasks : s'.tasks = (s.setTask t x).tasks)
    (hx : x.remaining < (s.tasks t).remaining) : remaining s' < remaining s := by
  rw [remaining, remaining, htasks, sum_setTask, sum_tasks _ s t]
  exact Nat.add_lt_add_right hx _

/-- Running off the first statement of a task leaves it less to do. -/
lemma remaining_tail (a : Stmt n) (l : List (Stmt n)) {g g' : Stage R}
    (hg : g' = .idle ∨ g' = g) :
    (⟨l, g'⟩ : TaskState n R).remaining < (⟨a :: l, g⟩ : TaskState n R).remaining := by
  have hrank := g.rank_le
  have hidle : (Stage.idle : Stage R).rank = 0 := rfl
  rcases hg with rfl | rfl
  · simp only [TaskState.remaining, List.length_cons, hidle]
    omega
  · simp only [TaskState.remaining, List.length_cons]
    omega

/-- Each step leaves less to do. -/
lemma remaining_taskStep [Add R] [Mul R] {M1 M2 : Matrix (Fin n) (Fin n) R} {t : τ}
    (h : TaskStep M1 M2 s t s') : remaining s' < remaining s := by
  cases h with
  | mulAdd ht | logSum ht | delete ht =>
    exact remaining_lt rfl (by rw [ht]; exact remaining_tail _ _ (.inr rfl))
  | give ht => exact remaining_lt rfl (by rw [ht]; exact remaining_tail _ _ (.inl rfl))
  | take ht | logStart ht | load ht | store ht | logEnd ht =>
    refine remaining_lt rfl ?_
    rw [ht]
    simp only [TaskState.remaining, List.length_cons, Stage.rank]
    omega

/-- **Termination.** No schedule is longer than what there was to do. -/
theorem exec_length_le [Add R] [Mul R] {M1 M2 : Matrix (Fin n) (Fin n) R} {ts : List τ}
    (h : exec (step M1 M2) s ts = some s') : ts.length + remaining s' ≤ remaining s := by
  refine length_add_le_of_measure (I := fun _ => True) ?_ trivial h
  intro u t v _ hv
  exact ⟨trivial, remaining_taskStep (step_cases hv)⟩

end Remaining

section Progress

variable [Fintype τ] [NonUnitalNonAssocSemiring R] {M1 M2 : Matrix (Fin n) (Fin n) R}
  {rows : τ → List (Fin n)} {s : State n τ R}

omit [Fintype τ] in
/-- A task that has not finished is blocked at most by the mutex. -/
lemma step_eq_none {t : τ} (h : step M1 M2 s t = none) :
    (s.tasks t).todo = [] ∨ (s.tasks t).stage = .idle ∧ s.sumMutex.holder ≠ none := by
  unfold step at h
  split at h
  · rename_i htodo
    exact .inl htodo
  · cases h
  · rename_i hstage
    exact .inr ⟨hstage, Mutex.take_eq_none.mp (Option.map_eq_none_iff.mp h)⟩
  all_goals cases h

/-- **No deadlock.** The system comes to rest only when every task has finished. -/
lemma Inv.finished_of_stuck (h : Inv M1 M2 rows s) (hs : Stuck (step M1 M2) s) : Finished s := by
  have hfree : s.sumMutex.holder = none := by
    by_contra hheld
    rcases Option.ne_none_iff_exists'.mp hheld with ⟨t, ht⟩
    have hin := (h.guarded.holder_iff t).mp ht
    -- the holder is in the body of its summing loop and can go on
    have hstage : (s.tasks t).stage ≠ .idle := fun hidle => hin (by rw [hidle]; rfl)
    rcases (h.ok t).2 hstage with ⟨i, j, l, hl⟩
    rcases step_eq_none (hs t) with hnil | ⟨hidle, -⟩
    · rw [hl] at hnil
      cases hnil
    · exact hstage hidle
  intro t
  rcases step_eq_none (hs t) with hnil | ⟨-, hheld⟩
  · exact hnil
  · exact absurd hfree hheld

/-- Every state of a run can be run on until all tasks have finished. -/
lemma Inv.exists_finished (hrows : RowPartition rows) (h : Inv M1 M2 rows s) :
    ∃ f, Reach (step M1 M2) s f ∧ Finished f := by
  have hstep : ∀ u t v, Inv M1 M2 rows u → step M1 M2 u t = some v →
      Inv M1 M2 rows v ∧ remaining v < remaining u := by
    intro u t v hu hv
    exact ⟨inv_taskStep hrows hu (step_cases hv), remaining_taskStep (step_cases hv)⟩
  obtain ⟨f, hf, hstuck⟩ := exists_stuck_of_measure hstep h
  have hinv := hf.invariant (fun u t v hu hv => (hstep u t v hu hv).1) h
  exact ⟨f, hf, hinv.finished_of_stuck hstuck⟩

end Progress

/-! ## The two tasks of the homework -/

lemma rowPartition_taskRows : RowPartition taskRows := by
  unfold RowPartition
  decide

/-- From every state of every run the tasks can still finish. -/
lemma exists_finished_of_reach {M1 M2 : Matrix (Fin 4) (Fin 4) (BitVec 32)}
    {s : State 4 Task (BitVec 32)} (h : Reach (step M1 M2) appMain s) :
    ∃ f, Reach (step M1 M2) s f ∧ Finished f :=
  have : Nonempty Task := ⟨.A⟩
  (inv_of_reach rowPartition_taskRows h).exists_finished rowPartition_taskRows

/-- **Every schedule computes the product and its sum.** Once both tasks have finished, `M3`
is the matrix product, `sum` is the sum of its entries, and the last line of the log reports
that sum. -/
theorem matrix_sum_complete (M1 M2 : Matrix (Fin 4) (Fin 4) (BitVec 32))
    {s : State 4 Task (BitVec 32)} (h : Reach (step M1 M2) appMain s) (hs : Finished s) :
    s.M3 = M1 * M2 ∧ s.sum = ∑ i, ∑ j, (M1 * M2) i j ∧
      ∃ t, s.log.getLast? = some (.after t (∑ i, ∑ j, (M1 * M2) i j)) :=
  have : Nonempty Task := ⟨.A⟩
  (inv_of_reach rowPartition_taskRows h).finished hs

/-- The matrices of the homework have a finished run. -/
theorem matrix_sum_complete_homework : ∃ s : State 4 Task (BitVec 32),
    Reach (step M1 M2) appMain s ∧ s.M3 = M1 * M2 ∧ s.sum = ∑ i, ∑ j, (M1 * M2) i j := by
  have hstart : Reach (step M1 M2) appMain appMain := .refl appMain
  rcases exists_finished_of_reach hstart with ⟨f, hf, hfin⟩
  rcases matrix_sum_complete M1 M2 hf hfin with ⟨hprod, hsum, -⟩
  exact ⟨f, hf, hprod, hsum⟩

end MatrixSum
end EspLab
