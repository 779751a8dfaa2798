import EspLab.Lib.Rtos
import Mathlib.Data.BitVec
import Mathlib.LinearAlgebra.Matrix.Notation
import Mathlib.Data.Fintype.Basic

/-!
# Homework 2: a matrix product and its sum by two tasks

`HW2/main/main.c`: `task_A` and `task_B` each compute two rows of `M3 = M1 * M2` and then
add the entries of their rows to `sum`, one by one, under `sum_mutex`.

A task is the list of statements its `for` loops run through, and the stage it has reached
in the body of its summing loop. The model is parametric in the matrix dimension, the
number of tasks and the rows each of them owns, and in the arithmetic; `task_A`, `task_B`
and C's 32-bit arithmetic are the instance at the end.
-/

namespace EspLab
namespace MatrixSum

open Transition Rtos

/-- A statement of a task. -/
inductive Stmt (n : ℕ)
  /-- `M3[i][j] += M1[i][k] * M2[k][j]` -/
  | mulAdd (i j k : Fin n)
  /-- the body of the summing loop: take the mutex, `sum += M3[i][j]` between two log
  lines, give the mutex -/
  | addToSum (i j : Fin n)
  /-- `ESP_LOGI(TAG, "After task .., the sum is =%d", sum)` -/
  | logSum
  /-- `vTaskDelete(NULL)` -/
  | delete
deriving DecidableEq

/-- How far a task is in the body of its summing loop. -/
inductive Stage (R : Type*)
  /-- before `xSemaphoreTake(sum_mutex, portMAX_DELAY)` -/
  | idle
  /-- before `ESP_LOGI(TAG, ".. start")` -/
  | locked
  /-- before the read of `sum` -/
  | started
  /-- before the write of `sum` -/
  | loaded (tmp : R)
  /-- before `ESP_LOGI(TAG, ".. end")` -/
  | stored
  /-- before `xSemaphoreGive(sum_mutex)` -/
  | ended

/-- The statements a task still has to run, and its stage in the first of them. -/
structure TaskState (n : ℕ) (R : Type*) where
  todo : List (Stmt n)
  stage : Stage R

/-- A line of the log. -/
inductive Line (τ R : Type*)
  | start (t : τ)
  | stop (t : τ)
  | after (t : τ) (sum : R)

/-- The global variables, the mutex, the tasks and the log. -/
structure State (n : ℕ) (τ R : Type*) where
  M3 : Matrix (Fin n) (Fin n) R
  sum : R
  sumMutex : Mutex τ
  tasks : τ → TaskState n R
  log : List (Line τ R)

variable {n : ℕ} {τ R : Type*}

/-- `M3[i][j] += x` -/
def addEntry [Add R] (M : Matrix (Fin n) (Fin n) R) (i j : Fin n) (x : R) :
    Matrix (Fin n) (Fin n) R :=
  fun i' j' => if i' = i ∧ j' = j then M i j + x else M i' j'

/-- The state with task `t` changed. -/
def State.setTask [DecidableEq τ] (s : State n τ R) (t : τ) (x : TaskState n R) :
    State n τ R :=
  { s with tasks := Function.update s.tasks t x }

/-- One step of task `t`. -/
def step [DecidableEq τ] [Add R] [Mul R] (M1 M2 : Matrix (Fin n) (Fin n) R)
    (s : State n τ R) (t : τ) : Option (State n τ R) :=
  match (s.tasks t).todo, (s.tasks t).stage with
  | [], _ => none
  | .mulAdd i j k :: rest, stage => some
      { s.setTask t ⟨rest, stage⟩ with M3 := addEntry s.M3 i j (M1 i k * M2 k j) }
  | .addToSum i j :: rest, .idle => (s.sumMutex.take t).map fun m =>
      { s.setTask t ⟨.addToSum i j :: rest, .locked⟩ with sumMutex := m }
  | .addToSum i j :: rest, .locked => some
      { s.setTask t ⟨.addToSum i j :: rest, .started⟩ with log := s.log ++ [.start t] }
  | .addToSum i j :: rest, .started => some
      (s.setTask t ⟨.addToSum i j :: rest, .loaded s.sum⟩)
  | .addToSum i j :: rest, .loaded tmp => some
      { s.setTask t ⟨.addToSum i j :: rest, .stored⟩ with sum := tmp + s.M3 i j }
  | .addToSum i j :: rest, .stored => some
      { s.setTask t ⟨.addToSum i j :: rest, .ended⟩ with log := s.log ++ [.stop t] }
  | .addToSum _ _ :: rest, .ended => some
      { s.setTask t ⟨rest, .idle⟩ with sumMutex := s.sumMutex.give t }
  | .logSum :: rest, stage => some
      { s.setTask t ⟨rest, stage⟩ with log := s.log ++ [.after t s.sum] }
  | .delete :: rest, stage => some (s.setTask t ⟨rest, stage⟩)

@[simp] lemma setTask_self [DecidableEq τ] (s : State n τ R) (t : τ) (x : TaskState n R) :
    (s.setTask t x).tasks t = x := Function.update_self ..

@[simp] lemma setTask_sum [DecidableEq τ] (s : State n τ R) (t : τ) (x : TaskState n R) :
    (s.setTask t x).sum = s.sum := rfl

lemma setTask_ne [DecidableEq τ] (s : State n τ R) {t u : τ} (x : TaskState n R)
    (hu : u ≠ t) : (s.setTask t x).tasks u = s.tasks u := Function.update_of_ne hu ..

/-- What a task can do, by the statement it is at. -/
inductive TaskStep [DecidableEq τ] [Add R] [Mul R] (M1 M2 : Matrix (Fin n) (Fin n) R)
    (s : State n τ R) (t : τ) : State n τ R → Prop
  | mulAdd {i j k : Fin n} {l : List (Stmt n)} {g : Stage R} :
      s.tasks t = ⟨.mulAdd i j k :: l, g⟩ →
      TaskStep M1 M2 s t { s.setTask t ⟨l, g⟩ with M3 := addEntry s.M3 i j (M1 i k * M2 k j) }
  | take {i j : Fin n} {l : List (Stmt n)} {m : Mutex τ} :
      s.tasks t = ⟨.addToSum i j :: l, .idle⟩ → s.sumMutex.take t = some m →
      TaskStep M1 M2 s t { s.setTask t ⟨.addToSum i j :: l, .locked⟩ with sumMutex := m }
  | logStart {i j : Fin n} {l : List (Stmt n)} : s.tasks t = ⟨.addToSum i j :: l, .locked⟩ →
      TaskStep M1 M2 s t
        { s.setTask t ⟨.addToSum i j :: l, .started⟩ with log := s.log ++ [.start t] }
  | load {i j : Fin n} {l : List (Stmt n)} : s.tasks t = ⟨.addToSum i j :: l, .started⟩ →
      TaskStep M1 M2 s t (s.setTask t ⟨.addToSum i j :: l, .loaded s.sum⟩)
  | store {i j : Fin n} {l : List (Stmt n)} {tmp : R} :
      s.tasks t = ⟨.addToSum i j :: l, .loaded tmp⟩ →
      TaskStep M1 M2 s t
        { s.setTask t ⟨.addToSum i j :: l, .stored⟩ with sum := tmp + s.M3 i j }
  | logEnd {i j : Fin n} {l : List (Stmt n)} : s.tasks t = ⟨.addToSum i j :: l, .stored⟩ →
      TaskStep M1 M2 s t
        { s.setTask t ⟨.addToSum i j :: l, .ended⟩ with log := s.log ++ [.stop t] }
  | give {i j : Fin n} {l : List (Stmt n)} : s.tasks t = ⟨.addToSum i j :: l, .ended⟩ →
      TaskStep M1 M2 s t { s.setTask t ⟨l, .idle⟩ with sumMutex := s.sumMutex.give t }
  | logSum {l : List (Stmt n)} {g : Stage R} : s.tasks t = ⟨.logSum :: l, g⟩ →
      TaskStep M1 M2 s t { s.setTask t ⟨l, g⟩ with log := s.log ++ [.after t s.sum] }
  | delete {l : List (Stmt n)} {g : Stage R} : s.tasks t = ⟨.delete :: l, g⟩ →
      TaskStep M1 M2 s t (s.setTask t ⟨l, g⟩)

theorem step_cases [DecidableEq τ] [Add R] [Mul R] {M1 M2 : Matrix (Fin n) (Fin n) R}
    {s s' : State n τ R} {t : τ} (h : step M1 M2 s t = some s') : TaskStep M1 M2 s t s' := by
  have heta : s.tasks t = ⟨(s.tasks t).todo, (s.tasks t).stage⟩ := rfl
  unfold step at h
  split at h <;> rename_i htodo
  · cases h
  · cases h
    exact .mulAdd (by rw [heta, htodo])
  · rename_i hstage
    rcases Option.map_eq_some_iff.mp h with ⟨m, hm, rfl⟩
    exact .take (by rw [heta, htodo, hstage]) hm
  · rename_i hstage
    cases h
    exact .logStart (by rw [heta, htodo, hstage])
  · rename_i hstage
    cases h
    exact .load (by rw [heta, htodo, hstage])
  · rename_i hstage
    cases h
    exact .store (by rw [heta, htodo, hstage])
  · rename_i hstage
    cases h
    exact .logEnd (by rw [heta, htodo, hstage])
  · rename_i hstage
    cases h
    exact .give (by rw [heta, htodo, hstage])
  · cases h
    exact .logSum (by rw [heta, htodo])
  · cases h
    exact .delete (by rw [heta, htodo])

/-! ## The loops -/

/-- `for i in rows, for j, for k`: the product loop. -/
def mulLoop (rows : List (Fin n)) : List (Stmt n) :=
  rows.flatMap fun i => (List.finRange n).flatMap fun j =>
    (List.finRange n).map fun k => .mulAdd i j k

/-- `for i in rows, for j`: the summing loop. -/
def sumLoop (rows : List (Fin n)) : List (Stmt n) :=
  rows.flatMap fun i => (List.finRange n).map fun j => .addToSum i j

/-- The statements of a task that owns `rows`. -/
def task (rows : List (Fin n)) : List (Stmt n) :=
  mulLoop rows ++ sumLoop rows ++ [.logSum, .delete]

/-- The mutex exists and the tasks have been created; `M3` and `sum` are zero. -/
def start [Zero R] (rows : τ → List (Fin n)) : State n τ R where
  M3 := 0
  sum := 0
  sumMutex := .free
  tasks t := ⟨task (rows t), .idle⟩
  log := []

/-- Every task has run all its statements. -/
def Finished (s : State n τ R) : Prop := ∀ t, (s.tasks t).todo = []

/-! ## The tasks of the homework -/

/-- `task_A` and `task_B`. -/
inductive Task
  | A
  | B
deriving DecidableEq

instance : Fintype Task where
  elems := {.A, .B}
  complete t := by cases t <;> simp

/-- The bounds of the loops over `i`. -/
def taskRows : Task → List (Fin 4)
  | .A => [0, 1]
  | .B => [2, 3]

/-- `task_A` -/
def taskA : List (Stmt 4) := task (taskRows .A)

/-- `task_B` -/
def taskB : List (Stmt 4) := task (taskRows .B)

/-- `app_main`: both tasks are created; integers are 32 bits wide. -/
def appMain : State 4 Task (BitVec 32) := start taskRows

/-- The initial value of `M1`. -/
def M1 : Matrix (Fin 4) (Fin 4) (BitVec 32) :=
  !![1, 2, 3, 4; 1, 0, 0, 1; 1, 2, 0, 0; 3, 2, 1, 0]

/-- The initial value of `M2`. -/
def M2 : Matrix (Fin 4) (Fin 4) (BitVec 32) :=
  !![1, 2, 4, 3; 1, 1, 0, 1; 1, 0, 2, 0; 0, 1, 1, 0]

end MatrixSum
end EspLab
