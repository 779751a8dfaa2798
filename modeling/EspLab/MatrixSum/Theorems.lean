import EspLab.MatrixSum.Model
import Mathlib.Algebra.BigOperators.Fin
import Mathlib.Algebra.Module.BigOperators
import Mathlib.Tactic.Abel

/-!
# The product and the sum are complete under every schedule

The invariants compare what has been done with what is left: an entry of `M3` plus the
products still to be added to it is the entry of `M1 * M2`, and `sum` plus the entries still
to be added is the sum of all entries. A task adds an entry of `M3` only after its own
product loop is over, and no other task owns that row, so the entry is final by then; the
mutex makes the read and the write of `sum` one update.
-/

namespace EspLab
namespace MatrixSum

open Transition Rtos

variable {n : ℕ} {τ R : Type*}

/-! ## The statements that are left -/

/-- What is left of a summing loop. -/
inductive SumTail (rows : List (Fin n)) : List (Stmt n) → Prop
  | logSum : SumTail rows [.logSum, .delete]
  | add {i j : Fin n} {l : List (Stmt n)} : i ∈ rows → SumTail rows l →
      SumTail rows (.addToSum i j :: l)

/-- What is left of a product loop and the loop after it. -/
inductive MulTail (rows : List (Fin n)) : List (Stmt n) → Prop
  | sum {l : List (Stmt n)} : SumTail rows l → MulTail rows l
  | mul {i j k : Fin n} {l : List (Stmt n)} : i ∈ rows → MulTail rows l →
      MulTail rows (.mulAdd i j k :: l)

/-- What is left of a task. -/
def Tail (rows : List (Fin n)) (l : List (Stmt n)) : Prop :=
  l = [] ∨ l = [.delete] ∨ MulTail rows l

variable {rows : List (Fin n)} {l : List (Stmt n)} {i j k : Fin n}

lemma SumTail.append (h : SumTail rows l) (is : List (Fin n)) (his : ∀ i ∈ is, i ∈ rows) :
    SumTail rows (sumLoop is ++ l) := by
  induction is with
  | nil => exact h
  | cons i is ih =>
    have htail := ih fun i' hi' => his i' (List.mem_cons_of_mem i hi')
    have hrow : ∀ js : List (Fin n),
        SumTail rows (js.map (fun j => Stmt.addToSum i j) ++ (sumLoop is ++ l)) := by
      intro js
      induction js with
      | nil => exact htail
      | cons j js ihj => exact .add (his i (List.mem_cons_self ..)) ihj
    simpa [sumLoop] using hrow (List.finRange n)

lemma MulTail.append (h : MulTail rows l) (is : List (Fin n)) (his : ∀ i ∈ is, i ∈ rows) :
    MulTail rows (mulLoop is ++ l) := by
  have hflat : ∀ (m : List (Stmt n)), (∀ s ∈ m, ∃ i ∈ rows, ∃ j k, s = .mulAdd i j k) →
      MulTail rows (m ++ l) := by
    intro m hm
    induction m with
    | nil => exact h
    | cons s m ih =>
      rcases hm s (List.mem_cons_self ..) with ⟨i, hi, j, k, rfl⟩
      exact .mul hi (ih fun s' hs' => hm s' (List.mem_cons_of_mem _ hs'))
  apply hflat
  intro s hs
  simp only [mulLoop, List.mem_flatMap, List.mem_map] at hs
  rcases hs with ⟨i, hi, j, -, k, -, rfl⟩
  exact ⟨i, his i hi, j, k, rfl⟩

lemma tail_task (rows : List (Fin n)) : Tail rows (task rows) := by
  have hsum : SumTail rows (sumLoop rows ++ [.logSum, .delete]) :=
    SumTail.logSum.append rows fun i hi => hi
  have hmul := (MulTail.sum hsum).append rows fun i hi => hi
  exact .inr (.inr (by simpa [task, List.append_assoc] using hmul))

lemma SumTail.logSum_mem (h : SumTail rows l) : Stmt.logSum ∈ l := by
  induction h with
  | logSum => exact List.mem_cons_self ..
  | add _ _ ih => exact List.mem_cons_of_mem _ ih

lemma MulTail.logSum_mem (h : MulTail rows l) : Stmt.logSum ∈ l := by
  induction h with
  | sum h => exact h.logSum_mem
  | mul _ _ ih => exact List.mem_cons_of_mem _ ih

/-- A task that has logged the sum is past its summing loop. -/
lemma Tail.logged (h : Tail rows l) (hl : Stmt.logSum ∉ l) : l = [] ∨ l = [.delete] := by
  rcases h with h | h | h
  · exact .inl h
  · exact .inr h
  · exact absurd h.logSum_mem hl

lemma Tail.mulAdd (h : Tail rows (.mulAdd i j k :: l)) : i ∈ rows ∧ MulTail rows l := by
  rcases h with h | h | h
  · cases h
  · cases h
  · cases h with
    | sum h => cases h
    | mul hi h => exact ⟨hi, h⟩

lemma Tail.addToSum (h : Tail rows (.addToSum i j :: l)) : i ∈ rows ∧ SumTail rows l := by
  rcases h with h | h | h
  · cases h
  · cases h
  · cases h with
    | sum h => cases h with
      | add hi h => exact ⟨hi, h⟩

lemma Tail.logSum (h : Tail rows (.logSum :: l)) : l = [.delete] := by
  rcases h with h | h | h
  · cases h
  · cases h
  · cases h with
    | sum h => cases h with
      | logSum => rfl

lemma Tail.delete (h : Tail rows (.delete :: l)) : l = [] := by
  rcases h with h | h | h
  · cases h
  · simpa using h
  · cases h with
    | sum h => cases h

/-! ## The work that is left -/

section Work

variable [NonUnitalNonAssocSemiring R] {M1 M2 : Matrix (Fin n) (Fin n) R}

/-- What a statement adds to the entry `(i, j)` of `M3`. -/
def Stmt.product (M1 M2 : Matrix (Fin n) (Fin n) R) (i j : Fin n) : Stmt n → R
  | .mulAdd i' j' k => if i' = i ∧ j' = j then M1 i k * M2 k j else 0
  | _ => 0

/-- What a statement adds to `sum`, given the final matrix. -/
def Stmt.addend (P : Matrix (Fin n) (Fin n) R) : Stmt n → R
  | .addToSum i j => P i j
  | _ => 0

/-- The products a task still has to add to the entry `(i, j)`. -/
def TaskState.products (M1 M2 : Matrix (Fin n) (Fin n) R) (i j : Fin n)
    (x : TaskState n R) : R :=
  (x.todo.map (Stmt.product M1 M2 i j)).sum

/-- The statements whose entry is not yet in `sum`. -/
def TaskState.unsummed (x : TaskState n R) : List (Stmt n) :=
  match x.stage with
  | .stored | .ended => x.todo.tail
  | _ => x.todo

/-- The entries a task still has to add to `sum`. -/
def TaskState.addends (P : Matrix (Fin n) (Fin n) R) (x : TaskState n R) : R :=
  (x.unsummed.map (Stmt.addend P)).sum

lemma SumTail.product_eq_zero (h : SumTail rows l) (i j : Fin n) :
    (l.map (Stmt.product M1 M2 i j)).sum = 0 := by
  induction h with
  | logSum => simp [Stmt.product]
  | add _ _ ih => simpa [Stmt.product] using ih

/-- A task adds nothing to a row it does not own. -/
lemma Tail.product_eq_zero (h : Tail rows l) (hi : i ∉ rows) (j : Fin n) :
    (l.map (Stmt.product M1 M2 i j)).sum = 0 := by
  rcases h with rfl | rfl | h
  · rfl
  · simp [Stmt.product]
  · induction h with
    | sum h => exact h.product_eq_zero i j
    | @mul i' j' k l hi' _ ih =>
      have hne : i' ≠ i := fun h => hi (h ▸ hi')
      simpa [Stmt.product, hne] using ih

lemma sum_map_flatMap {α β : Type*} (l : List α) (f : α → List β) (g : β → R) :
    ((l.flatMap f).map g).sum = (l.map fun a => ((f a).map g).sum).sum := by
  induction l with
  | nil => rfl
  | cons a l ih => simp [ih]

lemma sum_map_ite_eq_count (is : List (Fin n)) (i : Fin n) (x : R) :
    (is.map fun i' => if i' = i then x else 0).sum = is.count i • x := by
  induction is with
  | nil => simp
  | cons i' is ih =>
    rw [List.map_cons, List.sum_cons, ih, List.count_cons]
    by_cases hi : i' = i
    · simp [hi, add_smul, add_comm]
    · simp [hi]

/-- The product loop over `is` adds the whole entry once for each time the row occurs. -/
lemma mulLoop_products (is : List (Fin n)) (i j : Fin n) :
    ((mulLoop is).map (Stmt.product M1 M2 i j)).sum = is.count i • (M1 * M2) i j := by
  rw [mulLoop, sum_map_flatMap, ← sum_map_ite_eq_count]
  congr 2
  funext i'
  rw [sum_map_flatMap, ← Fin.sum_univ_def]
  by_cases hi : i' = i
  · have hj : ∀ j', (((List.finRange n).map fun k => Stmt.mulAdd i' j' k).map
        (Stmt.product M1 M2 i j)).sum = if j' = j then (M1 * M2) i j else 0 := by
      intro j'
      rw [List.map_map, ← Fin.sum_univ_def, Matrix.mul_apply]
      by_cases hj : j' = j <;> simp [Stmt.product, hi, hj]
    simp only [hj]
    simp [hi]
  · have hj : ∀ j', (((List.finRange n).map fun k => Stmt.mulAdd i' j' k).map
        (Stmt.product M1 M2 i j)).sum = 0 := by
      intro j'
      rw [List.map_map, ← Fin.sum_univ_def]
      simp [Stmt.product, hi]
    simp only [hj]
    simp [hi]

/-- The summing loop over `is` adds the whole row once for each time the row occurs. -/
lemma sumLoop_addends (P : Matrix (Fin n) (Fin n) R) (is : List (Fin n)) :
    ((sumLoop is).map (Stmt.addend P)).sum = ∑ i, is.count i • ∑ j, P i j := by
  have hrow : ∀ i', (((List.finRange n).map fun j => Stmt.addToSum i' j).map
      (Stmt.addend P)).sum = ∑ j, P i' j := by
    intro i'
    rw [List.map_map, ← Fin.sum_univ_def]
    rfl
  rw [sumLoop, sum_map_flatMap]
  simp only [hrow]
  rw [Finset.sum_list_map_count]
  apply Finset.sum_subset (Finset.subset_univ _)
  intro i _ hi
  rw [List.count_eq_zero.mpr (by simpa using hi), zero_smul]

lemma mulLoop_addends (P : Matrix (Fin n) (Fin n) R) (is : List (Fin n)) :
    ((mulLoop is).map (Stmt.addend P)).sum = 0 := by
  rw [List.sum_eq_zero]
  intro x hx
  simp only [mulLoop, List.map_flatMap, List.map_map, List.mem_flatMap, List.mem_map] at hx
  rcases hx with ⟨i, -, j, -, k, -, rfl⟩
  rfl

lemma task_products (is : List (Fin n)) (i j : Fin n) :
    ((task is).map (Stmt.product M1 M2 i j)).sum = is.count i • (M1 * M2) i j := by
  have hsum : SumTail is (sumLoop is ++ [.logSum, .delete]) :=
    SumTail.logSum.append is fun i hi => hi
  rw [task, List.append_assoc, List.map_append, List.sum_append, mulLoop_products,
    hsum.product_eq_zero, add_zero]

lemma task_addends (P : Matrix (Fin n) (Fin n) R) (is : List (Fin n)) :
    ((task is).map (Stmt.addend P)).sum = ∑ i, is.count i • ∑ j, P i j := by
  rw [task, List.map_append, List.sum_append, List.map_append, List.sum_append,
    mulLoop_addends, sumLoop_addends]
  simp [Stmt.addend]

end Work

/-! ## The invariant -/

/-- The critical section of a summing loop. -/
def Stage.phase : Stage R → Phase R
  | .idle => .outside
  | .loaded tmp => .loaded tmp
  | _ => .inside

/-- Each row belongs to exactly one task, once. -/
def RowPartition [Fintype τ] (rows : τ → List (Fin n)) : Prop :=
  ∀ i, ∑ t, (rows t).count i = 1

variable [Fintype τ] [DecidableEq τ]

lemma RowPartition.not_mem {rows : τ → List (Fin n)} (h : RowPartition rows) {t u : τ}
    (hu : u ≠ t) {i : Fin n} (hi : i ∈ rows t) : i ∉ rows u := by
  intro hiu
  have hsum := h i
  rw [← Finset.add_sum_erase _ _ (Finset.mem_univ t)] at hsum
  have hle : (rows u).count i ≤ ∑ v ∈ Finset.univ.erase t, (rows v).count i :=
    Finset.single_le_sum (f := fun v => (rows v).count i) (fun _ _ => Nat.zero_le _)
      (Finset.mem_erase.mpr ⟨hu, Finset.mem_univ u⟩)
  have ht := List.count_pos_iff.mpr hi
  have hu := List.count_pos_iff.mpr hiu
  omega

lemma sum_tasks {M : Type*} [AddCommMonoid M] (f : TaskState n R → M) (s : State n τ R) (t : τ) :
    ∑ u, f (s.tasks u) = f (s.tasks t) + ∑ u ∈ Finset.univ.erase t, f (s.tasks u) :=
  (Finset.add_sum_erase _ _ (Finset.mem_univ t)).symm

lemma sum_setTask {M : Type*} [AddCommMonoid M] (f : TaskState n R → M) (s : State n τ R) (t : τ)
    (x : TaskState n R) :
    ∑ u, f ((s.setTask t x).tasks u) = f x + ∑ u ∈ Finset.univ.erase t, f (s.tasks u) := by
  rw [sum_tasks f (s.setTask t x) t, setTask_self]
  congr 1
  apply Finset.sum_congr rfl
  intro u hu
  rw [setTask_ne s x (Finset.ne_of_mem_erase hu)]

omit [Fintype τ] in
lemma forall_setTask {p : τ → TaskState n R → Prop} {s : State n τ R} {t : τ}
    {x : TaskState n R} (h : ∀ u, p u (s.tasks u)) (hx : p t x) :
    ∀ u, p u ((s.setTask t x).tasks u) := by
  intro u
  by_cases hu : u = t
  · rw [hu, setTask_self]
    exact hx
  · rw [setTask_ne s x hu]
    exact h u

variable [NonUnitalNonAssocSemiring R]

/-- The sum of all entries of a matrix. -/
def entrySum (P : Matrix (Fin n) (Fin n) R) : R := ∑ i, ∑ j, P i j

/-- A task is what is left of its program, and in its summing loop unless idle. -/
def TaskOk (rows : List (Fin n)) (x : TaskState n R) : Prop :=
  Tail rows x.todo ∧ (x.stage ≠ .idle → ∃ i j l, x.todo = .addToSum i j :: l)

omit [Fintype τ] [DecidableEq τ] [NonUnitalNonAssocSemiring R] in
lemma TaskOk.idle {rows : List (Fin n)} {l : List (Stmt n)} {g : Stage R}
    (h : TaskOk rows ⟨l, g⟩) (hl : ∀ i j m, l ≠ .addToSum i j :: m) : g = .idle := by
  by_contra hg
  rcases h.2 hg with ⟨i, j, m, hm⟩
  exact hl i j m hm

/-- The invariant of the tasks of a partition. -/
structure Inv (M1 M2 : Matrix (Fin n) (Fin n) R) (rows : τ → List (Fin n))
    (s : State n τ R) : Prop where
  ok : ∀ t, TaskOk (rows t) (s.tasks t)
  guarded : Guarded s.sumMutex s.sum fun t => (s.tasks t).stage.phase
  product : ∀ i j, s.M3 i j + ∑ t, (s.tasks t).products M1 M2 i j = (M1 * M2) i j
  total : s.sum + ∑ t, (s.tasks t).addends (M1 * M2) = entrySum (M1 * M2)
  reported : (∀ t, Stmt.logSum ∉ (s.tasks t).todo) →
    ∃ t, s.log.getLast? = some (.after t (entrySum (M1 * M2)))

variable {M1 M2 : Matrix (Fin n) (Fin n) R} {rows : τ → List (Fin n)}

omit [DecidableEq τ] in
lemma inv_start [Nonempty τ] (hrows : RowPartition rows) : Inv M1 M2 rows (start rows) where
  ok t := ⟨tail_task (rows t), fun h => absurd rfl h⟩
  guarded := .of_free fun t => rfl
  product i j := by
    simp only [start, TaskState.products, task_products, Matrix.zero_apply, zero_add]
    rw [← Finset.sum_smul, hrows i, one_smul]
  total := by
    simp only [start, TaskState.addends, TaskState.unsummed, task_addends, zero_add, entrySum]
    rw [Finset.sum_comm]
    apply Finset.sum_congr rfl
    intro i _
    rw [← Finset.sum_smul, hrows i, one_smul]
  reported h := by
    rcases ‹Nonempty τ› with ⟨t⟩
    exact absurd (by simp [start, task]) (h t)

/-- A step of `t` that changes neither `M3` nor `sum` but what `t` has left. -/
lemma Inv.congr {s s' : State n τ R} {t : τ} {x : TaskState n R} (h : Inv M1 M2 rows s)
    (htasks : s'.tasks = (s.setTask t x).tasks) (hM3 : s'.M3 = s.M3) (hsum : s'.sum = s.sum)
    (hok : TaskOk (rows t) x)
    (hguard : Guarded s'.sumMutex s'.sum fun u => (s'.tasks u).stage.phase)
    (hprod : ∀ i j, x.products M1 M2 i j = (s.tasks t).products M1 M2 i j)
    (hadd : x.addends (M1 * M2) = (s.tasks t).addends (M1 * M2))
    (hrep : (∀ u, Stmt.logSum ∉ (s'.tasks u).todo) →
      ∃ u, s'.log.getLast? = some (.after u (entrySum (M1 * M2)))) : Inv M1 M2 rows s' where
  ok u := by
    rw [htasks]
    exact forall_setTask h.ok hok u
  guarded := hguard
  product i j := by
    rw [htasks, hM3, sum_setTask, hprod, ← sum_tasks (TaskState.products M1 M2 i j)]
    exact h.product i j
  total := by
    rw [htasks, hsum, sum_setTask, hadd, ← sum_tasks (TaskState.addends (M1 * M2))]
    exact h.total
  reported := hrep

omit [Fintype τ] [NonUnitalNonAssocSemiring R] in
lemma phase_setTask_ne {s : State n τ R} {t : τ} (x : TaskState n R) (u : τ) (hu : u ≠ t) :
    ((s.setTask t x).tasks u).stage.phase = (s.tasks u).stage.phase := by
  rw [setTask_ne s x hu]

omit [Fintype τ] [NonUnitalNonAssocSemiring R] in
/-- Moving on within a task's critical section keeps the mutex guarding `sum`. -/
lemma guarded_setTask {s : State n τ R} {t : τ} {x : TaskState n R}
    (h : Guarded s.sumMutex s.sum fun u => (s.tasks u).stage.phase)
    (hx : x.stage.phase = (s.tasks t).stage.phase) :
    Guarded s.sumMutex s.sum fun u => ((s.setTask t x).tasks u).stage.phase := by
  apply h.congr
  intro u
  by_cases hu : u = t
  · rw [hu, setTask_self, hx]
  · exact phase_setTask_ne x u hu

omit [Fintype τ] [NonUnitalNonAssocSemiring R] in
/-- A task with a statement of its summing loop left has not logged the sum. -/
lemma not_reported {s : State n τ R} {t : τ} {l : List (Stmt n)} {g : Stage R} {p : Prop}
    (hl : Stmt.logSum ∈ l) (h : ∀ u, Stmt.logSum ∉ ((s.setTask t ⟨l, g⟩).tasks u).todo) : p := by
  have ht := h t
  rw [setTask_self] at ht
  exact absurd hl ht

/-- While a task is in its summing loop, the entry it adds is final. -/
lemma Inv.entry_final {s : State n τ R} {t : τ} (h : Inv M1 M2 rows s) (hrows : RowPartition rows)
    (ht : (s.tasks t).todo = .addToSum i j :: l) : s.M3 i j = (M1 * M2) i j := by
  have htail := (h.ok t).1
  rw [ht] at htail
  rcases htail.addToSum with ⟨hi, hl⟩
  have hzero : ∑ u, (s.tasks u).products M1 M2 i j = 0 := by
    apply Finset.sum_eq_zero
    intro u _
    by_cases hu : u = t
    · rw [hu, TaskState.products, ht]
      exact (SumTail.add hi hl).product_eq_zero i j
    · exact (h.ok u).1.product_eq_zero (hrows.not_mem hu hi) j
  rw [← h.product i j, hzero, add_zero]

omit [DecidableEq τ] in
/-- Once every task has logged the sum, or is about to, `sum` is the sum of all entries. -/
lemma Inv.sum_final {s : State n τ R} (h : Inv M1 M2 rows s)
    (hdone : ∀ u, (s.tasks u).todo = [] ∨ (s.tasks u).todo = [.delete] ∨
      (s.tasks u).todo = [.logSum, .delete]) : s.sum = entrySum (M1 * M2) := by
  have hzero : ∑ u, (s.tasks u).addends (M1 * M2) = 0 := by
    apply Finset.sum_eq_zero
    intro u _
    unfold TaskState.addends TaskState.unsummed
    rcases hdone u with hu | hu | hu <;> rw [hu] <;> split <;> simp [Stmt.addend]
  rw [← h.total, hzero, add_zero]

lemma addEntry_apply (M : Matrix (Fin n) (Fin n) R) (i j i' j' : Fin n) (x : R) :
    addEntry M i j x i' j' = M i' j' + if i = i' ∧ j = j' then x else 0 := by
  unfold addEntry
  by_cases h : i' = i ∧ j' = j
  · rcases h with ⟨rfl, rfl⟩
    simp
  · rw [if_neg h, if_neg (by rintro ⟨rfl, rfl⟩; exact h ⟨rfl, rfl⟩), add_zero]

/-- One pass of the product loop. -/
lemma Inv.mulAdd {s : State n τ R} {t : τ} {g : Stage R} (h : Inv M1 M2 rows s)
    (ht : s.tasks t = ⟨.mulAdd i j k :: l, g⟩) :
    Inv M1 M2 rows { s.setTask t ⟨l, g⟩ with M3 := addEntry s.M3 i j (M1 i k * M2 k j) } := by
  have hok := h.ok t
  rw [ht] at hok
  rcases hok.1.mulAdd with ⟨hi, hl⟩
  obtain rfl := hok.idle (by simp)
  -- the product moves from what is left to the entry
  refine ⟨forall_setTask h.ok ⟨.inr (.inr hl), fun hne => absurd rfl hne⟩,
    guarded_setTask h.guarded (by rw [ht]), ?_, ?_, not_reported hl.logSum_mem⟩
  · intro i' j'
    have hold := h.product i' j'
    rw [sum_tasks _ s t, ht] at hold
    rw [sum_setTask, ← hold]
    simp only [TaskState.products, List.map_cons, List.sum_cons, Stmt.product, addEntry_apply]
    by_cases hij : i = i' ∧ j = j'
    · rw [if_pos hij, if_pos hij, hij.1, hij.2]
      abel
    · rw [if_neg hij, if_neg hij]
      abel
  · have hold := h.total
    rw [sum_tasks _ s t, ht] at hold
    rw [sum_setTask, ← hold, setTask_sum]
    simp [TaskState.addends, TaskState.unsummed, Stmt.addend]

/-- The write of `sum`: what was read is still there, and the entry is final. -/
lemma Inv.store {s : State n τ R} {t : τ} {tmp : R} (h : Inv M1 M2 rows s)
    (hrows : RowPartition rows) (ht : s.tasks t = ⟨.addToSum i j :: l, .loaded tmp⟩) :
    Inv M1 M2 rows
      { s.setTask t ⟨.addToSum i j :: l, .stored⟩ with sum := tmp + s.M3 i j } := by
  rcases h.ok t with ⟨htail, -⟩
  rw [ht] at htail
  rcases htail.addToSum with ⟨hi, hl⟩
  -- nobody has written `sum` since the read, and nobody still adds to the entry
  have htmp : tmp = s.sum := h.guarded.fresh t tmp (by rw [ht]; rfl)
  have hentry : s.M3 i j = (M1 * M2) i j := h.entry_final hrows (by rw [ht])
  refine ⟨forall_setTask h.ok ⟨htail, fun _ => ⟨i, j, l, rfl⟩⟩, ?_, ?_, ?_,
    not_reported (List.mem_cons_of_mem _ hl.logSum_mem)⟩
  · refine h.guarded.store (t := t) _ ?_ ?_ (phase_setTask_ne _)
    · rw [ht]
      simp [Stage.phase]
    · rw [setTask_self]
      rfl
  · intro i' j'
    have hold := h.product i' j'
    rw [sum_tasks _ s t, ht] at hold
    rw [sum_setTask]
    exact hold
  · have hold := h.total
    rw [sum_tasks _ s t, ht] at hold
    rw [sum_setTask, ← hold, htmp, hentry]
    simp only [TaskState.addends, TaskState.unsummed, List.tail_cons, List.map_cons,
      List.sum_cons, Stmt.addend]
    abel

/-- A task logs the sum. If it is the last one, the sum is complete. -/
lemma Inv.logSum {s : State n τ R} {t : τ} {g : Stage R} (h : Inv M1 M2 rows s)
    (ht : s.tasks t = ⟨.logSum :: l, g⟩) :
    Inv M1 M2 rows { s.setTask t ⟨l, g⟩ with log := s.log ++ [.after t s.sum] } := by
  have hok := h.ok t
  rw [ht] at hok
  obtain rfl := hok.1.logSum
  obtain rfl := hok.idle (by simp)
  refine h.congr (t := t) (x := ⟨[.delete], .idle⟩) rfl rfl rfl
    ⟨.inr (.inl rfl), fun hne => absurd rfl hne⟩ (guarded_setTask h.guarded (by rw [ht])) ?_ ?_ ?_
  · intro i' j'
    rw [ht]
    simp [TaskState.products, Stmt.product]
  · rw [ht]
    simp [TaskState.addends, TaskState.unsummed, Stmt.addend]
  · -- all the others have logged before, so nothing is left to add
    intro hall
    refine ⟨t, ?_⟩
    rw [List.getLast?_append_of_ne_nil _ (List.cons_ne_nil _ _), h.sum_final]
    · rfl
    · intro u
      by_cases hu : u = t
      · rw [hu, ht]
        exact .inr (.inr rfl)
      · have hlogged := hall u
        simp only [setTask_ne s _ hu] at hlogged
        exact (h.ok u).1.logged hlogged |>.imp_right .inl

/-- A step of `t` within a pass of its summing loop that writes neither `M3` nor `sum`. -/
lemma Inv.pass {s s' : State n τ R} {t : τ} {g e : Stage R} (h : Inv M1 M2 rows s)
    (ht : s.tasks t = ⟨.addToSum i j :: l, g⟩)
    (htasks : s'.tasks = (s.setTask t ⟨.addToSum i j :: l, e⟩).tasks)
    (hM3 : s'.M3 = s.M3) (hsum : s'.sum = s.sum)
    (hguard : Guarded s'.sumMutex s'.sum fun u => (s'.tasks u).stage.phase)
    (hadd : TaskState.addends (M1 * M2) ⟨.addToSum i j :: l, e⟩ =
      TaskState.addends (M1 * M2) ⟨.addToSum i j :: l, g⟩) : Inv M1 M2 rows s' := by
  have htail := (h.ok t).1
  rw [ht] at htail
  refine h.congr htasks hM3 hsum ⟨htail, fun _ => ⟨i, j, l, rfl⟩⟩ hguard ?_ ?_ ?_
  · intro i' j'
    rw [ht]
    rfl
  · rw [ht]
    exact hadd
  · rw [htasks]
    exact not_reported (List.mem_cons_of_mem _ htail.addToSum.2.logSum_mem)

/-- The end of a pass of the summing loop. -/
lemma Inv.give {s : State n τ R} {t : τ} (h : Inv M1 M2 rows s)
    (ht : s.tasks t = ⟨.addToSum i j :: l, .ended⟩) :
    Inv M1 M2 rows { s.setTask t ⟨l, .idle⟩ with sumMutex := s.sumMutex.give t } := by
  have htail := (h.ok t).1
  rw [ht] at htail
  rcases htail.addToSum with ⟨-, hl⟩
  refine h.congr (t := t) (x := ⟨l, .idle⟩) rfl rfl rfl
    ⟨.inr (.inr (.sum hl)), fun hne => absurd rfl hne⟩ ?_ ?_ (by rw [ht]; rfl)
    (not_reported hl.logSum_mem)
  · refine h.guarded.give (t := t) ?_ ?_ (phase_setTask_ne _)
    · rw [ht]
      simp [Stage.phase]
    · rw [setTask_self]
      rfl
  · intro i' j'
    rw [ht]
    simp [TaskState.products, Stmt.product]

/-- A task that deletes itself has logged the sum before. -/
lemma Inv.delete {s : State n τ R} {t : τ} {g : Stage R} (h : Inv M1 M2 rows s)
    (ht : s.tasks t = ⟨.delete :: l, g⟩) : Inv M1 M2 rows (s.setTask t ⟨l, g⟩) := by
  have hok := h.ok t
  rw [ht] at hok
  obtain rfl := hok.1.delete
  obtain rfl := hok.idle (by simp)
  refine h.congr (t := t) (x := ⟨[], .idle⟩) rfl rfl rfl
    ⟨.inl rfl, fun hne => absurd rfl hne⟩ (guarded_setTask h.guarded (by rw [ht]))
    (fun _ _ => by rw [ht]; simp [TaskState.products, Stmt.product])
    (by rw [ht]; simp [TaskState.addends, TaskState.unsummed, Stmt.addend]) ?_
  intro hall
  apply h.reported
  intro u
  by_cases hu : u = t
  · rw [hu, ht]
    simp
  · rw [← setTask_ne s ⟨[], .idle⟩ hu]
    exact hall u

/-- **Step lemma.** -/
lemma inv_taskStep (hrows : RowPartition rows) {s s' : State n τ R} {t : τ}
    (h : Inv M1 M2 rows s) (hs : TaskStep M1 M2 s t s') : Inv M1 M2 rows s' := by
  cases hs with
  | mulAdd ht => exact h.mulAdd ht
  | store ht => exact h.store hrows ht
  | give ht => exact h.give ht
  | logSum ht => exact h.logSum ht
  | delete ht => exact h.delete ht
  | take ht hm =>
    refine h.pass (e := .locked) ht rfl rfl rfl ?_ rfl
    refine h.guarded.take hm ?_ (phase_setTask_ne _)
    rw [setTask_self]
    rfl
  | logStart ht =>
    exact h.pass (e := .started) ht rfl rfl rfl
      (guarded_setTask h.guarded (by rw [ht]; rfl)) rfl
  | load ht =>
    refine h.pass (e := .loaded s.sum) ht rfl rfl rfl ?_ rfl
    refine h.guarded.load (t := t) ?_ (.inr ?_) (phase_setTask_ne _)
    · rw [ht]
      simp [Stage.phase]
    · rw [setTask_self]
      rfl
  | logEnd ht =>
    exact h.pass (e := .ended) ht rfl rfl rfl
      (guarded_setTask h.guarded (by rw [ht]; rfl)) rfl

/-- **Run lemma.** -/
lemma inv_of_reach [Nonempty τ] (hrows : RowPartition rows) {s : State n τ R}
    (h : Reach (step M1 M2) (start rows) s) : Inv M1 M2 rows s :=
  h.invariant (fun _ _ _ hs ht => inv_taskStep hrows hs (step_cases ht)) (inv_start hrows)

/-! ## Finished runs -/

omit [DecidableEq τ] in
lemma Inv.finished {s : State n τ R} (h : Inv M1 M2 rows s) (hs : Finished s) :
    s.M3 = M1 * M2 ∧ s.sum = entrySum (M1 * M2) ∧
      ∃ t, s.log.getLast? = some (.after t (entrySum (M1 * M2))) := by
  refine ⟨?_, h.sum_final fun u => .inl (hs u), h.reported fun u => by simp [hs u]⟩
  ext i j
  have hprod := h.product i j
  rw [Finset.sum_eq_zero fun u _ => by simp [TaskState.products, hs u], add_zero] at hprod
  exact hprod

end MatrixSum
end EspLab
