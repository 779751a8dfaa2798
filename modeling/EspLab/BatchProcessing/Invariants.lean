import EspLab.BatchProcessing.Model

/-!
# Invariants of one run

* `Lifecycle`: which parties exist, and that the time-out flag follows the entry function;
* `Inv`: the mutex guards `s_rcv_item_num`, which counts the queue, the item counted but
  not yet queued and the items dequeued but not yet subtracted; the queue loses nothing.

`credit` and `debt` are the two corrections of the count, read off the program counters.
-/

namespace EspLab
namespace BatchProcessing

open Transition Rtos

/-! ## Lifecycle -/

/-- Which parties exist at each point of the entry function. -/
structure Lifecycle (s : State) : Prop where
  proc_absent : s.entry = .createProc ↔ s.proc = .absent
  rcv_absent : (s.entry = .createProc ∨ s.entry = .createRcv) ↔ s.rcv = .absent
  timedOut_iff : s.timedOut = true ↔ s.entry = .grace ∨ s.entry = .returned
  rcv_deleted : s.rcv = .deleted → s.timedOut = true
  proc_deleted : s.proc = .deleted → s.timedOut = true
  idle : s.rcv = .absent → s.enqueued = []

lemma lifecycle_start (n₀ : ℤ) : Lifecycle (start n₀) := by
  constructor <;> simp [start]

lemma lifecycle_step {s s' : State} {a : Action} (h : Lifecycle s) (hs : step s a = some s') :
    Lifecycle s' := by
  rcases h with ⟨hp, hr, ht, hrd, hpd, hidle⟩
  cases a with
  | entry =>
    cases entryFunc_cases hs with
    | createProc hpc | createRcv hpc | timeOut hpc | done hpc =>
      constructor <;> simp_all
  | rcv rand =>
    cases rcvDataTask_cases hs <;> constructor <;> simp_all
  | proc =>
    cases procDataTask_cases hs <;> constructor <;> simp_all

lemma lifecycle_of_reach {n₀ : ℤ} {s : State} (h : Reach step (start n₀) s) : Lifecycle s :=
  h.invariant (fun _ _ _ => lifecycle_step) (lifecycle_start n₀)

/-! ## Corrections of the count -/

/-- The critical section of `rcv_data_task`. -/
def RcvPc.phase : RcvPc → Phase ℤ
  | .load _ | .give _ => .inside
  | .store _ tmp => .loaded tmp
  | _ => .outside

/-- The critical section of `proc_data_task`. -/
def ProcPc.phase : ProcPc → Phase ℤ
  | .load _ | .give => .inside
  | .store _ tmp => .loaded tmp
  | _ => .outside

/-- The phases of both tasks. -/
def phase (r : RcvPc) (p : ProcPc) : Task → Phase ℤ
  | .rcv => r.phase
  | .proc => p.phase

lemma phase_ne_rcv {r r' : RcvPc} {p : ProcPc} (u : Task) (hu : u ≠ .rcv) :
    phase r' p u = phase r p u := by
  cases u with
  | rcv => exact absurd rfl hu
  | proc => rfl

lemma phase_ne_proc {r : RcvPc} {p p' : ProcPc} (u : Task) (hu : u ≠ .proc) :
    phase r p' u = phase r p u := by
  cases u with
  | rcv => rfl
  | proc => exact absurd rfl hu

/-- One when `rcv_data_task` has counted its item and not yet queued it. -/
def RcvPc.credit : RcvPc → ℕ
  | .give _ | .enqueue _ => 1
  | _ => 0

/-- The items `proc_data_task` has dequeued since it last lowered the counter. -/
def ProcPc.debt : ProcPc → ℕ
  | .receive _ n | .clean n | .take n | .load n | .store n _ => n
  | _ => 0

/-- `rcv_item_num` counts the passes of the dequeue loop and never exceeds a batch. -/
def ProcPc.Bounded : ProcPc → Prop
  | .receive i n => n = i ∧ i ≤ dataBatchSize
  | .clean n | .take n | .load n | .store n _ => n ≤ dataBatchSize
  | _ => True

/-! ## The invariant -/

/-- The invariant of a run that found `n₀` in `s_rcv_item_num`. -/
structure Inv (n₀ : ℤ) (s : State) : Prop where
  life : Lifecycle s
  guarded : Guarded s.sMutex s.sRcvItemNum (phase s.rcv s.proc)
  count : s.sRcvItemNum = n₀ + s.msgQueue.items.length + s.rcv.credit + s.proc.debt
  accounts : s.msgQueue.Accounts s.enqueued s.dequeued
  bounded : s.proc.Bounded

lemma inv_start (n₀ : ℤ) : Inv n₀ (start n₀) where
  life := lifecycle_start n₀
  guarded := .of_free (by rintro (_ | _) <;> rfl)
  count := by simp [start, RcvPc.credit, ProcPc.debt]
  accounts := Fifo.accounts_empty
  bounded := trivial

/-- The mutex keeps guarding the counter through the steps of `rcv_data_task`. -/
lemma guarded_rcvStep {s s' : State}
    (h : Guarded s.sMutex s.sRcvItemNum (phase s.rcv s.proc)) (hs : RcvStep s s') :
    Guarded s'.sMutex s'.sRcvItemNum (phase s'.rcv s'.proc) := by
  cases hs with
  | timedOut hpc | loop _ hpc | enqueue hpc | enough hpc | tooFew hpc | notify hpc =>
    -- outside the section before and after
    apply h.congr
    intro u
    cases u <;> simp [phase, hpc, RcvPc.phase]
  | take hpc hm => exact h.take hm rfl phase_ne_rcv
  | load hpc =>
    exact h.load (t := .rcv) (by simp [phase, hpc, RcvPc.phase]) (.inr rfl) phase_ne_rcv
  | store hpc =>
    exact h.store (t := .rcv) _ (by simp [phase, hpc, RcvPc.phase]) rfl phase_ne_rcv
  | give hpc =>
    refine h.give (t := .rcv) (by simp [phase, hpc, RcvPc.phase]) ?_ phase_ne_rcv
    rfl

/-- The mutex keeps guarding the counter through the steps of `proc_data_task`. -/
lemma guarded_procStep {s s' : State}
    (h : Guarded s.sMutex s.sRcvItemNum (phase s.rcv s.proc)) (hs : ProcStep s s') :
    Guarded s'.sMutex s'.sRcvItemNum (phase s'.rcv s'.proc) := by
  cases hs with
  | timedOut hpc | loop hpc | wake hpc | receive _ hpc | short hpc | full hpc | clean hpc =>
    apply h.congr
    intro u
    cases u <;> simp [phase, hpc, ProcPc.phase]
  | take hpc hm => exact h.take hm rfl phase_ne_proc
  | load hpc =>
    exact h.load (t := .proc) (by simp [phase, hpc, ProcPc.phase]) (.inr rfl) phase_ne_proc
  | store hpc =>
    exact h.store (t := .proc) _ (by simp [phase, hpc, ProcPc.phase]) rfl phase_ne_proc
  | give hpc =>
    refine h.give (t := .proc) (by simp [phase, hpc, ProcPc.phase]) ?_ phase_ne_proc
    rfl

lemma inv_rcvStep {n₀ : ℤ} {s s' : State} {rand : ℕ} (h : Inv n₀ s)
    (hs : rcvDataTask s rand = some s') : Inv n₀ s' := by
  have hlife : Lifecycle s' := lifecycle_step (a := .rcv rand) h.life hs
  have hstep := rcvDataTask_cases hs
  have hguard := guarded_rcvStep h.guarded hstep
  have hcount := h.count
  cases hstep with
  | timedOut hpc | loop _ hpc | take hpc | load hpc | give hpc | enough hpc | tooFew hpc
  | notify hpc =>
    -- no item is counted or queued
    refine ⟨hlife, hguard, ?_, h.accounts, h.bounded⟩
    simpa [hpc, RcvPc.credit] using hcount
  | @store data tmp hpc =>
    -- the value read inside the section is still the current one
    have htmp : tmp = s.sRcvItemNum := h.guarded.fresh .rcv tmp (by simp [phase, hpc, RcvPc.phase])
    refine ⟨hlife, hguard, ?_, h.accounts, h.bounded⟩
    simp only [hpc, RcvPc.credit] at hcount ⊢
    omega
  | enqueue hpc hq =>
    -- the counted item moves into the queue
    refine ⟨hlife, hguard, ?_, h.accounts.send hq, h.bounded⟩
    rcases Fifo.send_eq_some.mp hq with ⟨_, hitems⟩
    simp only [hpc, hitems, RcvPc.credit, List.length_append, List.length_singleton] at hcount ⊢
    omega

lemma inv_procStep {n₀ : ℤ} {s s' : State} (h : Inv n₀ s)
    (hs : procDataTask s = some s') : Inv n₀ s' := by
  have hlife : Lifecycle s' := lifecycle_step (a := .proc) h.life hs
  have hstep := procDataTask_cases hs
  have hguard := guarded_procStep h.guarded hstep
  have hcount := h.count
  have hbound := h.bounded
  cases hstep with
  | timedOut hpc | loop hpc | wake hpc | give hpc =>
    refine ⟨hlife, hguard, ?_, h.accounts, by simp [ProcPc.Bounded]⟩
    simpa [hpc, ProcPc.debt] using hcount
  | short hpc hi | full hpc hi =>
    -- the dequeue loop ends: what it took stays to be subtracted
    refine ⟨hlife, hguard, ?_, h.accounts, ?_⟩
    · simpa [hpc, ProcPc.debt] using hcount
    · rw [hpc] at hbound
      rcases hbound with ⟨rfl, hi⟩
      exact hi
  | clean hpc | take hpc | load hpc =>
    refine ⟨hlife, hguard, ?_, h.accounts, ?_⟩
    · simpa [hpc, ProcPc.debt] using hcount
    · rw [hpc] at hbound
      exact hbound
  | receive hi hpc hq =>
    -- an item moves from the queue to the current batch
    refine ⟨hlife, hguard, ?_, h.accounts.receive hq, ?_⟩
    · have hitems := Fifo.receive_eq_some.mp hq
      simp only [hpc, hitems, ProcPc.debt, List.length_cons] at hcount ⊢
      omega
    · rw [hpc] at hbound
      exact ⟨congrArg (· + 1) hbound.1, hi⟩
  | @store n tmp hpc =>
    -- the subtraction of the batch is all that separated the counter from the count
    have htmp : tmp = s.sRcvItemNum :=
      h.guarded.fresh .proc tmp (by simp [phase, hpc, ProcPc.phase])
    refine ⟨hlife, hguard, ?_, h.accounts, trivial⟩
    simp only [hpc, ProcPc.debt] at hcount ⊢
    omega

lemma inv_entryStep {n₀ : ℤ} {s s' : State} (h : Inv n₀ s)
    (hs : entryFunc s = some s') : Inv n₀ s' := by
  have hlife : Lifecycle s' := lifecycle_step (a := .entry) h.life hs
  have hcount := h.count
  cases entryFunc_cases hs with
  | createProc hpc =>
    -- a new task starts outside its critical section
    have hproc := h.life.proc_absent.mp hpc
    refine ⟨hlife, h.guarded.congr fun u => ?_, ?_, h.accounts, trivial⟩
    · cases u <;> simp [phase, hproc, ProcPc.phase]
    · simpa [hproc, ProcPc.debt] using hcount
  | createRcv hpc =>
    have hrcv := h.life.rcv_absent.mp (.inr hpc)
    refine ⟨hlife, h.guarded.congr fun u => ?_, ?_, h.accounts, h.bounded⟩
    · cases u <;> simp [phase, hrcv, RcvPc.phase]
    · simpa [hrcv, RcvPc.credit] using hcount
  | timeOut hpc | done hpc => exact ⟨hlife, h.guarded, hcount, h.accounts, h.bounded⟩

/-- **Step lemma.** Every step of every party keeps the invariant. -/
lemma inv_step {n₀ : ℤ} {s s' : State} {a : Action} (h : Inv n₀ s)
    (hs : step s a = some s') : Inv n₀ s' := by
  cases a with
  | entry => exact inv_entryStep h hs
  | rcv rand => exact inv_rcvStep h hs
  | proc => exact inv_procStep h hs

/-- **Run lemma.** The invariant holds in every state of every run. -/
lemma inv_of_reach {n₀ : ℤ} {s : State} (h : Reach step (start n₀) s) : Inv n₀ s :=
  h.invariant (fun _ _ _ => inv_step) (inv_start n₀)

/-- Nothing is queued before `rcv_data_task` exists. -/
lemma Inv.items_eq_nil {n₀ : ℤ} {s : State} (h : Inv n₀ s) (hr : s.rcv = .absent) :
    s.msgQueue.items = [] := by
  have hacc : s.dequeued ++ s.msgQueue.items = s.enqueued := h.accounts
  rw [h.life.idle hr] at hacc
  exact (List.append_eq_nil_iff.mp hacc).2

lemma ProcPc.debt_le {p : ProcPc} (h : p.Bounded) : p.debt ≤ dataBatchSize := by
  cases p with
  | receive i n => exact h.1 ▸ h.2
  | clean n | take n | load n | store n tmp => exact h
  | absent | head | wait | give | deleted => exact Nat.zero_le _

lemma RcvPc.credit_le (r : RcvPc) : r.credit ≤ 1 := by
  cases r <;> simp [RcvPc.credit]

/-- The counter stays within 16 of where the run found it: ten queued items, one on its way
to the queue and a batch of five on its way out. -/
lemma Inv.count_bounds {n₀ : ℤ} {s : State} (h : Inv n₀ s) :
    n₀ ≤ s.sRcvItemNum ∧ s.sRcvItemNum ≤ n₀ + 16 := by
  have hcount := h.count
  have hq : s.msgQueue.items.length ≤ 10 := s.msgQueue.bound
  have hr := s.rcv.credit_le
  have hp : s.proc.debt ≤ 5 := ProcPc.debt_le h.bounded
  omega

/-- **Conservation.** In a run that found zero in `s_rcv_item_num`, the counter is the queue
length plus the item counted but not yet queued plus the items dequeued but not yet
subtracted, hence between 0 and 16; and the items dequeued so far followed by the queue are
the items enqueued so far. -/
theorem batch_conservation {s : State} (h : Reach step (start 0) s) :
    s.sRcvItemNum = s.msgQueue.items.length + s.rcv.credit + s.proc.debt ∧
      0 ≤ s.sRcvItemNum ∧ s.sRcvItemNum ≤ 16 ∧
      s.dequeued ++ s.msgQueue.items = s.enqueued := by
  have hinv := inv_of_reach h
  rcases hinv.count_bounds with ⟨hlo, hhi⟩
  refine ⟨?_, hlo, hhi, hinv.accounts⟩
  rw [hinv.count, Int.zero_add]

/-- Two items are queued, a third is counted. -/
def threeCounted : List Action :=
  [.entry, .entry] ++ List.replicate 18 (.rcv 0)

theorem batch_conservation_threeCounted :
    ∃ s, exec step (start 0) threeCounted = some s ∧ s.rcv.credit = 1 ∧
      s.sRcvItemNum = s.msgQueue.items.length + s.rcv.credit + s.proc.debt ∧
      0 ≤ s.sRcvItemNum ∧ s.sRcvItemNum ≤ 16 ∧
      s.dequeued ++ s.msgQueue.items = s.enqueued := by
  obtain ⟨s, hs⟩ := Option.isSome_iff_exists.mp
    (show (exec step (start 0) threeCounted).isSome from by decide)
  have hc : (exec step (start 0) threeCounted).map (·.rcv.credit) = some 1 := by decide
  rw [hs] at hc
  exact ⟨s, hs, Option.some.inj hc, batch_conservation (.of_exec hs)⟩

end BatchProcessing
end EspLab
