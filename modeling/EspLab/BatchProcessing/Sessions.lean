import EspLab.BatchProcessing.Invariants
import Mathlib.Algebra.GroupWithZero.Nat

/-!
# Repeated calls

`s_rcv_item_num` is a static variable that no call resets, while `timed_out`, the mutex and
the queue are set anew. What a run leaves in the counter is what it found there plus what it
left in its queue, so the next call starts with the leftovers of all the earlier queues.
-/

namespace EspLab
namespace BatchProcessing

open Transition Rtos

/-- A run is over: the call has returned, `rcv_data_task` has exited and `proc_data_task`
waits with no notification pending. -/
structure AtRest (s : State) : Prop where
  entry : s.entry = .returned
  rcv : s.rcv = .deleted
  proc : s.proc = .wait
  notifications : s.notifications = 0

/-- Successive successful calls: the last states of their runs, and what they leave in
`s_rcv_item_num`, which is zero before the first. -/
inductive Session : List State → ℤ → Prop
  | init : Session [] 0
  | call {ends : List State} {n : ℤ} {s f : State} : Session ends n →
      compBatchProcExampleEntryFunc true true n = .ok s → Reach step s f → AtRest f →
      Session (ends ++ [f]) f.sRcvItemNum

/-- A run that found `n₀` in the counter leaves `n₀` and the items left in its queue. -/
lemma AtRest.count {n₀ : ℤ} {f : State} (h : AtRest f) (hf : Reach step (start n₀) f) :
    f.sRcvItemNum = n₀ + f.msgQueue.items.length := by
  have hcount := (inv_of_reach hf).count
  simpa [h.rcv, h.proc, RcvPc.credit, ProcPc.debt] using hcount

/-- The counter holds the items left in the queues of all the calls so far. -/
lemma Session.count {ends : List State} {n : ℤ} (h : Session ends n) :
    n = ((ends.map fun f => f.msgQueue.items.length).sum : ℕ) := by
  induction h with
  | init => rfl
  | call hs hstart hreach hrest ih =>
    cases hstart
    rw [hrest.count hreach, ih]
    simp

/-- The counter is zero exactly when every earlier queue was left empty. -/
lemma Session.count_eq_zero {ends : List State} {n : ℤ} (h : Session ends n) :
    n = 0 ↔ ∀ f ∈ ends, f.msgQueue.items = [] := by
  rw [h.count, Int.natCast_eq_zero, List.sum_eq_zero_iff_forall_eq_nat]
  simp

/-! ## The first notification of a run -/

/-- What the current batch took out of the queue was dequeued in this run. -/
lemma debt_le_dequeued {n₀ : ℤ} {s : State} (h : Reach step (start n₀) s) :
    s.proc.debt ≤ s.dequeued.length := by
  refine h.invariant (I := fun s => s.proc.debt ≤ s.dequeued.length) ?_ (Nat.zero_le _)
  intro t a u ht hu
  cases a with
  | rcv rand => cases rcvDataTask_cases hu <;> exact ht
  | entry => cases entryFunc_cases hu with
    | createProc => exact Nat.zero_le _
    | createRcv | timeOut | done => exact ht
  | proc =>
    cases procDataTask_cases hu with
    | receive hi hpc =>
      simp only [hpc, ProcPc.debt, List.length_append, List.length_singleton] at ht ⊢
      omega
    | wake hpc | store hpc | timedOut hpc | loop hpc | give hpc => exact Nat.zero_le _
    | short hpc | full hpc | clean hpc | take hpc | load hpc =>
      rw [hpc] at ht
      exact ht

/-- In a run that found zero in the counter, five items are queued before any notification. -/
lemma five_enqueued {s : State} (h : Reach step (start 0) s) (hpc : s.rcv = .notify) :
    dataBatchSize ≤ s.enqueued.length := by
  refine (h.invariant (I := fun s => Reach step (start 0) s ∧
    (s.rcv = .notify → dataBatchSize ≤ s.enqueued.length)) ?_ ⟨.refl _, by simp [start]⟩).2 hpc
  rintro t a u ⟨hreach, ht⟩ hu
  refine ⟨hreach.tail hu, ?_⟩
  cases a with
  | entry => cases entryFunc_cases hu <;> simp_all
  | proc => cases procDataTask_cases hu <;> exact ht
  | rcv rand =>
    cases rcvDataTask_cases hu with
    | enough hc hge =>
      -- the count read covers the queue and the current batch, all of them enqueued before
      intro _
      have hinv := inv_of_reach hreach
      have hcount := hinv.count
      have hlen := hinv.accounts.length
      have hdebt := debt_le_dequeued hreach
      simp only [hc, RcvPc.credit, dataBatchSize] at hcount hge ⊢
      omega
    | timedOut | loop | take | load | store | give | enqueue | tooFew | notify => simp

/-- `rcv_data_task` on its own takes one item up to its decision to notify. -/
lemma receive_one {s : State} (hpc : s.rcv = .head) (ht : s.timedOut = false)
    (hm : s.sMutex = .free) (hq : s.msgQueue.items.length < msgQueueLen) :
    ∃ t, Reach step s t ∧ t.rcv = .check ∧ t.timedOut = false ∧ t.sMutex = .free ∧
      t.sRcvItemNum = s.sRcvItemNum + 1 ∧
      t.msgQueue.items.length = s.msgQueue.items.length + 1 ∧
      t.enqueued.length = s.enqueued.length + 1 := by
  obtain ⟨q, hsend⟩ : ∃ q, s.msgQueue.send 0 = some q := by
    rw [← Option.ne_none_iff_exists', ne_eq, Fifo.send_eq_none]
    omega
  rcases Fifo.send_eq_some.mp hsend with ⟨_, hitems⟩
  refine ⟨{ s with
      sRcvItemNum := s.sRcvItemNum + 1
      msgQueue := q
      enqueued := s.enqueued ++ [0]
      rcv := .check }, ⟨List.replicate 6 (.rcv 0), ?_⟩, ?_⟩
  · simp [List.replicate, exec, step, rcvDataTask, hpc, ht, hm, hsend, Mutex.take, Mutex.give,
      Mutex.free]
  · simp [ht, hm, hitems]

/-- The check sends `rcv_data_task` on to notify if the count has reached a batch. -/
lemma step_check_of_le {s : State} (hpc : s.rcv = .check) (hnum : dataBatchSize ≤ s.sRcvItemNum) :
    step s (.rcv 0) = some { s with rcv := .notify } := by
  simp only [step, rcvDataTask, hpc]
  rw [if_pos hnum]

/-- Otherwise it goes back to the head of its loop. -/
lemma step_check_of_lt {s : State} (hpc : s.rcv = .check) (hnum : s.sRcvItemNum < dataBatchSize) :
    step s (.rcv 0) = some { s with rcv := .head } := by
  simp only [step, rcvDataTask, hpc]
  rw [if_neg (Int.not_le.mpr hnum)]

/-- Where `k + 1` more items make a batch, a notification comes after at most that many. -/
lemma reach_notify (k : ℕ) {s : State} (hpc : s.rcv = .head) (ht : s.timedOut = false)
    (hm : s.sMutex = .free) (hnum : dataBatchSize ≤ s.sRcvItemNum + (k + 1 : ℕ))
    (hq : s.msgQueue.items.length + (k + 1) ≤ msgQueueLen) :
    ∃ t, Reach step s t ∧ t.rcv = .notify ∧ t.enqueued.length ≤ s.enqueued.length + (k + 1) := by
  induction k generalizing s with
  | zero =>
    obtain ⟨u, hu, hc, -, -, hnum', -, henq⟩ := receive_one hpc ht hm (by omega)
    refine ⟨{ u with rcv := .notify }, hu.tail (step_check_of_le hc ?_), rfl, Nat.le_of_eq henq⟩
    rw [hnum']
    exact hnum
  | succ k ih =>
    obtain ⟨u, hu, hc, hut, hum, hnum', hq', henq⟩ := receive_one hpc ht hm (by omega)
    by_cases hbatch : dataBatchSize ≤ u.sRcvItemNum
    · refine ⟨{ u with rcv := .notify }, hu.tail (step_check_of_le hc hbatch), rfl, ?_⟩
      show u.enqueued.length ≤ _
      omega
    · -- the count is still below a batch, and one item is in
      have hnum'' : dataBatchSize ≤ u.sRcvItemNum + (k + 1 : ℕ) := by omega
      have hq'' : u.msgQueue.items.length + (k + 1) ≤ msgQueueLen := by omega
      obtain ⟨t, hreach, hnot, hlen⟩ := ih (s := { u with rcv := .head }) rfl hut hum hnum'' hq''
      have hback := step_check_of_lt hc (Int.not_le.mp hbatch)
      refine ⟨t, (hu.tail hback).trans hreach, hnot, ?_⟩
      have hlen' : t.enqueued.length ≤ u.enqueued.length + (k + 1) := hlen
      omega

/-- A run that finds a positive count notifies after fewer than five items. -/
lemma early_notify {n : ℤ} (hn : 0 < n) :
    ∃ t, Reach step (start n) t ∧ t.rcv = .notify ∧ t.enqueued.length < dataBatchSize := by
  -- both tasks are created, and four items make a batch
  have hbatch : (dataBatchSize : ℤ) ≤ n + (3 + 1 : ℕ) := by
    show (5 : ℤ) ≤ _
    omega
  have hroom : 0 + (3 + 1) ≤ msgQueueLen := by decide
  obtain ⟨t, ht, hnot, hlen⟩ := reach_notify 3
    (s := { start n with proc := .head, rcv := .head, entry := .running }) rfl rfl rfl hbatch hroom
  exact ⟨t, Reach.trans ⟨[.entry, .entry], rfl⟩ ht, hnot, Nat.lt_succ_of_le hlen⟩

/-! ## The count at the start of a call -/

/-- **Repeated calls.** At the moment a call creates its tasks, `s_rcv_item_num` equals the
number of items in its queue exactly when every earlier run was left with an empty queue;
and exactly then does `rcv_data_task` never notify before five items of the run are queued. -/
theorem session_count_iff {ends : List State} {n : ℤ} {s : State} (h : Session ends n)
    (hs : compBatchProcExampleEntryFunc true true n = .ok s) :
    (s.sRcvItemNum = s.msgQueue.items.length ↔ ∀ f ∈ ends, f.msgQueue.items = []) ∧
    ((∀ t, Reach step s t → t.rcv = .notify → dataBatchSize ≤ t.enqueued.length) ↔
      ∀ f ∈ ends, f.msgQueue.items = []) := by
  cases hs
  rw [← h.count_eq_zero]
  refine ⟨by simp [start], ?_, ?_⟩
  · intro hall
    by_contra hne
    have hpos : 0 < n := by
      have hcount := h.count
      omega
    rcases early_notify hpos with ⟨t, ht, hnot, hlt⟩
    exact absurd (hall t ht hnot) (Nat.not_le.mpr hlt)
  · rintro rfl t ht hnot
    exact five_enqueued ht hnot

/-- A run that receives a single item before it times out. -/
def singleItem : List Action :=
  [.entry, .entry, .proc] ++ List.replicate 7 (.rcv 0) ++ [.entry, .rcv 0, .entry]

lemma session_singleItem : ∃ f, Session [f] 1 ∧ f.msgQueue.items = [0] := by
  obtain ⟨f, hf⟩ := Option.isSome_iff_exists.mp
    (show (exec step (start 0) singleItem).isSome from by decide)
  have hmap : (exec step (start 0) singleItem).map
      (fun f => ((f.entry, f.rcv), (f.proc, f.notifications), f.sRcvItemNum, f.msgQueue.items))
        = some ((.returned, .deleted), (.wait, 0), 1, [0]) := by decide
  rw [hf] at hmap
  simp only [Option.map_some, Option.some.injEq, Prod.mk.injEq] at hmap
  rcases hmap with ⟨⟨he, hr⟩, ⟨hp, hn⟩, hnum, hq⟩
  have hsession := Session.call .init rfl (.of_exec hf) ⟨he, hr, hp, hn⟩
  rw [hnum] at hsession
  exact ⟨f, hsession, hq⟩

theorem session_count_iff_singleItem :
    ∃ f, Session [f] 1 ∧
      ((start 1).sRcvItemNum = (start 1).msgQueue.items.length ↔
        ∀ g ∈ [f], g.msgQueue.items = []) := by
  rcases session_singleItem with ⟨f, hf, -⟩
  exact ⟨f, hf, (session_count_iff hf rfl).1⟩

/-- The call after `singleItem` finds one item counted and none in its new queue. -/
theorem stale_count_singleItem :
    ¬ ∀ ends n s, Session ends n → compBatchProcExampleEntryFunc true true n = .ok s →
      s.sRcvItemNum = s.msgQueue.items.length := by
  intro hall
  rcases session_singleItem with ⟨f, hf, -⟩
  exact absurd (hall _ _ _ hf rfl) (by decide)

end BatchProcessing
end EspLab
