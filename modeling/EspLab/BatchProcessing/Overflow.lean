import EspLab.BatchProcessing.Wakeups

/-!
# Lost wake-ups after an overflow

A run that finds more than `INT_MAX - 11` in `s_rcv_item_num` can end in the deadlock. Once the
counter has passed `INT_MAX` the check sees a negative number. With the queue full and a batch of
five in progress every new item is counted beyond `INT_MAX` and none of them is announced, so
`proc_data_task` uses up the pending notifications one by one while `rcv_data_task` keeps the queue
full.
-/

namespace EspLab
namespace BatchProcessing

open Transition Rtos

/-- `rcv_data_task` is at the head of its loop, and the mutex is free. -/
structure Ready (s : State) : Prop where
  rcv : s.rcv = .head
  timedOut : s.timedOut = false
  free : s.sMutex = .free

/-! ## Runs of one task -/

lemma IntInv.of_reach {n₀ : ℤ} {s t : State} (h : IntInv n₀ s) (ht : Reach intStep s t) :
    IntInv n₀ t :=
  ht.invariant (fun _ _ _ => intInv_step) h

/-- A step that leaves the counter alone. -/
lemma IntInv.intStep_eq {n₀ : ℤ} {s t : State} {a : Action} (h : IntInv n₀ s)
    (hs : step s a = some t) (hcount : t.sRcvItemNum = s.sRcvItemNum) : intStep s a = some t := by
  rw [intStep, hs, Option.map_some, State.wrapCount, hcount, h.count, wrap_wrap, ← h.count,
    ← hcount]

/-- `rcv_data_task` on its own queues an item. -/
lemma queue_one {n₀ : ℤ} {s : State} (h : IntInv n₀ s) (hr : Ready s)
    (hlen : s.msgQueue.items.length < msgQueueLen) :
    ∃ t, Reach intStep s t ∧ t.rcv = .check ∧ t.timedOut = false ∧ t.sMutex = .free ∧
      t.proc = s.proc ∧ t.notifications = s.notifications ∧
      t.msgQueue.items.length = s.msgQueue.items.length + 1 := by
  obtain ⟨q, hsend⟩ : ∃ q, s.msgQueue.send 0 = some q := by
    rw [← Option.ne_none_iff_exists', ne_eq, Fifo.send_eq_none]
    omega
  rcases Fifo.send_eq_some.mp hsend with ⟨_, hitems⟩
  have hself : wrap s.sRcvItemNum = s.sRcvItemNum := by rw [h.count, wrap_wrap]
  refine ⟨{ s with
      sRcvItemNum := wrap (s.sRcvItemNum + 1)
      msgQueue := q
      enqueued := s.enqueued ++ [0]
      rcv := .check }, ⟨List.replicate 6 (.rcv 0), ?_⟩, rfl, hr.timedOut, hr.free, rfl, rfl, ?_⟩
  · simp [List.replicate, exec, intStep, State.wrapCount, step, rcvDataTask, hr.rcv, hr.timedOut,
      hr.free, hsend, hself, Mutex.take, Mutex.give, Mutex.free]
  · rw [hitems, List.length_append, List.length_singleton]

/-- Its decision to notify, which goes wrong once the counter has passed `INT_MAX`. -/
lemma decide_one {n₀ : ℤ} (hn : n₀ ≤ intMax) {s : State} (h : IntInv n₀ s) (hpc : s.rcv = .check)
    (ht : s.timedOut = false) (hm : s.sMutex = .free) :
    ∃ t, Reach intStep s t ∧ Ready t ∧ t.proc = s.proc ∧ t.msgQueue = s.msgQueue ∧
      (intMax < n₀ + s.counted → t.notifications = s.notifications) := by
  by_cases hnum : s.sRcvItemNum ≥ dataBatchSize
  · have hnotify : step s (.rcv 0) = some { s with rcv := .notify } := by
      rw [step, rcvDataTask, hpc]
      simp only [if_pos hnum]
    refine ⟨{ s with notifications := notifyGive s.notifications, rcv := .head }, ?_,
      ⟨rfl, ht, hm⟩, rfl, rfl, fun hover => ?_⟩
    · have hfirst := h.intStep_eq hnotify rfl
      have hsecond := (intInv_step h hfirst).intStep_eq (a := .rcv 0) rfl rfl
      exact .head hfirst (.single hsecond)
    · -- the count read is negative
      have hneg := h.count_neg hn hover
      simp only [dataBatchSize] at hnum
      omega
  · have hhead : step s (.rcv 0) = some { s with rcv := .head } := by
      rw [step, rcvDataTask, hpc]
      simp only [if_neg hnum]
    exact ⟨{ s with rcv := .head }, .single (h.intStep_eq hhead rfl), ⟨rfl, ht, hm⟩, rfl, rfl,
      fun _ => rfl⟩

/-- `k` more items. If each of them is counted beyond `INT_MAX`, none is announced. -/
lemma queue_more {n₀ : ℤ} (hn : n₀ ≤ intMax) (k : ℕ) {s : State} (h : IntInv n₀ s)
    (hr : Ready s) (hlen : s.msgQueue.items.length + k ≤ msgQueueLen) :
    ∃ t, Reach intStep s t ∧ Ready t ∧ t.proc = s.proc ∧
      t.msgQueue.items.length = s.msgQueue.items.length + k ∧
      (intMax < n₀ + s.msgQueue.items.length + s.proc.debt + 1 →
        t.notifications = s.notifications) := by
  induction k generalizing s with
  | zero => exact ⟨s, .refl s, hr, rfl, rfl, fun _ => rfl⟩
  | succ k ih =>
    obtain ⟨t, ht, hcheck, htime, hfree, hproc, hnote, hitems⟩ := queue_one h hr (by omega)
    have hinv := h.of_reach ht
    obtain ⟨u, hu, hready, hproc', hqueue, hnote'⟩ := decide_one hn hinv hcheck htime hfree
    obtain ⟨v, hv, hready', hproc'', hitems', hnote''⟩ :=
      ih (hinv.of_reach hu) hready (by rw [hqueue]; omega)
    have hcounted : t.counted = s.msgQueue.items.length + 1 + s.proc.debt := by
      simp [State.counted, hcheck, hproc, hitems, RcvPc.credit]
    refine ⟨v, ht.trans (hu.trans hv), hready', hproc''.trans (hproc'.trans hproc), ?_,
      fun hover => ?_⟩
    · rw [hitems', hqueue, hitems]
      omega
    · rw [hnote'' ?_, hnote' ?_, hnote]
      · omega
      · rw [hqueue, hproc', hproc, hitems]
        omega

/-- `proc_data_task` on its own dequeues `k` items of a batch. -/
lemma dequeue_more {n₀ : ℤ} (k : ℕ) {i : ℕ} {s : State} (h : IntInv n₀ s)
    (hpc : s.proc = .receive i i) (hi : i + k ≤ dataBatchSize)
    (hlen : k ≤ s.msgQueue.items.length) :
    ∃ t, Reach intStep s t ∧ t.proc = .receive (i + k) (i + k) ∧ t.rcv = s.rcv ∧
      t.timedOut = s.timedOut ∧ t.sMutex = s.sMutex ∧ t.notifications = s.notifications ∧
      t.msgQueue.items.length + k = s.msgQueue.items.length := by
  induction k generalizing i s with
  | zero => exact ⟨s, .refl s, hpc, rfl, rfl, rfl, rfl, rfl⟩
  | succ k ih =>
    obtain ⟨⟨x, q⟩, hq⟩ : ∃ r, s.msgQueue.receive = some r := by
      rw [← Option.ne_none_iff_exists', ne_eq, Fifo.receive_eq_none]
      intro hnil
      rw [hnil] at hlen
      exact Nat.not_succ_le_zero k hlen
    have hitems := Fifo.receive_eq_some.mp hq
    have hlt : i < dataBatchSize := by omega
    have hstep : step s .proc = some
        { s with
          msgQueue := q
          dequeued := s.dequeued ++ [x]
          rcvDataBuffer := s.rcvDataBuffer.set i x hlt
          proc := .receive (i + 1) (i + 1) } := by
      simp [step, procDataTask, hpc, hlt, hq]
    have hint := h.intStep_eq hstep rfl
    rw [hitems, List.length_cons] at hlen
    obtain ⟨t, ht, hproc, hrcv, htime, hfree, hnote, hlast⟩ :=
      ih (intInv_step h hint) rfl (by omega) (by exact Nat.le_of_succ_le_succ hlen)
    refine ⟨t, .head hint ht, ?_, hrcv, htime, hfree, hnote, ?_⟩
    · rw [hproc]
      congr 1 <;> omega
    · rw [hitems, List.length_cons, ← hlast]
      omega

/-- It ends the batch and waits again. -/
lemma finish_batch {s : State} (hpc : s.proc = .receive 5 5) (hr : Ready s) :
    ∃ t, Reach intStep s t ∧ Ready t ∧ t.proc = .wait ∧ t.msgQueue = s.msgQueue ∧
      t.notifications = s.notifications := by
  refine ⟨{ s with
      sRcvItemNum := wrap (wrap s.sRcvItemNum - 5)
      rcvDataBuffer := cleanBuffer s.rcvDataBuffer 5
      proc := .wait }, ⟨List.replicate 6 .proc, ?_⟩, ⟨hr.rcv, hr.timedOut, hr.free⟩, rfl, rfl, rfl⟩
  simp [List.replicate, exec, intStep, State.wrapCount, step, procDataTask, hpc, hr.free,
    Mutex.take, Mutex.give, Mutex.free]

/-! ## The way into the deadlock -/

/-- The queue is full, `proc_data_task` waits and `k` notifications are pending. -/
structure Saturated (n₀ : ℤ) (k : ℕ) (s : State) : Prop where
  reach : Reach intStep (start n₀) s
  ready : Ready s
  waiting : s.proc = .wait
  full : s.msgQueue.items.length = msgQueueLen
  pending : s.notifications = k

section Overflow

variable {n₀ : ℤ} (hlo : intMin ≤ n₀) (hhi : n₀ ≤ intMax)
include hlo hhi

lemma exists_saturated : ∃ k s, Saturated n₀ k s := by
  have hself := wrap_eq_self hlo hhi
  obtain ⟨s, hs, hready, hproc, hitems⟩ : ∃ s, Reach intStep (start n₀) s ∧ Ready s ∧
      s.proc = .wait ∧ s.msgQueue.items = [] := by
    refine ⟨{ start n₀ with rcv := .head, proc := .wait, entry := .running },
      ⟨[.entry, .entry, .proc], ?_⟩, ⟨rfl, rfl, rfl⟩, rfl, rfl⟩
    simp [exec, intStep, State.wrapCount, step, entryFunc, procDataTask, start, hself]
  obtain ⟨t, ht, hready', hproc', hlen, -⟩ :=
    queue_more hhi msgQueueLen (intInv_of_reach hlo hhi hs) hready (by simp [hitems])
  refine ⟨t.notifications, t, hs.trans ht, hready', hproc'.trans hproc, ?_, rfl⟩
  rw [hlen, hitems, List.length_nil, Nat.zero_add]

/-- With a full batch in progress, five new items are counted and none of them is announced: the
notification that the batch used up is not replaced. -/
lemma Saturated.use_up (hover : intMax < n₀ + 11) {k : ℕ} {s : State}
    (h : Saturated n₀ (k + 1) s) : ∃ t, Saturated n₀ k t := by
  have hinv := intInv_of_reach hlo hhi h.reach
  have htake : intStep s .proc =
      some { s with notifications := k, proc := .receive 0 0 } := by
    refine hinv.intStep_eq ?_ rfl
    simp [step, procDataTask, h.waiting, h.pending, notifyTake]
  -- the batch takes five items,
  obtain ⟨t, ht, hproc, hrcv, htime, hfree, hnote, hlen⟩ :=
    dequeue_more 5 (intInv_step hinv htake) rfl (Nat.le_refl 5) (by rw [h.full]; decide)
  have hfull := h.full
  simp only [Nat.zero_add, msgQueueLen] at hproc hlen hfull
  have hready : Ready t :=
    ⟨hrcv.trans h.ready.rcv, htime.trans h.ready.timedOut, hfree.trans h.ready.free⟩
  have hreach := h.reach.trans (.head htake ht)
  -- five more fill the queue again,
  obtain ⟨u, hu, hready', hproc', hlen', hnote'⟩ :=
    queue_more hhi 5 (intInv_of_reach hlo hhi hreach) hready (by simp only [msgQueueLen]; omega)
  have hsame : u.notifications = t.notifications := by
    apply hnote'
    rw [hproc, ProcPc.debt]
    omega
  -- and the batch ends
  obtain ⟨v, hv, hready'', hproc'', hqueue, hnote''⟩ :=
    finish_batch (hproc'.trans hproc) hready'
  refine ⟨v, hreach.trans (hu.trans hv), hready'', hproc'', ?_, ?_⟩
  · rw [hqueue, hlen']
    simp only [msgQueueLen]
    omega
  · rw [hnote'', hsame, hnote]

lemma exists_saturated_zero (hover : intMax < n₀ + 11) : ∃ s, Saturated n₀ 0 s := by
  obtain ⟨k, s, h⟩ := exists_saturated hlo hhi
  induction k generalizing s with
  | zero => exact ⟨s, h⟩
  | succ k ih =>
    obtain ⟨t, ht⟩ := h.use_up hlo hhi hover
    exact ih t ht

/-- `rcv_data_task` counts one more item, and both tasks are blocked. -/
lemma exists_deadlock (hover : intMax < n₀ + 11) :
    ∃ s, Reach intStep (start n₀) s ∧ RcvBlockedOnQueue s ∧ ProcBlocked s := by
  obtain ⟨s, h⟩ := exists_saturated_zero hlo hhi hover
  have hself : wrap s.sRcvItemNum = s.sRcvItemNum := by
    rw [(intInv_of_reach hlo hhi h.reach).count, wrap_wrap]
  refine ⟨{ s with sRcvItemNum := wrap (s.sRcvItemNum + 1), rcv := .enqueue 0 },
    h.reach.trans ⟨List.replicate 5 (.rcv 0), ?_⟩, ⟨0, rfl, Fifo.send_eq_none.mpr h.full⟩, ?_⟩
  · simp [List.replicate, exec, intStep, State.wrapCount, step, rcvDataTask, h.ready.rcv,
      h.ready.timedOut, h.ready.free, hself, Mutex.take, Mutex.give, Mutex.free]
  · refine ⟨by simp [h.waiting], by simp [h.waiting], ?_⟩
    exact procDataTask_eq_none.mpr (.inr (.inr (.inl ⟨h.waiting, h.pending⟩)))

end Overflow

/-- **No lost wake-up, no deadlock.** For every value that a run may find in `s_rcv_item_num`: no
wake-up is lost in any of its states, whatever the schedule, exactly when the value is at most
`INT_MAX - 11`. Beyond, a run reaches the deadlock. -/
theorem batch_no_lost_wakeup_iff {n₀ : ℤ} (hn : 0 ≤ n₀) (hmax : n₀ ≤ intMax) :
    ((∀ s, Reach intStep (start n₀) s → NoLostWakeup s) ↔ n₀ + 11 ≤ intMax) ∧
    (intMax < n₀ + 11 →
      ∃ s, Reach intStep (start n₀) s ∧ RcvBlockedOnQueue s ∧ ProcBlocked s) := by
  have hdeadlock := exists_deadlock (Int.le_trans (by decide) hn) hmax
  refine ⟨⟨fun hall => ?_, fun hle s hs => noLostWakeup_of_reach hn hle hs⟩, hdeadlock⟩
  by_contra hover
  obtain ⟨s, hs, hblocked⟩ := hdeadlock (by omega)
  exact (hall s hs).notBlocked hblocked

/-- Five items are queued while `proc_data_task` waits. -/
def fiveQueued : List Action :=
  [.entry, .entry, .proc] ++ List.replicate 36 (.rcv 0)

theorem batch_no_lost_wakeup_iff_fiveQueued :
    ∃ s, exec intStep (start 0) fiveQueued = some s ∧ s.proc = .wait ∧ ¬ s.rcv.Deciding ∧
      s.msgQueue.items.length = 5 ∧ (s.msgQueue.items.length : ℤ) - 4 ≤ s.notifications := by
  obtain ⟨s, hs⟩ := Option.isSome_iff_exists.mp
    (show (exec intStep (start 0) fiveQueued).isSome from by decide)
  have hpc : (exec intStep (start 0) fiveQueued).map
      (fun s => (s.proc, s.rcv, s.msgQueue.items.length)) = some (.wait, .head, 5) := by decide
  rw [hs] at hpc
  obtain ⟨hw, hr, hlen⟩ : s.proc = .wait ∧ s.rcv = .head ∧ s.msgQueue.items.length = 5 := by
    simpa using hpc
  have hd : ¬ s.rcv.Deciding := by rw [hr]; decide
  have hall := (batch_no_lost_wakeup_iff (Int.le_refl 0) (by decide)).1.mpr (by decide)
  exact ⟨s, hs, hw, hd, hlen, (hall s (.of_exec hs)).pending hw hd⟩

/-- From `INT_MAX`, ten items are queued and an eleventh is counted. -/
def unannounced : List Action :=
  [.entry, .entry, .proc] ++ List.replicate 75 (.rcv 0)

/-- None of the items of `unannounced` is announced, and both tasks are blocked. -/
theorem lost_wakeup_unannounced :
    ¬ ∀ s, Reach intStep (start intMax) s → NoLostWakeup s := by
  intro hall
  obtain ⟨s, hs⟩ := Option.isSome_iff_exists.mp
    (show (exec intStep (start intMax) unannounced).isSome from by decide)
  have hview : (exec intStep (start intMax) unannounced).map
      (fun s => (s.proc, s.rcv, s.notifications, s.msgQueue.items.length)) =
      some (.wait, .enqueue 0, 0, 10) := by decide
  rw [hs] at hview
  obtain ⟨hw, hr, hzero, hlen⟩ : s.proc = .wait ∧ s.rcv = .enqueue 0 ∧ s.notifications = 0 ∧
      s.msgQueue.items.length = 10 := by
    simpa using hview
  have hd : ¬ s.rcv.Deciding := by rw [hr]; decide
  exact (hall s (.of_exec hs)).announced hw hd hzero (by rw [hlen]; decide)

end BatchProcessing
end EspLab
