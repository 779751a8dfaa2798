import EspLab.BatchProcessing.Counter

/-!
# No lost wake-up

`rcv_data_task` reads `s_rcv_item_num` outside the mutex, after the item is in the queue.
`Announced` is what makes the read good enough: the queued items, and those already taken
out of the queue in the current batch, never exceed the pending notifications by more than
an `allowance` that depends on where `proc_data_task` is, plus the notification that
`rcv_data_task` may still be about to give (`owed`), plus the items it did not announce because
the counter had passed `INT_MAX` (`unseen`). In a run that finds at most `INT_MAX - 11` in the
counter these are four at most, too few for a wake-up to be lost.
-/

namespace EspLab
namespace BatchProcessing

open Transition Rtos

/-- `rcv_data_task` is between its enqueue and the end of its decision to notify. -/
def RcvPc.Deciding (r : RcvPc) : Prop := r = .check ∨ r = .notify

instance (r : RcvPc) : Decidable r.Deciding := inferInstanceAs (Decidable (_ ∨ _))

/-- `rcv_data_task` cannot send its item: the queue is full. -/
def RcvBlockedOnQueue (s : State) : Prop :=
  ∃ data, s.rcv = .enqueue data ∧ s.msgQueue.send data = none

/-- `proc_data_task` exists, is not deleted and cannot run. -/
def ProcBlocked (s : State) : Prop :=
  s.proc ≠ .absent ∧ s.proc ≠ .deleted ∧ procDataTask s = none

/-- The notification still to come for an item just queued. -/
def RcvPc.owed : RcvPc → ℕ
  | .check | .notify => 1
  | _ => 0

/-- How many items may go without a notification: a batch while one is being dequeued,
else one less than a batch. -/
def ProcPc.allowance : ProcPc → ℕ
  | .receive _ _ => 5
  | .clean n | .take n | .load n | .store n _ => if n < dataBatchSize then 4 else 5
  | _ => 4

/-- The items of the queue and of the current batch that were queued when the counter, which `n₀`
had started, had passed `INT_MAX`. -/
def unseen (n₀ : ℤ) (s : State) : ℕ :=
  s.msgQueue.items.length + s.proc.debt - s.rcv.owed - (intMax - n₀).toNat

/-- Every full batch has been announced, as far as the counter could show it. -/
def Announced (n₀ : ℤ) (s : State) : Prop :=
  s.msgQueue.items.length + s.proc.debt ≤
    s.notifications + s.proc.allowance + s.rcv.owed + unseen n₀ s

lemma ProcPc.four_le_allowance (p : ProcPc) : 4 ≤ p.allowance := by
  cases p with
  | clean n | take n | load n | store n tmp =>
    simp only [ProcPc.allowance]
    split <;> omega
  | absent | head | wait | receive i n | give | deleted => simp [ProcPc.allowance]

lemma RcvPc.owed_eq_zero {r : RcvPc} (h : ¬ r.Deciding) : r.owed = 0 := by
  cases r <;> simp_all [RcvPc.owed, RcvPc.Deciding]

lemma announced_start (n₀ : ℤ) : Announced n₀ (start n₀) := by
  simp [Announced, start, ProcPc.debt]

lemma announced_rcvStep {n₀ : ℤ} (hn : 0 ≤ n₀) {s s' : State} (hinv : IntInv n₀ s)
    (h : Announced n₀ s) (hs : RcvStep s s') : Announced n₀ s' := by
  have hallow := s.proc.four_le_allowance
  unfold Announced unseen at h ⊢
  cases hs with
  | timedOut hpc | loop _ hpc | take hpc | load hpc | store hpc | give hpc | enough hpc =>
    simpa [hpc, RcvPc.owed] using h
  | enqueue hpc hq =>
    -- the new item comes with the notification that may still follow it
    rcases Fifo.send_eq_some.mp hq with ⟨_, hitems⟩
    simp only [hpc, hitems, RcvPc.owed, List.length_append, List.length_singleton] at h ⊢
    omega
  | tooFew hpc hlt =>
    have hcounted : s.counted = s.msgQueue.items.length + s.proc.debt := by
      simp [State.counted, hpc, RcvPc.credit]
    simp only [hpc, RcvPc.owed] at h ⊢
    by_cases hmax : n₀ + s.counted ≤ intMax
    · -- the count read is below a batch, and it covers the queue and the current batch
      have hcount := hinv.count_eq (Int.le_trans (by decide) hn) hmax
      simp only [dataBatchSize] at hlt
      omega
    · -- the counter has passed `INT_MAX`: the item is one more that it did not show
      omega
  | notify hpc =>
    -- the notification owed becomes a pending one
    simp only [hpc, RcvPc.owed, notifyGive] at h ⊢
    omega

lemma announced_procStep {n₀ : ℤ} (hn : n₀ + 11 ≤ intMax) {s s' : State} (hinv : IntInv n₀ s)
    (h : Announced n₀ s) (hs : ProcStep s s') : Announced n₀ s' := by
  have hbound := hinv.inv.bounded
  unfold Announced at h ⊢
  cases hs with
  | timedOut hpc | loop hpc | clean hpc | take hpc | load hpc | give hpc =>
    simpa [hpc, unseen, ProcPc.debt, ProcPc.allowance] using h
  | wake hpc hne =>
    -- the notification taken is replaced by the allowance for the batch it starts
    simp only [hpc, unseen, ProcPc.debt, ProcPc.allowance] at h ⊢
    omega
  | receive hi hpc hq =>
    have hitems := Fifo.receive_eq_some.mp hq
    simp only [hpc, hitems, unseen, ProcPc.debt, ProcPc.allowance, List.length_cons] at h ⊢
    omega
  | short hpc hi hq =>
    -- the queue ran empty: only the items of this short batch are left to account for
    have hempty := Fifo.receive_eq_none.mp hq
    rw [hpc] at hbound
    simp only [hbound.1, hi, hempty, ProcPc.debt, ProcPc.allowance, List.length_nil, if_true]
    simp only [dataBatchSize] at hi
    omega
  | full hpc hi =>
    rw [hpc] at hbound
    simp only [hpc, hbound.1, Nat.not_lt.mpr hi, unseen, ProcPc.debt, ProcPc.allowance,
      if_false] at h ⊢
    exact h
  | @store n tmp hpc =>
    -- a full batch takes its five items with it, a short one found the queue empty; and a batch
    -- leaves four unseen items at most
    have hlen : s.msgQueue.items.length ≤ 10 := s.msgQueue.bound
    rw [hpc] at hbound
    simp only [ProcPc.Bounded, dataBatchSize] at hbound
    simp only [hpc, unseen, ProcPc.debt, ProcPc.allowance, dataBatchSize] at h ⊢
    split at h <;> omega

lemma announced_step {n₀ : ℤ} (hn : 0 ≤ n₀) (hmax : n₀ + 11 ≤ intMax) {s t : State} {a : Action}
    (hinv : IntInv n₀ s) (h : Announced n₀ s) (hs : intStep s a = some t) : Announced n₀ t := by
  rcases Option.map_eq_some_iff.mp hs with ⟨t, ht, rfl⟩
  show Announced n₀ t
  cases a with
  | rcv rand => exact announced_rcvStep hn hinv h (rcvDataTask_cases ht)
  | proc => exact announced_procStep hmax hinv h (procDataTask_cases ht)
  | entry =>
    unfold Announced at h ⊢
    cases entryFunc_cases ht with
    | createProc hpc =>
      have hempty := hinv.inv.items_eq_nil (hinv.inv.life.rcv_absent.mp (.inl hpc))
      simp only [hempty, ProcPc.debt, ProcPc.allowance, List.length_nil]
      omega
    | createRcv hpc =>
      have hrcv := hinv.inv.life.rcv_absent.mp (.inr hpc)
      simpa [hrcv, unseen, RcvPc.owed] using h
    | timeOut hpc | done hpc => exact h

lemma announced_of_reach {n₀ : ℤ} (hn : 0 ≤ n₀) (hmax : n₀ + 11 ≤ intMax) {s : State}
    (h : Reach intStep (start n₀) s) : IntInv n₀ s ∧ Announced n₀ s := by
  refine h.invariant (I := fun s => IntInv n₀ s ∧ Announced n₀ s) ?_ ?_
  · intro t a u ht hu
    exact ⟨intInv_step ht.1 hu, announced_step hn hmax ht.1 ht.2 hu⟩
  · exact ⟨intInv_start (Int.le_trans (by decide) hn) (by omega), announced_start n₀⟩

/-- While `proc_data_task` waits, the pending notifications and the one still owed fall
short of the queue length by at most four. -/
lemma Announced.waiting {n₀ : ℤ} (hn : n₀ + 11 ≤ intMax) {s : State} (h : Announced n₀ s)
    (hw : s.proc = .wait) : s.msgQueue.items.length ≤ s.notifications + 4 + s.rcv.owed := by
  have hlen : s.msgQueue.items.length ≤ 10 := s.msgQueue.bound
  unfold Announced unseen at h
  simp only [hw, ProcPc.debt, ProcPc.allowance] at h
  omega

/-- With the queue full, `proc_data_task` is never blocked: it neither waits without a
notification nor waits for a mutex that nobody will give back. -/
lemma not_both_blocked {n₀ : ℤ} (hn : n₀ + 11 ≤ intMax) {s : State} (hinv : IntInv n₀ s)
    (h : Announced n₀ s) : ¬ (RcvBlockedOnQueue s ∧ ProcBlocked s) := by
  rintro ⟨⟨data, hrcv, hfull⟩, hne, hnd, hblocked⟩
  have hlen : s.msgQueue.items.length = 10 := Fifo.send_eq_none.mp hfull
  rcases procDataTask_eq_none.mp hblocked with hpc | hpc | ⟨hpc, hzero⟩ | ⟨n, hpc, hheld⟩
  · exact hne hpc
  · exact hnd hpc
  · -- ten queued items have six notifications pending
    have hlt := h.waiting hn hpc
    simp only [hrcv, hzero, RcvPc.owed] at hlt
    omega
  · -- the holder is inside its critical section, but neither task is
    rcases Option.ne_none_iff_exists'.mp hheld with ⟨t, ht⟩
    have hin := (hinv.inv.guarded.holder_iff t).mp ht
    cases t <;> simp [phase, hrcv, hpc, RcvPc.phase, ProcPc.phase] at hin

/-- What makes a wake-up sure in a state:

* if `proc_data_task` waits and `rcv_data_task` is not deciding whether to notify, the
  pending notifications are at least the queue length less four, so five or more queued
  items never go unannounced;
* if it waits with five or more items and nothing pending, `rcv_data_task` is about to
  notify it;
* `rcv_data_task` is not blocked on the full queue while `proc_data_task` is blocked. -/
structure NoLostWakeup (s : State) : Prop where
  pending : s.proc = .wait → ¬ s.rcv.Deciding →
    (s.msgQueue.items.length : ℤ) - 4 ≤ s.notifications
  announced : s.proc = .wait → ¬ s.rcv.Deciding → s.notifications = 0 →
    ¬ 5 ≤ s.msgQueue.items.length
  notifying : s.proc = .wait → s.notifications = 0 → 5 ≤ s.msgQueue.items.length →
    (s.rcv = .check ∧ s.sRcvItemNum ≥ dataBatchSize) ∨ s.rcv = .notify
  notBlocked : ¬ (RcvBlockedOnQueue s ∧ ProcBlocked s)

/-- **No lost wake-up, no deadlock**, in any state of a run that found at most `INT_MAX - 11` in
`s_rcv_item_num`. -/
lemma noLostWakeup_of_reach {n₀ : ℤ} (hn : 0 ≤ n₀) (hmax : n₀ + 11 ≤ intMax) {s : State}
    (h : Reach intStep (start n₀) s) : NoLostWakeup s := by
  obtain ⟨hinv, hann⟩ := announced_of_reach hn hmax h
  refine ⟨fun hw hd => ?_, fun hw hd hzero => ?_, fun hw hzero hfive => ?_,
    not_both_blocked hmax hinv hann⟩
  · have hle := hann.waiting hmax hw
    rw [RcvPc.owed_eq_zero hd] at hle
    omega
  · have hle := hann.waiting hmax hw
    rw [RcvPc.owed_eq_zero hd] at hle
    omega
  · have hle := hann.waiting hmax hw
    by_cases hd : s.rcv.Deciding
    · refine hd.imp_left fun hpc => ⟨hpc, ?_⟩
      have hlen : s.msgQueue.items.length ≤ 10 := s.msgQueue.bound
      have hcounted : s.counted = s.msgQueue.items.length := by
        simp [State.counted, hpc, hw, RcvPc.credit, ProcPc.debt]
      have hcount := hinv.count_eq (Int.le_trans (by decide) hn) (by omega)
      simp only [dataBatchSize]
      omega
    · rw [RcvPc.owed_eq_zero hd] at hle
      omega

end BatchProcessing
end EspLab
