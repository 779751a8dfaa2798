import EspLab.BatchProcessing.Invariants

/-!
# Full and short batches

`rcv_data_task` gives a notification for every item it queues while it reads five or more
in `s_rcv_item_num`, not one for every five items. When it runs ahead of `proc_data_task`,
there are more notifications than batches, and `proc_data_task` dequeues fewer than five
items for the surplus ones.

`AnnouncesBatch` is the condition under which that does not happen: a notification is given
only for a batch of its own. `Covered` is the invariant it buys, and `Overdrawn` its
negation, from which `proc_data_task` runs into a short batch on its own.
-/

namespace EspLab
namespace BatchProcessing

open Transition Rtos

/-- One while `proc_data_task` works on the notification it took. -/
def ProcPc.serving : ProcPc → ℕ
  | .receive _ _ | .clean _ | .take _ | .load _ | .store _ _ => 1
  | _ => 0

/-- A notification is given only when the queue, with what the current batch already took
from it, holds five items for it beyond five for every notification pending or in service. -/
def AnnouncesBatch (s : State) : Action → Prop
  | .rcv _ => s.rcv = .notify →
      dataBatchSize * (s.notifications + s.proc.serving + 1) ≤
        s.msgQueue.items.length + s.proc.debt
  | _ => True

instance (s : State) : (a : Action) → Decidable (AnnouncesBatch s a)
  | .rcv _ => inferInstanceAs (Decidable (_ → _))
  | .entry | .proc => isTrue trivial

/-- The dequeue loop of the current batch, if it is over, took five items. -/
def ProcPc.TookBatch : ProcPc → Prop
  | .clean n | .take n | .load n | .store n _ => n = dataBatchSize
  | _ => True

/-- Every notification pending or in service has five items of its own. -/
def Covered (s : State) : Prop :=
  s.proc.TookBatch ∧
    dataBatchSize * (s.notifications + s.proc.serving) ≤ s.msgQueue.items.length + s.proc.debt

lemma covered_start (n₀ : ℤ) : Covered (start n₀) := by
  simp [Covered, start, ProcPc.TookBatch, ProcPc.serving]

lemma covered_rcvStep {s s' : State} {rand : ℕ} (h : Covered s)
    (hok : AnnouncesBatch s (.rcv rand)) (hs : RcvStep s s') : Covered s' := by
  refine ⟨?_, ?_⟩
  · cases hs <;> exact h.1
  have hle := h.2
  cases hs with
  | timedOut hpc | loop _ hpc | take hpc | load hpc | store hpc | give hpc | enough hpc
  | tooFew hpc => exact hle
  | enqueue hpc hq =>
    rcases Fifo.send_eq_some.mp hq with ⟨_, hitems⟩
    simp only [hitems, List.length_append, List.length_singleton]
    omega
  | notify hpc =>
    -- the condition finds the five items of the new notification
    have hnew := hok hpc
    simp only [notifyGive, dataBatchSize] at hnew ⊢
    omega

lemma covered_procStep {n₀ : ℤ} {s s' : State} (hinv : Inv n₀ s) (h : Covered s)
    (hs : ProcStep s s') : Covered s' := by
  rcases h with ⟨htook, hle⟩
  have hbound := hinv.bounded
  unfold Covered
  cases hs with
  | timedOut hpc | loop hpc | clean hpc | take hpc | load hpc | give hpc =>
    rw [hpc] at htook
    exact ⟨htook, by simpa [hpc, ProcPc.serving, ProcPc.debt] using hle⟩
  | wake hpc hne =>
    -- a pending notification goes into service with its items
    refine ⟨trivial, ?_⟩
    simp only [hpc, ProcPc.serving, ProcPc.debt, dataBatchSize] at hle ⊢
    omega
  | receive hi hpc hq =>
    have hitems := Fifo.receive_eq_some.mp hq
    refine ⟨trivial, ?_⟩
    simp only [hpc, hitems, ProcPc.serving, ProcPc.debt, List.length_cons] at hle ⊢
    omega
  | short hpc hi hq =>
    -- the batch in service has five items, so the queue cannot run empty before
    have hempty := Fifo.receive_eq_none.mp hq
    rw [hpc] at hbound
    simp only [hpc, hbound.1, hempty, ProcPc.serving, ProcPc.debt, List.length_nil] at hle
    exact absurd hle (by simp only [dataBatchSize] at hi ⊢; omega)
  | full hpc hi =>
    -- five passes have dequeued five items
    rw [hpc] at hbound
    refine ⟨?_, by simpa [hpc, ProcPc.serving, ProcPc.debt] using hle⟩
    exact hbound.1.trans (Nat.le_antisymm hbound.2 hi)
  | @store n tmp hpc =>
    -- the notification and its five items leave together
    rw [hpc] at htook
    refine ⟨trivial, ?_⟩
    have hn : n = 5 := htook
    simp only [hpc, hn, ProcPc.serving, ProcPc.debt, dataBatchSize] at hle ⊢
    omega

lemma covered_step {n₀ : ℤ} {s s' : State} {a : Action} (hinv : Inv n₀ s) (h : Covered s)
    (hok : AnnouncesBatch s a) (hs : step s a = some s') : Covered s' := by
  cases a with
  | rcv rand => exact covered_rcvStep h hok (rcvDataTask_cases hs)
  | proc => exact covered_procStep hinv h (procDataTask_cases hs)
  | entry =>
    rcases h with ⟨htook, hle⟩
    cases entryFunc_cases hs with
    | createProc hpc =>
      refine ⟨trivial, ?_⟩
      simp [ProcPc.serving]
    | createRcv hpc | timeOut hpc | done hpc => exact ⟨htook, hle⟩

lemma covered_of_reachBy {n₀ : ℤ} {s : State}
    (h : ReachBy step AnnouncesBatch (start n₀) s) : Inv n₀ s ∧ Covered s := by
  refine h.invariant (I := fun s => Inv n₀ s ∧ Covered s) ?_ ⟨inv_start n₀, covered_start n₀⟩
  intro t a u ht hok hu
  exact ⟨inv_step ht.1 hu, covered_step ht.1 ht.2 hok hu⟩

/-! ## A surplus notification meets a short batch -/

/-- More notifications than batches, with `proc_data_task` in its inner loop and
`rcv_data_task` outside its critical section. -/
structure Overdrawn (s : State) : Prop where
  tookBatch : s.proc.TookBatch
  bounded : s.proc.Bounded
  guarded : Guarded s.sMutex s.sRcvItemNum (phase s.rcv s.proc)
  outside : s.rcv.phase = .outside
  inLoop : s.proc ≠ .absent ∧ s.proc ≠ .head ∧ s.proc ≠ .deleted
  surplus : s.msgQueue.items.length + s.proc.debt <
    dataBatchSize * (s.notifications + s.proc.serving)

/-- Program points still ahead in the current pass of the inner loop. -/
def ProcPc.ahead : ProcPc → ℕ
  | .receive i _ => 15 - i
  | .clean _ => 9
  | .take _ => 8
  | .load _ => 7
  | .store _ _ => 6
  | .give => 5
  | _ => 4

/-- `proc_data_task` is not blocked: it has a notification, and the mutex is its own or free. -/
lemma Overdrawn.enabled {s : State} (h : Overdrawn s) : ∃ s', procDataTask s = some s' := by
  rw [← Option.ne_none_iff_exists']
  intro hnone
  rcases procDataTask_eq_none.mp hnone with hpc | hpc | ⟨hpc, hzero⟩ | ⟨n, hpc, hheld⟩
  · exact h.inLoop.1 hpc
  · exact h.inLoop.2.2 hpc
  · -- it does not wait: there are more notifications than batches, so there is one
    have hlt := h.surplus
    simp [hpc, hzero, ProcPc.serving] at hlt
  · rcases Option.ne_none_iff_exists'.mp hheld with ⟨t, ht⟩
    have hin := (h.guarded.holder_iff t).mp ht
    cases t with
    | rcv => exact hin h.outside
    | proc => simp [phase, hpc, ProcPc.phase] at hin

/-- One step of `proc_data_task` ends a short batch or brings it nearer. -/
lemma Overdrawn.procStep {s s' : State} (h : Overdrawn s) (hs : ProcStep s s') :
    (∃ n < dataBatchSize, s'.proc = .clean n) ∨
      Overdrawn s' ∧
        20 * s'.notifications + s'.proc.ahead < 20 * s.notifications + s.proc.ahead := by
  rcases h with ⟨htook, hbound, hguard, hout, hloop, hlt⟩
  have hguard' := guarded_procStep hguard hs
  cases hs with
  | timedOut hpc | loop hpc => exact absurd hpc hloop.2.1
  | wake hpc hne =>
    -- one pending notification less outweighs the pass that begins
    refine .inr ⟨⟨trivial, ⟨rfl, Nat.zero_le _⟩, hguard', hout, by simp, ?_⟩, ?_⟩
    · simp only [hpc, ProcPc.serving, ProcPc.debt, dataBatchSize] at hlt ⊢
      omega
    · simp only [hpc, ProcPc.ahead]
      omega
  | receive hi hpc hq =>
    have hitems := Fifo.receive_eq_some.mp hq
    rw [hpc] at hbound
    refine .inr ⟨⟨trivial, ⟨congrArg (· + 1) hbound.1, hi⟩, hguard', hout, by simp, ?_⟩, ?_⟩
    · simp only [hpc, hitems, ProcPc.serving, ProcPc.debt, List.length_cons] at hlt ⊢
      omega
    · simp only [hpc, ProcPc.ahead, dataBatchSize] at hi ⊢
      omega
  | short hpc hi hq =>
    -- the queue is empty before the fifth item: the short batch
    rw [hpc] at hbound
    exact .inl ⟨_, hbound.1 ▸ hi, rfl⟩
  | full hpc hi =>
    rw [hpc] at hbound
    have hi' := Nat.le_antisymm hbound.2 hi
    have hn := hbound.1.trans hi'
    refine .inr ⟨⟨hn, Nat.le_of_eq hn, hguard', hout, by simp, ?_⟩, ?_⟩
    · simpa [hpc, ProcPc.serving, ProcPc.debt] using hlt
    · simp only [hpc, hi', ProcPc.ahead, dataBatchSize]
      omega
  | clean hpc | take hpc | load hpc =>
    rw [hpc] at htook hbound
    refine .inr ⟨⟨htook, hbound, hguard', hout, by simp, ?_⟩, ?_⟩
    · simpa [hpc, ProcPc.serving, ProcPc.debt] using hlt
    · simp [hpc, ProcPc.ahead]
  | @store n tmp hpc =>
    rw [hpc] at htook
    have hn : n = 5 := htook
    refine .inr ⟨⟨trivial, trivial, hguard', hout, by simp, ?_⟩, ?_⟩
    · simp only [hpc, hn, ProcPc.serving, ProcPc.debt, dataBatchSize] at hlt ⊢
      omega
    · simp [hpc, ProcPc.ahead]
  | give hpc =>
    refine .inr ⟨⟨trivial, trivial, hguard', hout, by simp, ?_⟩, ?_⟩
    · simpa [hpc, ProcPc.serving, ProcPc.debt] using hlt
    · simp [hpc, ProcPc.ahead]

/-- Left to itself, `proc_data_task` ends a short batch. -/
lemma Overdrawn.short_batch {s : State} (h : Overdrawn s) :
    ∃ t n, Reach step s t ∧ t.proc = .clean n ∧ n < dataBatchSize := by
  -- induction on the steps left before the surplus notification is served
  induction hm : 20 * s.notifications + s.proc.ahead using Nat.strongRecOn
    generalizing s with
  | ind m ih =>
    rcases h.enabled with ⟨s', hs'⟩
    rcases h.procStep (procDataTask_cases hs') with ⟨n, hn, hpc⟩ | ⟨h', hlt⟩
    · exact ⟨s', n, .single (a := .proc) hs', hpc, hn⟩
    · rcases ih _ (hm ▸ hlt) h' rfl with ⟨t, n, ht, hpc, hn⟩
      exact ⟨t, n, .head (a := .proc) hs' ht, hpc, hn⟩

/-- After a surplus notification the system is overdrawn. -/
lemma overdrawn_of_notify {s : State} (hinv : Inv 0 s) (hcov : Covered s)
    (hpc : s.rcv = .notify) (hh : s.proc ≠ .head) (hd : s.proc ≠ .deleted)
    (hnot : ¬ AnnouncesBatch s (.rcv 0)) :
    Overdrawn { s with notifications := notifyGive s.notifications, rcv := .head } where
  tookBatch := hcov.1
  bounded := hinv.bounded
  guarded := guarded_rcvStep hinv.guarded (.notify hpc)
  outside := rfl
  inLoop := by
    refine ⟨fun habs => ?_, hh, hd⟩
    have hrcv := hinv.life.rcv_absent.mp (.inl (hinv.life.proc_absent.mpr habs))
    rw [hpc] at hrcv
    cases hrcv
  surplus := by
    simp only [AnnouncesBatch, hpc, true_implies, dataBatchSize] at hnot
    simp only [notifyGive, dataBatchSize]
    omega

/-- **Batches.** In every run in which each notification announces a batch of its own, every
dequeue loop ends with five items. While `proc_data_task` is in its inner loop the condition is
exact: a notification that breaks it there can be followed by a short batch. Nothing is said of
one given before `proc_data_task` gets to its inner loop or after it has exited. -/
theorem batch_full_when_announced {s : State}
    (h : ReachBy step AnnouncesBatch (start 0) s) :
    (∀ n, s.proc = .clean n → n = dataBatchSize) ∧
    (s.rcv = .notify → s.proc ≠ .head → s.proc ≠ .deleted → ¬ AnnouncesBatch s (.rcv 0) →
      ∃ t n, Reach step s t ∧ t.proc = .clean n ∧ n < dataBatchSize) := by
  rcases covered_of_reachBy h with ⟨hinv, hcov⟩
  refine ⟨?_, ?_⟩
  · intro n hpc
    have htook := hcov.1
    rw [hpc] at htook
    exact htook
  · intro hpc hh hd hnot
    rcases (overdrawn_of_notify hinv hcov hpc hh hd hnot).short_batch with ⟨t, n, ht, hclean, hn⟩
    exact ⟨t, n, .head (a := .rcv 0) (by simp [step, rcvDataTask, hpc]) ht, hclean, hn⟩

/-- Five items, one notification, and `proc_data_task` up to the end of its dequeue loop. -/
def oneBatch : List Action :=
  [.entry, .entry] ++ List.replicate 36 (.rcv 0) ++ List.replicate 8 .proc

theorem batch_full_when_announced_oneBatch :
    ∃ s, exec step (start 0) oneBatch = some s ∧ s.proc = .clean 5 ∧
      ∀ n, s.proc = .clean n → n = dataBatchSize := by
  obtain ⟨s, hs⟩ := Option.isSome_iff_exists.mp
    (show (exec step (start 0) oneBatch).isSome from by decide)
  have hpc : (exec step (start 0) oneBatch).map (·.proc) = some (.clean 5) := by decide
  rw [hs] at hpc
  exact ⟨s, hs, Option.some.inj hpc, (batch_full_when_announced ⟨_, hs, by decide⟩).1⟩

/-- Six items before `proc_data_task` first runs: two notifications for one batch. -/
def sixAhead : List Action :=
  [.entry, .entry] ++ List.replicate 44 (.rcv 0) ++ List.replicate 16 .proc

/-- The second notification of `sixAhead` is served with a single item. -/
theorem short_batch_sixAhead :
    ¬ ∀ s, Reach step (start 0) s → ∀ n, s.proc = .clean n → n = dataBatchSize := by
  intro hall
  obtain ⟨s, hs⟩ := Option.isSome_iff_exists.mp
    (show (exec step (start 0) sixAhead).isSome from by decide)
  have hpc : (exec step (start 0) sixAhead).map (·.proc) = some (.clean 1) := by decide
  rw [hs] at hpc
  exact absurd (hall s (.of_exec hs) 1 (Option.some.inj hpc)) (by decide)

end BatchProcessing
end EspLab
