import EspLab.BatchProcessing.Invariants

/-!
# Shutdown of the batch processing example

The inner loop of `proc_data_task` never ends, since a take without a timeout never returns
zero; the task can only exit if it tests `timed_out` for the first time after the flag is
set. In that case nobody empties the queue, so `rcv_data_task` must not be on its way to a
queue that is already full.
-/

namespace EspLab
namespace BatchProcessing

open Transition Rtos

/-- `rcv_data_task` has an item that it has not queued yet. -/
def RcvPc.InFlight : RcvPc → Prop
  | .take _ | .load _ | .store _ _ | .give _ | .enqueue _ => True
  | _ => False

/-- `rcv_data_task` has an item for a full queue. -/
def NoRoom (s : State) : Prop :=
  s.rcv.InFlight ∧ s.msgQueue.items.length = msgQueueLen

/-- The flag is set, both tasks exist, and `proc_data_task` has not entered its inner loop. -/
def Unstarted (s : State) : Prop :=
  s.timedOut = true ∧ s.rcv ≠ .absent ∧ (s.proc = .head ∨ s.proc = .deleted) ∧
    (s.entry = .grace ∨ s.entry = .returned)

/-- `proc_data_task` is in its inner loop. -/
def InLoop (s : State) : Prop :=
  (s.proc ≠ .absent ∧ s.proc ≠ .head ∧ s.proc ≠ .deleted) ∧
    (s.entry = .grace ∨ s.entry = .returned)

/-- There is no way out of the inner loop. -/
lemma inLoop_step {s s' : State} {a : Action} (h : InLoop s) (hs : step s a = some s') :
    InLoop s' := by
  rcases h with ⟨hp, he⟩
  unfold InLoop
  cases a with
  | entry => cases entryFunc_cases hs <;> simp_all
  | rcv rand => cases rcvDataTask_cases hs <;> exact ⟨hp, he⟩
  | proc => cases procDataTask_cases hs <;> simp_all

/-- While nobody empties the queue, an item for a full queue stays where it is, and no item
finds the queue full later. -/
lemma noRoom_step {s s' : State} {a : Action} (h : Unstarted s) (hs : step s a = some s') :
    Unstarted s' ∧ (NoRoom s' ↔ NoRoom s) := by
  rcases h with ⟨ht, hr, hp, he⟩
  unfold Unstarted NoRoom
  cases a with
  | entry => cases entryFunc_cases hs <;> simp_all
  | proc => cases procDataTask_cases hs <;> simp_all
  | rcv rand =>
    cases rcvDataTask_cases hs with
    | enqueue hpc hq =>
      rcases Fifo.send_eq_some.mp hq with ⟨hlt, -⟩
      refine ⟨⟨ht, by simp, hp, he⟩, ?_⟩
      simp [hpc, RcvPc.InFlight, Nat.ne_of_lt hlt]
    | loop _ hpc hf => simp_all
    | timedOut hpc | take hpc | load hpc | store hpc | give hpc | enough hpc | tooFew hpc
    | notify hpc => simp_all [RcvPc.InFlight]

/-- At rest without an inner loop: `proc_data_task` has exited, and `rcv_data_task` has
unless it has an item for a full queue. -/
lemma stuck_unstarted {n₀ : ℤ} {s : State} (hinv : Inv n₀ s) (h : Unstarted s)
    (hs : Stuck step s) : s.proc = .deleted ∧ (s.rcv = .deleted ↔ ¬ NoRoom s) := by
  rcases h with ⟨ht, hr, hp, he⟩
  have hdel : s.proc = .deleted := by
    apply hp.resolve_left
    intro hhead
    have hnone := hs .proc
    simp [step, procDataTask, hhead] at hnone
  refine ⟨hdel, ?_⟩
  rcases rcvDataTask_eq_none.mp (hs (.rcv 0)) with habs | hd | ⟨data, htake, hheld⟩ |
    ⟨data, henq, hfull⟩
  · exact absurd habs hr
  · simp [hd, NoRoom, RcvPc.InFlight]
  · -- nobody is inside a critical section, so the mutex is free
    rcases Option.ne_none_iff_exists'.mp hheld with ⟨t, htask⟩
    have hin := (hinv.guarded.holder_iff t).mp htask
    cases t <;> simp [phase, htake, hdel, RcvPc.phase, ProcPc.phase] at hin
  · simp [henq, NoRoom, RcvPc.InFlight, hfull]

/-- **Shutdown.** When the flag is set in state `s` and the run comes to rest in `f`, both
tasks have exited exactly when `proc_data_task` had not yet tested the flag in `s` and
`rcv_data_task` had no item for a full queue. -/
lemma exited_iff {n₀ : ℤ} {s s' f : State} (h : Reach step (start n₀) s)
    (hs : s.entry = .running) (hflag : step s .entry = some s') (hf : Reach step s' f)
    (hstuck : Stuck step f) :
    (f.rcv = .deleted ∧ f.proc = .deleted) ↔ (s.proc = .head ∧ ¬ NoRoom s) := by
  have hlife := lifecycle_of_reach h
  have hinv := inv_of_reach ((h.tail hflag).trans hf)
  cases entryFunc_cases hflag with
  | createProc hpc | createRcv hpc | done hpc => simp [hpc] at hs
  | timeOut hpc =>
    have hr : s.rcv ≠ .absent := fun hr => by
      rcases hlife.rcv_absent.mpr hr with he | he <;> simp [he] at hs
    by_cases hhead : s.proc = .head
    · have hstart : Unstarted { s with timedOut := true, entry := .grace } :=
        ⟨rfl, hr, .inl hhead, .inl rfl⟩
      obtain ⟨hf', hroom⟩ := hf.stable (fun _ _ _ => noRoom_step) hstart
      rcases stuck_unstarted hinv hf' hstuck with ⟨hproc, hrcv⟩
      have hsame : NoRoom { s with timedOut := true, entry := .grace } ↔ NoRoom s := Iff.rfl
      rw [hrcv, hroom, hsame]
      simp [hproc, hhead]
    · have hp : s.proc ≠ .absent := fun hp => by simp [hlife.proc_absent.mpr hp] at hs
      have hd : s.proc ≠ .deleted := fun hd => by
        rcases hlife.timedOut_iff.mp (hlife.proc_deleted hd) with he | he <;> simp [he] at hs
      have hstart : InLoop { s with timedOut := true, entry := .grace } :=
        ⟨⟨hp, hhead, hd⟩, .inl rfl⟩
      have hloop : InLoop f := hf.invariant (fun _ _ _ => inLoop_step) hstart
      simp [hhead, hloop.1.2.2]

/-- A run that has come to rest after the flag was set in `atFlag`; `sRcvItemNum` is what
it found in the counter. -/
structure FinishedRun where
  sRcvItemNum : ℤ
  atFlag : State
  flagged : State
  atRest : State
  reached : Reach step (start sRcvItemNum) atFlag
  running : atFlag.entry = .running
  setsFlag : step atFlag .entry = some flagged
  rests : Reach step flagged atRest
  stuck : Stuck step atRest

/-- Every state at rest with the flag set ends a run that set the flag. -/
lemma exists_finishedRun {n₀ : ℤ} {f : State} (h : Reach step (start n₀) f)
    (ht : f.timedOut = true) (hf : Stuck step f) : ∃ r : FinishedRun, r.atRest = f := by
  obtain ⟨u, a, v, hsu, hu, hv, hPv, hvf⟩ :=
    h.exists_step (P := fun s => s.timedOut = true) (by simp [start]) ht
  cases a with
  | rcv rand => cases rcvDataTask_cases hv <;> exact absurd hPv hu
  | proc => cases procDataTask_cases hv <;> exact absurd hPv hu
  | entry =>
    cases entryFunc_cases hv with
    | timeOut hpc => exact ⟨⟨n₀, u, _, f, hsu, hpc, hv, hvf, hf⟩, rfl⟩
    | createProc | createRcv | done => exact absurd hPv hu

end BatchProcessing
end EspLab
