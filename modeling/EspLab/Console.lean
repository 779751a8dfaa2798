import EspLab.BatchProcessing.Shutdown
import EspLab.TaskNotify.Shutdown
import Mathlib.Algebra.GroupWithZero.Nat

/-!
# Invocations from the console

The `task_notification` and `batch_processing` commands each create two worker tasks and,
after `COMP_LOOP_PERIOD`, set `timed_out` so that the tasks leave their loops. An
`Invocation` is one command whose system has come to rest; the tasks it leaves behind are
blocked for good.
-/

namespace EspLab
namespace Console

open Transition

/-- One command, run until no party could step any more. -/
inductive Invocation
  | taskNotification (run : TaskNotify.FinishedRun)
  | batchProcessing (run : BatchProcessing.FinishedRun)

/-- The worker tasks of the invocation that have not reached `vTaskDelete`. -/
def Invocation.blockedWorkers : Invocation → ℕ
  | .taskNotification run =>
      (if run.atRest.rcv = .deleted then 0 else 1) + if run.atRest.send = .deleted then 0 else 1
  | .batchProcessing run =>
      (if run.atRest.rcv = .deleted then 0 else 1) + if run.atRest.proc = .deleted then 0 else 1

/-- What the entry function has to find when it sets `timed_out`: no receiver waiting for a
notification that is neither pending nor about to be given, respectively a `proc_data_task`
that has not yet tested the flag and no item on its way to a full queue. -/
def Invocation.InTime : Invocation → Prop
  | .taskNotification run => ¬ TaskNotify.Parked run.atFlag
  | .batchProcessing run =>
      run.atFlag.proc = .head ∧ ¬ BatchProcessing.NoRoom run.atFlag

lemma ite_add_ite_eq_zero {p q : Prop} [Decidable p] [Decidable q] :
    (if p then 0 else 1) + (if q then 0 else 1) = 0 ↔ p ∧ q := by
  by_cases hp : p <;> by_cases hq : q <;> simp [hp, hq]

lemma Invocation.blockedWorkers_eq_zero (c : Invocation) : c.blockedWorkers = 0 ↔ c.InTime := by
  cases c with
  | taskNotification run =>
    rw [blockedWorkers, ite_add_ite_eq_zero]
    exact TaskNotify.exited_iff run.reached run.running run.setsFlag run.rests run.stuck
  | batchProcessing run =>
    rw [blockedWorkers, ite_add_ite_eq_zero]
    exact BatchProcessing.exited_iff run.reached run.running run.setsFlag run.rests run.stuck

/-- **Clean shutdown.** Every state at rest with `timed_out` set ends a finished run, and in
a finished run both worker tasks have reached `vTaskDelete` exactly when the entry function
set the flag in time; so a sequence of invocations leaves no worker task blocked exactly
when each of them set it in time. -/
theorem clean_shutdown_iff (cs : List Invocation) :
    (∀ f, Reach TaskNotify.step TaskNotify.start f → f.timedOut = true →
      Stuck TaskNotify.step f → ∃ r : TaskNotify.FinishedRun, r.atRest = f) ∧
    (∀ n₀ f, Reach BatchProcessing.step (BatchProcessing.start n₀) f → f.timedOut = true →
      Stuck BatchProcessing.step f → ∃ r : BatchProcessing.FinishedRun, r.atRest = f) ∧
    (∀ r : TaskNotify.FinishedRun,
      (r.atRest.rcv = .deleted ∧ r.atRest.send = .deleted) ↔ ¬ TaskNotify.Parked r.atFlag) ∧
    (∀ r : BatchProcessing.FinishedRun,
      (r.atRest.rcv = .deleted ∧ r.atRest.proc = .deleted) ↔
        (r.atFlag.proc = .head ∧ ¬ BatchProcessing.NoRoom r.atFlag)) ∧
    ((cs.map Invocation.blockedWorkers).sum = 0 ↔ ∀ c ∈ cs, c.InTime) := by
  refine ⟨fun f => TaskNotify.exists_finishedRun, fun n₀ f => BatchProcessing.exists_finishedRun,
    fun r => TaskNotify.exited_iff r.reached r.running r.setsFlag r.rests r.stuck,
    fun r => BatchProcessing.exited_iff r.reached r.running r.setsFlag r.rests r.stuck, ?_⟩
  rw [List.sum_eq_zero_iff_forall_eq_nat]
  simp [Invocation.blockedWorkers_eq_zero]

/-- A `task_notification` command whose flag is set while the receiver waits and the sender is about
to notify it. -/
def notifiedInTime : TaskNotify.FinishedRun where
  atFlag := { TaskNotify.start with rcv := .take, send := .give, entry := .running }
  flagged :=
    { TaskNotify.start with timedOut := true, rcv := .take, send := .give, entry := .grace }
  atRest :=
    { TaskNotify.start with
      timedOut := true, rcv := .deleted, send := .deleted, entry := .returned, given := 1
      processed := 1 }
  reached := ⟨[.entry, .entry, .rcv, .send], by decide⟩
  running := rfl
  setsFlag := by decide
  rests := ⟨[.send, .send, .rcv, .rcv, .rcv, .rcv, .entry], by decide⟩
  stuck := by
    intro a
    cases a <;> decide

/-- A `batch_processing` command whose flag is set before `proc_data_task` first runs, while
`rcv_data_task` receives an item. -/
def flaggedFirst : BatchProcessing.FinishedRun where
  sRcvItemNum := 0
  atFlag := { BatchProcessing.start 0 with rcv := .take 0, proc := .head, entry := .running }
  flagged :=
    { BatchProcessing.start 0 with
      timedOut := true, rcv := .take 0, proc := .head, entry := .grace }
  atRest :=
    { BatchProcessing.start 0 with
      timedOut := true, sRcvItemNum := 1, msgQueue := ⟨[0], by decide⟩, rcv := .deleted
      proc := .deleted, entry := .returned, enqueued := [0] }
  reached := ⟨[.entry, .entry, .rcv 0], by decide⟩
  running := rfl
  setsFlag := by decide
  rests := ⟨.proc :: .entry :: List.replicate 7 (.rcv 0), by decide⟩
  stuck := by
    intro a
    cases a with
    | entry | proc => decide
    | rcv rand => rfl

/-- Both commands can shut down: neither leaves a worker task behind. -/
theorem clean_shutdown_iff_inTime :
    let cs := [.taskNotification notifiedInTime, .batchProcessing flaggedFirst]
    (notifiedInTime.atRest.rcv = .deleted ∧ notifiedInTime.atRest.send = .deleted) ∧
    (flaggedFirst.atRest.rcv = .deleted ∧ flaggedFirst.atRest.proc = .deleted) ∧
    (∀ c ∈ cs, Invocation.InTime c) ∧ (cs.map Invocation.blockedWorkers).sum = 0 := by
  intro cs
  obtain ⟨-, -, hnotify, hbatch, hall⟩ := clean_shutdown_iff cs
  have hnotParked : ¬ TaskNotify.Parked notifiedInTime.atFlag := by
    rintro ⟨-, -, hgive⟩
    exact hgive rfl
  have hroom : ¬ BatchProcessing.NoRoom flaggedFirst.atFlag := by
    rintro ⟨-, hfull⟩
    cases hfull
  have hinTime : ∀ c ∈ cs, Invocation.InTime c := by
    intro c hc
    rcases List.mem_cons.mp hc with rfl | hc
    · exact hnotParked
    · rw [List.mem_singleton.mp hc]
      exact ⟨rfl, hroom⟩
  exact ⟨(hnotify _).mpr hnotParked, (hbatch _).mpr ⟨rfl, hroom⟩, hinTime, hall.mpr hinTime⟩

/-- The receiver waits when the flag is set, and the sender exits without notifying it. -/
def receiverParked : TaskNotify.State :=
  { TaskNotify.start with timedOut := true, rcv := .take, send := .deleted, entry := .returned }

/-- `proc_data_task` waits when the flag is set, and `rcv_data_task` exits. -/
def processorParked : BatchProcessing.State :=
  { BatchProcessing.start 0 with
    timedOut := true, rcv := .deleted, proc := .wait, entry := .returned }

/-- Neither command always shuts down: each has a run that comes to rest with `timed_out`
set and a worker task blocked in `ulTaskNotifyTake`. -/
theorem worker_left_blocked :
    ¬ (∀ f, Reach TaskNotify.step TaskNotify.start f → f.timedOut = true →
      Stuck TaskNotify.step f → f.rcv = .deleted ∧ f.send = .deleted) ∧
    ¬ (∀ f, Reach BatchProcessing.step (BatchProcessing.start 0) f → f.timedOut = true →
      Stuck BatchProcessing.step f → f.rcv = .deleted ∧ f.proc = .deleted) := by
  constructor
  · intro hall
    have hreach : Reach TaskNotify.step TaskNotify.start receiverParked :=
      ⟨[.entry, .entry, .rcv, .entry, .entry, .send], by decide⟩
    have hstuck : Stuck TaskNotify.step receiverParked := by
      intro a
      cases a <;> decide
    exact absurd (hall _ hreach rfl hstuck) (by decide)
  · intro hall
    have hreach : Reach BatchProcessing.step (BatchProcessing.start 0) processorParked :=
      ⟨[.entry, .entry, .proc, .entry, .entry, .rcv 0], by decide⟩
    have hstuck : Stuck BatchProcessing.step processorParked := by
      intro a
      cases a with
      | entry | proc => decide
      | rcv rand => rfl
    exact absurd (hall _ hreach rfl hstuck) (by decide)

end Console
end EspLab
