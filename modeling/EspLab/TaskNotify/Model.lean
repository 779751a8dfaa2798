import EspLab.Lib.Rtos
import Mathlib.Algebra.Group.Nat.Defs
import Mathlib.Data.Int.Notation

/-!
# The task notification example

`task_notify_example.c`: `notification_send_func` gives `notification_rcv_func` a
notification in every pass of its loop; the receiver takes all pending notifications at
once and processes them one by one. Both test `timed_out` at the head of their loop only.

As in the other examples a step is one access to something shared (here also one pass of
the receiver's inner loop), and the delays take no step of their own.
-/

namespace EspLab
namespace TaskNotify

open Transition Rtos

/-- Where `notification_rcv_func` is, with its local `pending_notification_task_num`. -/
inductive RcvPc
  /-- not created yet -/
  | absent
  /-- `while (!timed_out)` -/
  | head
  /-- `ulTaskNotifyTake(pdTRUE, portMAX_DELAY)` -/
  | take
  /-- `while (pending_notification_task_num > 0)` -/
  | process (pendingNotificationTaskNum : ℤ)
  /-- `vTaskDelete(NULL)` reached -/
  | deleted
deriving DecidableEq

/-- Where `notification_send_func` is. -/
inductive SendPc
  /-- not created yet -/
  | absent
  /-- `while (!timed_out)` -/
  | head
  /-- `xTaskNotifyGive(rcv_task_hdl)` -/
  | give
  /-- `vTaskDelete(NULL)` reached -/
  | deleted
deriving DecidableEq

/-- Where `comp_task_notification_entry_func` is. -/
inductive EntryPc
  /-- `xTaskCreatePinnedToCore(notification_rcv_func, ..)` -/
  | createRcv
  /-- `xTaskCreatePinnedToCore(notification_send_func, ..)` -/
  | createSend
  /-- `vTaskDelay(pdMS_TO_TICKS(COMP_LOOP_PERIOD))`, then `timed_out = true` -/
  | running
  /-- the final `vTaskDelay` -/
  | grace
  /-- `return 0` -/
  | returned
deriving DecidableEq

/-- The flag, the receiver's notification value and where each party is. `given` and
`processed` count the notifications given and processed so far. -/
structure State where
  timedOut : Bool
  notifications : ℕ
  rcv : RcvPc
  send : SendPc
  entry : EntryPc
  given : ℕ
  processed : ℕ
deriving DecidableEq

/-- A choice of the scheduler: which party runs next. -/
inductive Action
  | entry
  | rcv
  | send
deriving DecidableEq

/-- The conversion of the returned `uint32_t` to the `int` it is stored in. -/
def toInt (n : ℕ) : ℤ := Int.bmod n (2 ^ 32)

/-- One step of `notification_rcv_func`. -/
def notificationRcvFunc (s : State) : Option State :=
  match s.rcv with
  | .absent => none
  | .head => some { s with rcv := if s.timedOut then .deleted else .take }
  | .take => (notifyTake true s.notifications).map fun (taken, n) =>
      { s with notifications := n, rcv := .process (toInt taken) }
  | .process pending =>
      if pending > 0 then
        some { s with processed := s.processed + 1, rcv := .process (pending - 1) }
      else some { s with rcv := .head }
  | .deleted => none

/-- One step of `notification_send_func`. A notification given to a receiver that has exited only
raises the value here; what the kernel does with a deleted task's handle is left out. -/
def notificationSendFunc (s : State) : Option State :=
  match s.send with
  | .absent => none
  | .head => some { s with send := if s.timedOut then .deleted else .give }
  | .give => some
      { s with notifications := notifyGive s.notifications, given := s.given + 1, send := .head }
  | .deleted => none

/-- One step of `comp_task_notification_entry_func`. A task just created has no
notification pending. -/
def entryFunc (s : State) : Option State :=
  match s.entry with
  | .createRcv => some { s with rcv := .head, notifications := 0, entry := .createSend }
  | .createSend => some { s with send := .head, entry := .running }
  | .running => some { s with timedOut := true, entry := .grace }
  | .grace => some { s with entry := .returned }
  | .returned => none

/-- One step of the party the scheduler picks. -/
def step (s : State) : Action → Option State
  | .entry => entryFunc s
  | .rcv => notificationRcvFunc s
  | .send => notificationSendFunc s

/-- `comp_task_notification_entry_func` has cleared `timed_out` and starts to create its
tasks. -/
def start : State where
  timedOut := false
  notifications := 0
  rcv := .absent
  send := .absent
  entry := .createRcv
  given := 0
  processed := 0

/-! ## What a step can do -/

/-- The steps of `notification_rcv_func`. -/
inductive RcvStep (s : State) : State → Prop
  | timedOut : s.rcv = .head → s.timedOut = true → RcvStep s { s with rcv := .deleted }
  | loop : s.rcv = .head → s.timedOut = false → RcvStep s { s with rcv := .take }
  | take : s.rcv = .take → s.notifications ≠ 0 →
      RcvStep s { s with notifications := 0, rcv := .process (toInt s.notifications) }
  | process {pending : ℤ} : s.rcv = .process pending → pending > 0 →
      RcvStep s { s with processed := s.processed + 1, rcv := .process (pending - 1) }
  | processed {pending : ℤ} : s.rcv = .process pending → pending ≤ 0 →
      RcvStep s { s with rcv := .head }

theorem notificationRcvFunc_cases {s s' : State} (h : notificationRcvFunc s = some s') :
    RcvStep s s' := by
  unfold notificationRcvFunc at h
  split at h
  · cases h
  · next hpc =>
    by_cases ht : s.timedOut = true
    · rw [if_pos ht] at h
      cases h
      exact .timedOut hpc ht
    · rw [if_neg ht] at h
      cases h
      exact .loop hpc (Bool.eq_false_iff.mpr ht)
  · next hpc =>
    rcases Option.map_eq_some_iff.mp h with ⟨⟨v, n⟩, hv, rfl⟩
    rcases notifyTake_eq_some.mp hv with ⟨hn, rfl, rfl⟩
    exact .take hpc hn
  · next hpc =>
    split at h
    · next hp =>
      cases h
      exact .process hpc hp
    · next hp =>
      cases h
      exact .processed hpc (Int.not_lt.mp hp)
  · cases h

/-- The steps of `notification_send_func`. -/
inductive SendStep (s : State) : State → Prop
  | timedOut : s.send = .head → s.timedOut = true → SendStep s { s with send := .deleted }
  | loop : s.send = .head → s.timedOut = false → SendStep s { s with send := .give }
  | give : s.send = .give →
      SendStep s
        { s with
          notifications := notifyGive s.notifications
          given := s.given + 1
          send := .head }

theorem notificationSendFunc_cases {s s' : State} (h : notificationSendFunc s = some s') :
    SendStep s s' := by
  unfold notificationSendFunc at h
  split at h
  · cases h
  · next hpc =>
    by_cases ht : s.timedOut = true
    · rw [if_pos ht] at h
      cases h
      exact .timedOut hpc ht
    · rw [if_neg ht] at h
      cases h
      exact .loop hpc (Bool.eq_false_iff.mpr ht)
  · next hpc =>
    cases h
    exact .give hpc
  · cases h

/-- The steps of the entry function. -/
inductive EntryStep (s : State) : State → Prop
  | createRcv : s.entry = .createRcv →
      EntryStep s { s with rcv := .head, notifications := 0, entry := .createSend }
  | createSend : s.entry = .createSend →
      EntryStep s { s with send := .head, entry := .running }
  | timeOut : s.entry = .running →
      EntryStep s { s with timedOut := true, entry := .grace }
  | done : s.entry = .grace → EntryStep s { s with entry := .returned }

theorem entryFunc_cases {s s' : State} (h : entryFunc s = some s') : EntryStep s s' := by
  unfold entryFunc at h
  split at h
  · next hpc =>
    cases h
    exact .createRcv hpc
  · next hpc =>
    cases h
    exact .createSend hpc
  · next hpc =>
    cases h
    exact .timeOut hpc
  · next hpc =>
    cases h
    exact .done hpc
  · cases h

/-! ## When a party cannot step -/

theorem notificationRcvFunc_eq_none {s : State} :
    notificationRcvFunc s = none ↔
      s.rcv = .absent ∨ s.rcv = .deleted ∨ (s.rcv = .take ∧ s.notifications = 0) := by
  unfold notificationRcvFunc
  cases hpc : s.rcv with
  | process pending =>
    simp only [reduceCtorEq, false_and, false_or, iff_false]
    split <;> simp
  | absent | head | take | deleted => simp [notifyTake_eq_none]

theorem notificationSendFunc_eq_none {s : State} :
    notificationSendFunc s = none ↔ s.send = .absent ∨ s.send = .deleted := by
  unfold notificationSendFunc
  cases hpc : s.send <;> simp

end TaskNotify
end EspLab
