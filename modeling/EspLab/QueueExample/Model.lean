import EspLab.Lib.Rtos
import Mathlib.Data.Int.Notation

/-!
# The queue example

`queue_example.c`: `send_q_msg` sends the numbers it counts in `sent_num` to a queue of length
40, waiting for room without a timeout; `print_q_msg` receives them with a timeout. Both test
`timed_out` at the head of their loop.

As in the other examples a step is one access to something shared, and the delays take no step
of their own. The receive can time out whenever the scheduler says so. `sent_num` does not
overflow: the model speaks about runs with fewer than `2 ^ 31` sends.
-/

namespace EspLab
namespace QueueExample

open Transition Rtos

/-- `msg_queue_len` -/
def msgQueueLen : ℕ := 40

/-- Where `print_q_msg` is. -/
inductive PrintPc
  /-- not created yet -/
  | absent
  /-- `while (!timed_out)` -/
  | head
  /-- `xQueueReceive(msg_queue, (void *)&data, xTicksToWait)` -/
  | receive
  /-- `vTaskDelete(NULL)` reached -/
  | deleted
deriving DecidableEq

/-- Where `send_q_msg` is. -/
inductive SendPc
  /-- not created yet -/
  | absent
  /-- `while (!timed_out)` -/
  | head
  /-- `xQueueGenericSend(msg_queue, (void *)&sent_num, portMAX_DELAY, ..)` -/
  | send
  /-- `ESP_LOGI(TAG, "sent data = %d", sent_num)`, then `sent_num++` -/
  | increment
  /-- `vTaskDelete(NULL)` reached -/
  | deleted
deriving DecidableEq

/-- Where `comp_queue_entry_func` is. -/
inductive EntryPc
  /-- `msg_queue = xQueueGenericCreate(..)` -/
  | createQueue
  /-- `xTaskCreatePinnedToCore(print_q_msg, ..)` -/
  | createPrint
  /-- `xTaskCreatePinnedToCore(send_q_msg, ..)` -/
  | createSend
  /-- `vTaskDelay(pdMS_TO_TICKS(COMP_LOOP_PERIOD))`, then `timed_out = true` -/
  | running
  /-- the final `vTaskDelay` -/
  | grace
  /-- `return` -/
  | returned (code : ℤ)
deriving DecidableEq

/-- The flag, the queue, the local `sent_num` of the sender and where each party is. `sent` and
`received` are the values sent to the queue and received from it so far. -/
structure State where
  timedOut : Bool
  msgQueue : Fifo ℤ msgQueueLen
  sentNum : ℤ
  print : PrintPc
  send : SendPc
  entry : EntryPc
  sent : List ℤ
  received : List ℤ
deriving DecidableEq

/-- A choice of the scheduler: which party runs next, and whether a receive times out or the
queue cannot be created. -/
inductive Action
  | entry
  | noQueue
  | print
  | printTimeout
  | send
deriving DecidableEq

/-- One step of `print_q_msg`; the receive waits while the queue is empty. -/
def printQMsg (s : State) : Option State :=
  match s.print with
  | .absent => none
  | .head => some { s with print := if s.timedOut then .deleted else .receive }
  | .receive => s.msgQueue.receive.map fun (data, q) =>
      { s with msgQueue := q, received := s.received ++ [data], print := .head }
  | .deleted => none

/-- The receive of `print_q_msg` times out. -/
def printQMsgTimeout (s : State) : Option State :=
  match s.print with
  | .receive => some { s with print := .head }
  | _ => none

/-- One step of `send_q_msg`; the send waits while the queue is full, so it returns `pdTRUE`. -/
def sendQMsg (s : State) : Option State :=
  match s.send with
  | .absent => none
  | .head => some { s with send := if s.timedOut then .deleted else .send }
  | .send => (s.msgQueue.send s.sentNum).map fun q =>
      { s with msgQueue := q, sent := s.sent ++ [s.sentNum], send := .increment }
  | .increment => some { s with sentNum := s.sentNum + 1, send := .head }
  | .deleted => none

/-- One step of `comp_queue_entry_func`. -/
def entryFunc (s : State) : Option State :=
  match s.entry with
  | .createQueue => some { s with msgQueue := .empty, entry := .createPrint }
  | .createPrint => some { s with print := .head, entry := .createSend }
  | .createSend => some { s with sentNum := 0, send := .head, entry := .running }
  | .running => some { s with timedOut := true, entry := .grace }
  | .grace => some { s with entry := .returned 0 }
  | .returned _ => none

/-- One step of the party the scheduler picks. -/
def step (s : State) : Action → Option State
  | .entry => entryFunc s
  | .noQueue => if s.entry = .createQueue then some { s with entry := .returned 1 } else none
  | .print => printQMsg s
  | .printTimeout => printQMsgTimeout s
  | .send => sendQMsg s

/-- `comp_queue_entry_func` has cleared `timed_out`. -/
def start : State where
  timedOut := false
  msgQueue := .empty
  sentNum := 0
  print := .absent
  send := .absent
  entry := .createQueue
  sent := []
  received := []

/-! ## What a step can do -/

/-- The steps of `print_q_msg`. -/
inductive PrintStep (s : State) : State → Prop
  | timedOut : s.print = .head → s.timedOut = true → PrintStep s { s with print := .deleted }
  | loop : s.print = .head → s.timedOut = false → PrintStep s { s with print := .receive }
  | receive {data : ℤ} {q : Fifo ℤ msgQueueLen} : s.print = .receive →
      s.msgQueue.receive = some (data, q) →
      PrintStep s { s with msgQueue := q, received := s.received ++ [data], print := .head }

theorem printQMsg_cases {s s' : State} (h : printQMsg s = some s') : PrintStep s s' := by
  unfold printQMsg at h
  split at h
  · cases h
  · next hpc =>
    by_cases ht : s.timedOut = true
    · rw [if_pos ht] at h
      cases h
      exact .timedOut hpc ht
    · rw [if_neg ht] at h
      cases h
      exact .loop hpc (Bool.eq_false_iff.mpr ht)
  · next hpc =>
    rcases Option.map_eq_some_iff.mp h with ⟨⟨data, q⟩, hq, rfl⟩
    exact .receive hpc hq
  · cases h

/-- The steps of `send_q_msg`. -/
inductive SendStep (s : State) : State → Prop
  | timedOut : s.send = .head → s.timedOut = true → SendStep s { s with send := .deleted }
  | loop : s.send = .head → s.timedOut = false → SendStep s { s with send := .send }
  | send {q : Fifo ℤ msgQueueLen} : s.send = .send → s.msgQueue.send s.sentNum = some q →
      SendStep s { s with msgQueue := q, sent := s.sent ++ [s.sentNum], send := .increment }
  | increment : s.send = .increment →
      SendStep s { s with sentNum := s.sentNum + 1, send := .head }

theorem sendQMsg_cases {s s' : State} (h : sendQMsg s = some s') : SendStep s s' := by
  unfold sendQMsg at h
  split at h
  · cases h
  · next hpc =>
    by_cases ht : s.timedOut = true
    · rw [if_pos ht] at h
      cases h
      exact .timedOut hpc ht
    · rw [if_neg ht] at h
      cases h
      exact .loop hpc (Bool.eq_false_iff.mpr ht)
  · next hpc =>
    rcases Option.map_eq_some_iff.mp h with ⟨q, hq, rfl⟩
    exact .send hpc hq
  · next hpc =>
    cases h
    exact .increment hpc
  · cases h

end QueueExample
end EspLab
