import EspLab.Lib.Rtos
import Mathlib.Data.Int.Notation

/-!
# The batch processing example

`batch_processing_example.c`: `rcv_data_task` counts every item it receives under a mutex,
queues it and, from five counted items on, notifies `proc_data_task`, which takes up to
five items out of the queue for each notification and then lowers the counter by the
number it took.

Each task is a program counter and a step function; a step is one access to something the
tasks share. `s_rcv_item_num += 1` and `s_rcv_item_num -= rcv_item_num` are a read and a
write of their own between the take and the give of the mutex. The delays take no step of
their own: the scheduler may run the other parties for as long as it likes between any
two steps. `s_rcv_item_num` is an unbounded integer here; `Counter.lean` has the steps with the
32-bit `int` of the source.
-/

namespace EspLab
namespace BatchProcessing

open Transition Rtos

/-- `DATA_BATCH_SIZE` -/
abbrev dataBatchSize : ℕ := 5

/-- `msg_queue_len` -/
abbrev msgQueueLen : ℕ := 10

/-- The two tasks, as holders of the mutex. -/
inductive Task
  | rcv
  | proc
deriving DecidableEq

/-- Where `rcv_data_task` is; `data` is its local variable. -/
inductive RcvPc
  /-- not created yet -/
  | absent
  /-- `while (!timed_out)` -/
  | head
  /-- `xSemaphoreTake(s_mutex, portMAX_DELAY)` -/
  | take (data : ℤ)
  /-- the read of `s_rcv_item_num += 1` -/
  | load (data : ℤ)
  /-- its write -/
  | store (data tmp : ℤ)
  /-- `xSemaphoreGive(s_mutex)` -/
  | give (data : ℤ)
  /-- `xQueueGenericSend(msg_queue, &data, portMAX_DELAY, queueSEND_TO_BACK)` -/
  | enqueue (data : ℤ)
  /-- `if (s_rcv_item_num >= DATA_BATCH_SIZE)` -/
  | check
  /-- `xTaskNotifyGive(proc_data_task_hdl)` -/
  | notify
  /-- `vTaskDelete(NULL)` reached -/
  | deleted
deriving DecidableEq

/-- Where `proc_data_task` is, with its locals `data_idx` and `rcv_item_num`. -/
inductive ProcPc
  /-- not created yet -/
  | absent
  /-- `while (!timed_out)` -/
  | head
  /-- `while (ulTaskNotifyTake(pdFALSE, portMAX_DELAY))` -/
  | wait
  /-- the dequeue loop: its test and `xQueueReceive(msg_queue, .., 0)` -/
  | receive (dataIdx rcvItemNum : ℕ)
  /-- the loop that zeroes the buffer -/
  | clean (rcvItemNum : ℕ)
  /-- `xSemaphoreTake(s_mutex, portMAX_DELAY)` -/
  | take (rcvItemNum : ℕ)
  /-- the read of `s_rcv_item_num -= rcv_item_num` -/
  | load (rcvItemNum : ℕ)
  /-- its write -/
  | store (rcvItemNum : ℕ) (tmp : ℤ)
  /-- `xSemaphoreGive(s_mutex)` -/
  | give
  /-- `vTaskDelete(NULL)` reached -/
  | deleted
deriving DecidableEq

/-- Where `comp_batch_proc_example_entry_func` is, once the mutex and the queue exist. -/
inductive EntryPc
  /-- `xTaskCreatePinnedToCore(proc_data_task, ..)` -/
  | createProc
  /-- `xTaskCreatePinnedToCore(rcv_data_task, ..)` -/
  | createRcv
  /-- `vTaskDelay(pdMS_TO_TICKS(COMP_LOOP_PERIOD))`, then `timed_out = true` -/
  | running
  /-- the final `vTaskDelay` -/
  | grace
  /-- `return 0` -/
  | returned
deriving DecidableEq

/-- The static variables of the file, the kernel objects behind the handles, and where each
party is. `enqueued` and `dequeued` are the histories of the queue. -/
structure State where
  timedOut : Bool
  sMutex : Mutex Task
  sRcvItemNum : ℤ
  msgQueue : Fifo ℤ msgQueueLen
  notifications : ℕ
  rcv : RcvPc
  proc : ProcPc
  rcvDataBuffer : Vector ℤ dataBatchSize
  entry : EntryPc
  enqueued : List ℤ
  dequeued : List ℤ
deriving DecidableEq

/-- A choice of the scheduler: which party runs next. `rand` is what `rand()` returns, when
the step calls it. -/
inductive Action
  | entry
  | rcv (rand : ℕ)
  | proc
deriving DecidableEq

/-! ## The tasks -/

/-- One step of `rcv_data_task`. A notification given to a `proc_data_task` that has exited only
raises the value here; what the kernel does with a deleted task's handle is left out. -/
def rcvDataTask (s : State) (rand : ℕ) : Option State :=
  match s.rcv with
  | .absent => none
  | .head => some { s with rcv := if s.timedOut then .deleted else .take (rand % 100 : ℕ) }
  | .take data => (s.sMutex.take .rcv).map fun m => { s with sMutex := m, rcv := .load data }
  | .load data => some { s with rcv := .store data s.sRcvItemNum }
  | .store data tmp => some { s with sRcvItemNum := tmp + 1, rcv := .give data }
  | .give data => some { s with sMutex := s.sMutex.give .rcv, rcv := .enqueue data }
  | .enqueue data => (s.msgQueue.send data).map fun q =>
      { s with msgQueue := q, enqueued := s.enqueued ++ [data], rcv := .check }
  | .check => some { s with rcv := if s.sRcvItemNum ≥ dataBatchSize then .notify else .head }
  | .notify => some { s with notifications := notifyGive s.notifications, rcv := .head }
  | .deleted => none

/-- The buffer after the loop that mimics the processing of `rcv_item_num` items. -/
def cleanBuffer (buffer : Vector ℤ dataBatchSize) (rcvItemNum : ℕ) :
    Vector ℤ dataBatchSize :=
  Vector.ofFn fun i => if i.val < rcvItemNum then 0 else buffer[i]

/-- One step of `proc_data_task`. The inner `while` tests the value that
`ulTaskNotifyTake` returns. -/
def procDataTask (s : State) : Option State :=
  match s.proc with
  | .absent => none
  | .head => some { s with proc := if s.timedOut then .deleted else .wait }
  | .wait => (notifyTake false s.notifications).map fun (taken, n) =>
      { s with notifications := n, proc := if taken ≠ 0 then .receive 0 0 else .head }
  | .receive dataIdx rcvItemNum =>
      if h : dataIdx < dataBatchSize then
        match s.msgQueue.receive with
        | some (x, q) => some
            { s with
              msgQueue := q
              dequeued := s.dequeued ++ [x]
              rcvDataBuffer := s.rcvDataBuffer.set dataIdx x h
              proc := .receive (dataIdx + 1) (rcvItemNum + 1) }
        | none => some { s with proc := .clean rcvItemNum }
      else some { s with proc := .clean rcvItemNum }
  | .clean rcvItemNum => some
      { s with
        rcvDataBuffer := cleanBuffer s.rcvDataBuffer rcvItemNum
        proc := .take rcvItemNum }
  | .take rcvItemNum => (s.sMutex.take .proc).map fun m =>
      { s with sMutex := m, proc := .load rcvItemNum }
  | .load rcvItemNum => some { s with proc := .store rcvItemNum s.sRcvItemNum }
  | .store rcvItemNum tmp => some { s with sRcvItemNum := tmp - rcvItemNum, proc := .give }
  | .give => some { s with sMutex := s.sMutex.give .proc, proc := .wait }
  | .deleted => none

/-- One step of `comp_batch_proc_example_entry_func` after the creation of the mutex and
the queue. A task just created has no notification pending. -/
def entryFunc (s : State) : Option State :=
  match s.entry with
  | .createProc => some { s with proc := .head, notifications := 0, entry := .createRcv }
  | .createRcv => some { s with rcv := .head, entry := .running }
  | .running => some { s with timedOut := true, entry := .grace }
  | .grace => some { s with entry := .returned }
  | .returned => none

/-- One step of the party the scheduler picks. -/
def step (s : State) : Action → Option State
  | .entry => entryFunc s
  | .rcv rand => rcvDataTask s rand
  | .proc => procDataTask s

/-! ## A call of the entry function -/

/-- The state in which a call starts to create its tasks: a new mutex and a new queue, and
`s_rcv_item_num` as the calls before it left it. -/
def start (sRcvItemNum : ℤ) : State where
  timedOut := false
  sMutex := .free
  sRcvItemNum := sRcvItemNum
  msgQueue := .empty
  notifications := 0
  rcv := .absent
  proc := .absent
  rcvDataBuffer := Vector.replicate dataBatchSize 0
  entry := .createProc
  enqueued := []
  dequeued := []

/-- `comp_batch_proc_example_entry_func` up to the creation of its tasks: it returns 1 when
the mutex or the queue cannot be created. -/
def compBatchProcExampleEntryFunc (mutexCreated queueCreated : Bool) (sRcvItemNum : ℤ) :
    Except ℕ State :=
  if !mutexCreated then .error 1
  else if !queueCreated then .error 1
  else .ok (start sRcvItemNum)

/-! ## What a step can do

One constructor for each way out of each program point. -/

/-- The steps of `rcv_data_task`. -/
inductive RcvStep (s : State) : State → Prop
  | timedOut : s.rcv = .head → s.timedOut = true → RcvStep s { s with rcv := .deleted }
  | loop (data : ℤ) : s.rcv = .head → s.timedOut = false →
      RcvStep s { s with rcv := .take data }
  | take {data : ℤ} {m : Mutex Task} : s.rcv = .take data → s.sMutex.take .rcv = some m →
      RcvStep s { s with sMutex := m, rcv := .load data }
  | load {data : ℤ} : s.rcv = .load data → RcvStep s { s with rcv := .store data s.sRcvItemNum }
  | store {data tmp : ℤ} : s.rcv = .store data tmp →
      RcvStep s { s with sRcvItemNum := tmp + 1, rcv := .give data }
  | give {data : ℤ} : s.rcv = .give data →
      RcvStep s { s with sMutex := s.sMutex.give .rcv, rcv := .enqueue data }
  | enqueue {data : ℤ} {q : Fifo ℤ msgQueueLen} : s.rcv = .enqueue data →
      s.msgQueue.send data = some q →
      RcvStep s { s with msgQueue := q, enqueued := s.enqueued ++ [data], rcv := .check }
  | enough : s.rcv = .check → s.sRcvItemNum ≥ dataBatchSize →
      RcvStep s { s with rcv := .notify }
  | tooFew : s.rcv = .check → s.sRcvItemNum < dataBatchSize →
      RcvStep s { s with rcv := .head }
  | notify : s.rcv = .notify →
      RcvStep s { s with notifications := notifyGive s.notifications, rcv := .head }

theorem rcvDataTask_cases {s s' : State} {rand : ℕ} (h : rcvDataTask s rand = some s') :
    RcvStep s s' := by
  unfold rcvDataTask at h
  split at h
  · cases h
  · next hpc =>
    by_cases ht : s.timedOut = true
    · rw [if_pos ht] at h
      cases h
      exact .timedOut hpc ht
    · rw [if_neg ht] at h
      cases h
      exact .loop _ hpc (Bool.eq_false_iff.mpr ht)
  · next hpc =>
    rcases Option.map_eq_some_iff.mp h with ⟨m, hm, rfl⟩
    exact .take hpc hm
  · next hpc =>
    cases h
    exact .load hpc
  · next hpc =>
    cases h
    exact .store hpc
  · next hpc =>
    cases h
    exact .give hpc
  · next hpc =>
    rcases Option.map_eq_some_iff.mp h with ⟨q, hq, rfl⟩
    exact .enqueue hpc hq
  · next hpc =>
    split at h
    · next hn =>
      cases h
      exact .enough hpc hn
    · next hn =>
      cases h
      exact .tooFew hpc (Int.lt_of_not_ge hn)
  · next hpc =>
    cases h
    exact .notify hpc
  · cases h

/-- The steps of `proc_data_task`. The exit from the inner `while` is missing: a take
without a timeout never returns zero. -/
inductive ProcStep (s : State) : State → Prop
  | timedOut : s.proc = .head → s.timedOut = true → ProcStep s { s with proc := .deleted }
  | loop : s.proc = .head → s.timedOut = false → ProcStep s { s with proc := .wait }
  | wake : s.proc = .wait → s.notifications ≠ 0 →
      ProcStep s { s with notifications := s.notifications - 1, proc := .receive 0 0 }
  | receive {i n : ℕ} {x : ℤ} {q : Fifo ℤ msgQueueLen} (hi : i < dataBatchSize) :
      s.proc = .receive i n → s.msgQueue.receive = some (x, q) →
      ProcStep s
        { s with
          msgQueue := q
          dequeued := s.dequeued ++ [x]
          rcvDataBuffer := s.rcvDataBuffer.set i x hi
          proc := .receive (i + 1) (n + 1) }
  | short {i n : ℕ} : s.proc = .receive i n → i < dataBatchSize →
      s.msgQueue.receive = none → ProcStep s { s with proc := .clean n }
  | full {i n : ℕ} : s.proc = .receive i n → dataBatchSize ≤ i →
      ProcStep s { s with proc := .clean n }
  | clean {n : ℕ} : s.proc = .clean n →
      ProcStep s
        { s with rcvDataBuffer := cleanBuffer s.rcvDataBuffer n, proc := .take n }
  | take {n : ℕ} {m : Mutex Task} : s.proc = .take n → s.sMutex.take .proc = some m →
      ProcStep s { s with sMutex := m, proc := .load n }
  | load {n : ℕ} : s.proc = .load n → ProcStep s { s with proc := .store n s.sRcvItemNum }
  | store {n : ℕ} {tmp : ℤ} : s.proc = .store n tmp →
      ProcStep s { s with sRcvItemNum := tmp - n, proc := .give }
  | give : s.proc = .give →
      ProcStep s { s with sMutex := s.sMutex.give .proc, proc := .wait }

theorem procDataTask_cases {s s' : State} (h : procDataTask s = some s') : ProcStep s s' := by
  unfold procDataTask at h
  split at h
  · cases h
  · next hpc =>
    by_cases ht : s.timedOut = true
    · rw [if_pos ht] at h
      cases h
      exact .timedOut hpc ht
    · rw [if_neg ht] at h
      cases h
      exact .loop hpc (Bool.eq_false_iff.mpr ht)
  · next hpc =>
    rcases Option.map_eq_some_iff.mp h with ⟨⟨v, n⟩, hv, rfl⟩
    rcases notifyTake_eq_some.mp hv with ⟨hn, rfl, rfl⟩
    simp only [hn, ne_eq, not_false_eq_true, if_true, Bool.false_eq_true, if_false]
    exact .wake hpc hn
  · next hpc =>
    split at h
    · next hi =>
      split at h
      · next hq =>
        cases h
        exact .receive hi hpc hq
      · next hq =>
        cases h
        exact .short hpc hi hq
    · next hi =>
      cases h
      exact .full hpc (Nat.le_of_not_lt hi)
  · next hpc =>
    cases h
    exact .clean hpc
  · next hpc =>
    rcases Option.map_eq_some_iff.mp h with ⟨m, hm, rfl⟩
    exact .take hpc hm
  · next hpc =>
    cases h
    exact .load hpc
  · next hpc =>
    cases h
    exact .store hpc
  · next hpc =>
    cases h
    exact .give hpc
  · cases h

/-- The steps of the entry function. -/
inductive EntryStep (s : State) : State → Prop
  | createProc : s.entry = .createProc →
      EntryStep s { s with proc := .head, notifications := 0, entry := .createRcv }
  | createRcv : s.entry = .createRcv →
      EntryStep s { s with rcv := .head, entry := .running }
  | timeOut : s.entry = .running →
      EntryStep s { s with timedOut := true, entry := .grace }
  | done : s.entry = .grace → EntryStep s { s with entry := .returned }

theorem entryFunc_cases {s s' : State} (h : entryFunc s = some s') : EntryStep s s' := by
  unfold entryFunc at h
  split at h
  · next hpc =>
    cases h
    exact .createProc hpc
  · next hpc =>
    cases h
    exact .createRcv hpc
  · next hpc =>
    cases h
    exact .timeOut hpc
  · next hpc =>
    cases h
    exact .done hpc
  · cases h

/-! ## When a party cannot step -/

theorem rcvDataTask_eq_none {s : State} {rand : ℕ} :
    rcvDataTask s rand = none ↔
      s.rcv = .absent ∨ s.rcv = .deleted ∨
        (∃ data, s.rcv = .take data ∧ s.sMutex.holder ≠ none) ∨
        ∃ data, s.rcv = .enqueue data ∧ s.msgQueue.items.length = msgQueueLen := by
  unfold rcvDataTask
  cases hpc : s.rcv <;> simp [Mutex.take_eq_none, Fifo.send_eq_none]

theorem procDataTask_eq_none {s : State} :
    procDataTask s = none ↔
      s.proc = .absent ∨ s.proc = .deleted ∨ (s.proc = .wait ∧ s.notifications = 0) ∨
        ∃ n, s.proc = .take n ∧ s.sMutex.holder ≠ none := by
  unfold procDataTask
  cases hpc : s.proc with
  | receive i n =>
    simp only [reduceCtorEq, false_and, false_or, exists_false, iff_false]
    split
    · split <;> simp
    · simp
  | absent | head | wait | clean n | take n | load n | store n tmp | give | deleted =>
    simp [Mutex.take_eq_none, notifyTake_eq_none]

end BatchProcessing
end EspLab
