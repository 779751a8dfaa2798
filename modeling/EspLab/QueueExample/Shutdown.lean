import EspLab.QueueExample.Model

/-!
# Shutdown of the queue example

Both tasks test `timed_out` only at the head of their loops. The receive has a timeout, so
`print_q_msg` always gets back there. The send has none: `send_q_msg` is left behind in it when
the queue is full and its receiver has gone.
-/

namespace EspLab
namespace QueueExample

open Transition Rtos

/-! ## Which parties exist -/

/-- Which parties exist at each point of the entry function. -/
structure Lifecycle (s : State) : Prop where
  absent_iff : s.send = .absent ↔ s.entry = .createQueue ∨ s.entry = .createPrint ∨
    s.entry = .createSend ∨ s.entry = .returned 1
  print : s.send ≠ .absent → s.print ≠ .absent
  timedOut_iff : s.timedOut = true ↔ s.entry = .grace ∨ s.entry = .returned 0
  createSend : s.entry = .createSend → s.print ≠ .absent
  returned : ∀ code, s.entry = .returned code → code = 0 ∨ code = 1

/-- The steps of the entry function. -/
inductive EntryStep (s : State) : State → Prop
  | createQueue : s.entry = .createQueue →
      EntryStep s { s with msgQueue := .empty, entry := .createPrint }
  | createPrint : s.entry = .createPrint →
      EntryStep s { s with print := .head, entry := .createSend }
  | createSend : s.entry = .createSend →
      EntryStep s { s with sentNum := 0, send := .head, entry := .running }
  | timeOut : s.entry = .running → EntryStep s { s with timedOut := true, entry := .grace }
  | done : s.entry = .grace → EntryStep s { s with entry := .returned 0 }

theorem entryFunc_cases {s s' : State} (h : entryFunc s = some s') : EntryStep s s' := by
  unfold entryFunc at h
  split at h <;> rename_i hpc
  · cases h
    exact .createQueue hpc
  · cases h
    exact .createPrint hpc
  · cases h
    exact .createSend hpc
  · cases h
    exact .timeOut hpc
  · cases h
    exact .done hpc
  · cases h

theorem printQMsgTimeout_cases {s s' : State} (h : printQMsgTimeout s = some s') :
    s.print = .receive ∧ s' = { s with print := .head } := by
  unfold printQMsgTimeout at h
  split at h
  · next hpc =>
    cases h
    exact ⟨hpc, rfl⟩
  · cases h

theorem noQueue_cases {s s' : State} (h : step s .noQueue = some s') :
    s.entry = .createQueue ∧ s' = { s with entry := .returned 1 } := by
  rw [step] at h
  split at h
  · next hpc =>
    cases h
    exact ⟨hpc, rfl⟩
  · cases h

lemma lifecycle_start : Lifecycle start := by
  constructor <;> simp [start]

lemma lifecycle_step {s s' : State} {a : Action} (h : Lifecycle s) (hs : step s a = some s') :
    Lifecycle s' := by
  rcases h with ⟨habs, hprint, ht, hc, hr⟩
  cases a with
  | entry => cases entryFunc_cases hs <;> constructor <;> simp_all
  | noQueue =>
    rcases noQueue_cases hs with ⟨hpc, rfl⟩
    constructor <;> simp_all
  | print => cases printQMsg_cases hs <;> constructor <;> simp_all
  | printTimeout =>
    rcases printQMsgTimeout_cases hs with ⟨hpc, rfl⟩
    constructor <;> simp_all
  | send => cases sendQMsg_cases hs <;> constructor <;> simp_all

lemma lifecycle_of_reach {s : State} (h : Reach step start s) : Lifecycle s :=
  h.invariant (fun _ _ _ => lifecycle_step) lifecycle_start

/-! ## What is left to do -/

/-- The flag is set and both tasks exist. -/
def TimedOut (s : State) : Prop :=
  s.timedOut = true ∧ s.print ≠ .absent ∧ s.send ≠ .absent ∧
    (s.entry = .grace ∨ s.entry = .returned 0)

lemma Lifecycle.timedOut {s : State} (h : Lifecycle s) (ht : s.timedOut = true) : TimedOut s := by
  have hentry := h.timedOut_iff.mp ht
  have hsend : s.send ≠ .absent := by
    intro habs
    rcases h.absent_iff.mp habs with he | he | he | he <;> rcases hentry with he' | he' <;>
      rw [he] at he' <;> cases he'
  exact ⟨ht, h.print hsend, hsend, hentry⟩

/-- The steps `print_q_msg` can still make, with the flag set. -/
def PrintPc.left : PrintPc → ℕ
  | .receive => 2
  | .head => 1
  | _ => 0

/-- The steps `send_q_msg` can still make. -/
def SendPc.left : SendPc → ℕ
  | .send => 3
  | .increment => 2
  | .head => 1
  | _ => 0

/-- The steps the entry function can still make. -/
def EntryPc.left : EntryPc → ℕ
  | .grace => 1
  | _ => 0

/-- The steps that can still be made. -/
def State.left (s : State) : ℕ := s.print.left + s.send.left + s.entry.left

lemma left_le {s : State} : s.left ≤ 6 := by
  have hp : s.print.left ≤ 2 := by cases s.print <;> decide
  have hs : s.send.left ≤ 3 := by cases s.send <;> decide
  have he : s.entry.left ≤ 1 := by cases s.entry <;> simp [EntryPc.left]
  unfold State.left
  omega

/-- **Step lemma.** Once the flag is set each step is one less to make; the sender begins no
further send and the receiver no further receive. -/
lemma timedOut_step {s s' : State} {a : Action} (h : TimedOut s) (hs : step s a = some s') :
    TimedOut s' ∧ s'.left < s.left := by
  rcases h with ⟨ht, hp, hsend, he⟩
  unfold TimedOut State.left
  cases a with
  | entry => cases entryFunc_cases hs <;> simp_all [EntryPc.left]
  | noQueue =>
    rcases noQueue_cases hs with ⟨hpc, rfl⟩
    simp_all
  | print => cases printQMsg_cases hs <;> simp_all [PrintPc.left]
  | printTimeout =>
    rcases printQMsgTimeout_cases hs with ⟨hpc, rfl⟩
    simp_all [PrintPc.left]
  | send => cases sendQMsg_cases hs <;> simp_all [SendPc.left]

lemma printQMsg_eq_none {s : State} : printQMsg s = none ↔ s.print = .absent ∨ s.print = .deleted ∨
    s.print = .receive ∧ s.msgQueue.items = [] := by
  unfold printQMsg
  split <;> rename_i hpc <;> simp [hpc, Fifo.receive_eq_none]

lemma sendQMsg_eq_none {s : State} : sendQMsg s = none ↔ s.send = .absent ∨ s.send = .deleted ∨
    s.send = .send ∧ s.msgQueue.items.length = msgQueueLen := by
  unfold sendQMsg
  split <;> rename_i hpc <;> simp [hpc, Fifo.send_eq_none]

/-- The system at rest: the receiver has exited, and so has the sender unless it waits for room
in the queue. -/
lemma stuck_iff {s : State} (h : TimedOut s) : Stuck step s ↔
    s.entry = .returned 0 ∧ s.print = .deleted ∧
      (s.send = .deleted ∨ s.send = .send ∧ s.msgQueue.items.length = msgQueueLen) := by
  obtain ⟨-, hp, hs, he⟩ := h
  apply Iff.intro
  · intro hstuck
    -- the entry function can always make its last step
    have hentry : s.entry = .returned 0 := by
      rcases he with he | he
      · have hnone : entryFunc s = none := hstuck .entry
        rw [entryFunc, he] at hnone
        cases hnone
      · exact he
    refine ⟨hentry, ?_, (sendQMsg_eq_none.mp (hstuck .send)).resolve_left hs⟩
    rcases printQMsg_eq_none.mp (hstuck .print) with hpc | hpc | ⟨hpc, -⟩
    · exact absurd hpc hp
    · exact hpc
    · -- a receive can always time out
      have hnone : printQMsgTimeout s = none := hstuck .printTimeout
      rw [printQMsgTimeout, hpc] at hnone
      cases hnone
  · rintro ⟨hentry, hprint, hsend⟩ (_ | _)
    · show entryFunc s = none
      rw [entryFunc, hentry]
    · show (if s.entry = .createQueue then _ else none) = none
      rw [hentry]
      rfl
    · exact printQMsg_eq_none.mpr (.inr (.inl hprint))
    · show printQMsgTimeout s = none
      rw [printQMsgTimeout, hprint]
    · exact sendQMsg_eq_none.mpr (.inr hsend)

/-! ## What is still sent and received -/

/-- A send that has been begun. -/
def SendPc.begun : SendPc → ℕ
  | .send => 1
  | _ => 0

/-- A receive that has been begun. -/
def PrintPc.begun : PrintPc → ℕ
  | .receive => 1
  | _ => 0

/-- Since state `s` no more has been sent and received than had been begun there, and a sender
that had room still has it. -/
structure Since (s u : State) : Prop where
  timedOut : TimedOut u
  sent : u.sent.length + u.send.begun ≤ s.sent.length + s.send.begun
  received : u.received.length + u.print.begun ≤ s.received.length + s.print.begun
  room : (s.send = .send → s.msgQueue.items.length < msgQueueLen) →
    u.send = .send → u.msgQueue.items.length < msgQueueLen

lemma since_step {s u v : State} {a : Action} (h : Since s u) (hs : step u a = some v) :
    Since s v := by
  have hv := (timedOut_step h.timedOut hs).1
  obtain ⟨hflag, -, -, hentry⟩ := h.timedOut
  obtain ⟨-, hsent, hreceived, hroom⟩ := h
  cases a with
  | entry =>
    cases entryFunc_cases hs with
    | createQueue hpc | createPrint hpc | createSend hpc | timeOut hpc => simp_all
    | done hpc => exact ⟨hv, hsent, hreceived, hroom⟩
  | noQueue =>
    rcases noQueue_cases hs with ⟨hpc, rfl⟩
    exact ⟨hv, hsent, hreceived, hroom⟩
  | printTimeout =>
    rcases printQMsgTimeout_cases hs with ⟨hpc, rfl⟩
    rw [hpc] at hreceived
    exact ⟨hv, hsent, Nat.le_of_succ_le hreceived, hroom⟩
  | print =>
    cases printQMsg_cases hs with
    | timedOut hpc =>
      rw [hpc] at hreceived
      exact ⟨hv, hsent, hreceived, hroom⟩
    | loop hpc hf =>
      rw [hflag] at hf
      cases hf
    | @receive data q hpc hq =>
      rw [hpc] at hreceived
      have hitems := congrArg List.length (Fifo.receive_eq_some.mp hq)
      rw [List.length_cons] at hitems
      refine ⟨hv, hsent, ?_, fun hs hpc' => ?_⟩
      · show (u.received ++ [data]).length + 0 ≤ _
        rw [List.length_append]
        exact hreceived
      · show q.items.length < msgQueueLen
        have hlt := hroom hs hpc'
        omega
  | send =>
    cases sendQMsg_cases hs with
    | timedOut hpc =>
      rw [hpc] at hsent
      exact ⟨hv, hsent, hreceived, fun _ hpc' => by cases hpc'⟩
    | loop hpc hf =>
      rw [hflag] at hf
      cases hf
    | send hpc hq =>
      rw [hpc] at hsent
      refine ⟨hv, ?_, hreceived, fun _ hpc' => by cases hpc'⟩
      show (u.sent ++ [u.sentNum]).length + 0 ≤ _
      rw [List.length_append]
      exact hsent
    | increment hpc =>
      rw [hpc] at hsent
      exact ⟨hv, hsent, hreceived, fun _ hpc' => by cases hpc'⟩

/-- **Shutdown.** Once `timed_out` is set, at most six more steps are made, in any order, and at
most one value is sent and one received in them. Then the receiver has exited, and so has the
sender unless the queue is full: which cannot be if the sender was not waiting for room when the
flag was set. -/
theorem queue_shutdown {s t : State} {as : List Action} (h : Reach step start s)
    (hs : s.timedOut = true) (hrun : exec step s as = some t) :
    as.length ≤ 6 ∧ t.sent.length ≤ s.sent.length + 1 ∧
    t.received.length ≤ s.received.length + 1 ∧
    (∃ f, Reach step t f ∧ Stuck step f) ∧
    (Stuck step t ↔ t.entry = .returned 0 ∧ t.print = .deleted ∧
      (t.send = .deleted ∨ t.send = .send ∧ t.msgQueue.items.length = 40)) ∧
    ((s.send = .send → s.msgQueue.items.length < 40) → Stuck step t → t.send = .deleted) := by
  have htimed := (lifecycle_of_reach h).timedOut hs
  have hsince : Since s t := Reach.invariant (fun _ _ _ => since_step)
    ⟨htimed, Nat.le_refl _, Nat.le_refl _, fun hroom => hroom⟩ (.of_exec hrun)
  have hlength := length_add_le_of_measure (fun _ _ _ => timedOut_step) htimed hrun
  have hleft := left_le (s := s)
  have hbegun : s.send.begun ≤ 1 := by cases s.send <;> decide
  have hbegun' : s.print.begun ≤ 1 := by cases s.print <;> decide
  have hsent := hsince.sent
  have hreceived := hsince.received
  have hstuck := stuck_iff hsince.timedOut
  refine ⟨by omega, by omega, by omega,
    exists_stuck_of_measure (fun _ _ _ => timedOut_step) hsince.timedOut, hstuck, ?_⟩
  intro hroom hrest
  rcases (hstuck.mp hrest).2.2 with hpc | ⟨hpc, hfull⟩
  · exact hpc
  · have hlt := hsince.room hroom hpc
    omega

end QueueExample
end EspLab
