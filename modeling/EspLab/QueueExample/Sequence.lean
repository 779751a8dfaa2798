import EspLab.QueueExample.Model

/-!
# The queue example delivers the exact sequence

The queue accounts for every value sent, and the values sent are `0, 1, 2, …` because the
sender counts exactly the sends it has completed. So the receiver gets `0, 1, …, k - 1` and the
queue holds the values from `k` on, whatever the order of the steps and the timeouts.
-/

namespace EspLab
namespace QueueExample

open Transition Rtos

/-- The numbers from `a` on, `n` of them. -/
def numbers (a n : ℕ) : List ℤ := (List.range' a n).map Int.ofNat

lemma numbers_succ (n : ℕ) : numbers 0 (n + 1) = numbers 0 n ++ [(n : ℤ)] := by
  rw [numbers, List.range'_concat, List.map_append, numbers]
  simp

lemma take_numbers {k n : ℕ} (h : k ≤ n) : (numbers 0 n).take k = numbers 0 k := by
  rw [numbers, ← List.map_take, List.take_range'_of_length_ge h, numbers]

lemma drop_numbers (k n : ℕ) : (numbers 0 n).drop k = numbers k (n - k) := by
  rw [numbers, ← List.map_drop, List.drop_range', Nat.zero_add, Nat.mul_one, numbers]

/-! ## The invariant -/

/-- How many sends the sender has completed and not yet counted. -/
def SendPc.uncounted : SendPc → ℤ
  | .increment => 1
  | _ => 0

/-- The queue accounts for what was sent, which is the numbers the sender has counted; nothing
is sent before the sender exists. -/
structure Inv (s : State) : Prop where
  accounts : s.msgQueue.Accounts s.sent s.received
  sent : s.sent = numbers 0 s.sent.length
  counted : (s.sent.length : ℤ) = s.sentNum + s.send.uncounted
  unsent : s.entry = .createQueue ∨ s.entry = .createPrint ∨ s.entry = .createSend →
    s.sent = [] ∧ s.send = .absent

lemma inv_start : Inv start := by
  refine ⟨Fifo.accounts_empty, rfl, rfl, ?_⟩
  simp [start]

lemma inv_print {s s' : State} (h : Inv s) (hs : printQMsg s = some s') : Inv s' := by
  rcases h with ⟨hacc, hsent, hcount, hun⟩
  rcases printQMsg_cases hs with ⟨_, _⟩ | ⟨_, _⟩ | ⟨_, hq⟩
  · exact ⟨hacc, hsent, hcount, hun⟩
  · exact ⟨hacc, hsent, hcount, hun⟩
  · exact ⟨hacc.receive hq, hsent, hcount, hun⟩

lemma inv_printTimeout {s s' : State} (h : Inv s) (hs : printQMsgTimeout s = some s') :
    Inv s' := by
  unfold printQMsgTimeout at hs
  split at hs
  · cases hs
    exact ⟨h.accounts, h.sent, h.counted, h.unsent⟩
  · cases hs

/-- A value sent is the one that is due. -/
lemma inv_send {s s' : State} (h : Inv s) (hs : sendQMsg s = some s') : Inv s' := by
  rcases h with ⟨hacc, hsent, hcount, hun⟩
  have hlive : s.send ≠ .absent →
      ¬ (s.entry = .createQueue ∨ s.entry = .createPrint ∨ s.entry = .createSend) :=
    fun hne he => hne (hun he).2
  rcases sendQMsg_cases hs with ⟨hpc, _⟩ | ⟨hpc, _⟩ | ⟨hpc, hq⟩ | hpc
  · rw [hpc] at hcount hlive
    exact ⟨hacc, hsent, hcount, fun he => absurd he (hlive (by simp))⟩
  · rw [hpc] at hcount hlive
    exact ⟨hacc, hsent, hcount, fun he => absurd he (hlive (by simp))⟩
  · rw [hpc] at hcount hlive
    have hnum : s.sentNum = s.sent.length := by
      simp only [SendPc.uncounted] at hcount
      omega
    refine ⟨hacc.send hq, ?_, ?_, fun he => absurd he (hlive (by simp))⟩
    · show s.sent ++ [s.sentNum] = numbers 0 (s.sent ++ [s.sentNum]).length
      rw [List.length_append, List.length_singleton, numbers_succ, ← hsent, hnum]
    · show ((s.sent ++ [s.sentNum]).length : ℤ) = s.sentNum + 1
      rw [List.length_append, List.length_singleton, hnum]
      rfl
  · rw [hpc] at hcount hlive
    refine ⟨hacc, hsent, ?_, fun he => absurd he (hlive (by simp))⟩
    show (s.sent.length : ℤ) = s.sentNum + 1 + 0
    simp only [SendPc.uncounted] at hcount
    omega

lemma inv_entry {s s' : State} (h : Inv s) (hs : entryFunc s = some s') : Inv s' := by
  rcases h with ⟨hacc, hsent, hcount, hun⟩
  unfold entryFunc at hs
  split at hs
  · next he =>
    cases hs
    obtain ⟨hnil, habs⟩ := hun (.inl he)
    -- nothing was received, since nothing was sent
    have hrec : s.received = [] := by
      rw [hacc.split.1, hnil, List.take_nil]
    refine ⟨?_, hsent, hcount, fun _ => ⟨hnil, habs⟩⟩
    show Fifo.Accounts .empty s.sent s.received
    rw [hnil, hrec]
    exact Fifo.accounts_empty
  · next he =>
    cases hs
    exact ⟨hacc, hsent, hcount, fun _ => hun (.inr (.inl he))⟩
  · next he =>
    cases hs
    obtain ⟨hnil, habs⟩ := hun (.inr (.inr he))
    refine ⟨hacc, hsent, ?_, by simp⟩
    show (s.sent.length : ℤ) = 0 + 0
    rw [hnil]
    rfl
  · cases hs
    exact ⟨hacc, hsent, hcount, by simp⟩
  · cases hs
    exact ⟨hacc, hsent, hcount, by simp⟩
  · cases hs

/-- **Step lemma.** -/
lemma inv_step {s s' : State} {a : Action} (h : Inv s) (hs : step s a = some s') : Inv s' := by
  cases a with
  | entry => exact inv_entry h hs
  | noQueue =>
    simp only [step] at hs
    split at hs
    · cases hs
      exact ⟨h.accounts, h.sent, h.counted, by simp⟩
    · cases hs
  | print => exact inv_print h hs
  | printTimeout => exact inv_printTimeout h hs
  | send => exact inv_send h hs

/-! ## The result -/

/-- **The exact sequence.** In every reachable state the values received are `0, 1, …, k - 1`
for some `k`, the queue holds the values sent from `k` on, and at most the queue's length of
them. -/
theorem queue_exact_sequence (s : State) (h : Reach step start s) :
    ∃ k ≤ s.sent.length,
      s.received = numbers 0 k ∧
      s.msgQueue.items = numbers k (s.sent.length - k) ∧
      s.sent = numbers 0 s.sent.length ∧
      s.received.length ≤ s.sent.length ∧ s.sent.length ≤ s.received.length + 40 := by
  have hinv : Inv s := h.invariant (fun _ _ _ => inv_step) inv_start
  have hlen := hinv.accounts.length
  have hbound : s.msgQueue.items.length ≤ 40 := s.msgQueue.bound
  obtain ⟨hrec, hitems⟩ := hinv.accounts.split
  have hle : s.received.length ≤ s.sent.length := by omega
  refine ⟨s.received.length, hle, ?_, ?_, hinv.sent, hle, by omega⟩
  · rw [hinv.sent, take_numbers hle] at hrec
    exact hrec
  · rw [hinv.sent, drop_numbers] at hitems
    exact hitems

/-- A receive times out, a value is sent and received, and another is sent. -/
def timeoutRun : List Action :=
  [.entry, .entry, .entry, .print, .printTimeout, .print, .send, .send, .print, .send, .send,
    .send]

theorem queue_exact_sequence_timeout : ∃ s, exec step start timeoutRun = some s ∧
    ∃ k ≤ s.sent.length,
      s.received = numbers 0 k ∧
      s.msgQueue.items = numbers k (s.sent.length - k) ∧
      s.sent = numbers 0 s.sent.length ∧
      s.received.length ≤ s.sent.length ∧ s.sent.length ≤ s.received.length + 40 :=
  ⟨_, rfl, queue_exact_sequence _ ⟨timeoutRun, rfl⟩⟩

end QueueExample
end EspLab
