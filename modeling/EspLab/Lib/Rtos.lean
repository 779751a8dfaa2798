import EspLab.Lib.Transition
import Mathlib.Logic.Function.Basic

/-!
# Kernel objects of a preemptive real-time operating system

The objects two tasks share, as pure values, with the laws a proof about a system of tasks
needs:

* `Fifo`, a bounded queue whose bound is part of the value; `Fifo.Accounts` relates it to
  what was sent and received so far;
* `notifyGive` / `notifyTake`, a task's notification value used as a counting semaphore;
* `Mutex`, and `Guarded`, the invariant of a variable that several tasks update by a
  separate read and write while they hold the mutex.

An operation that would block returns `none`.
-/

namespace EspLab
namespace Rtos

/-! ## Bounded queues -/

/-- A first-in-first-out queue of at most `cap` items. -/
@[ext] structure Fifo (α : Type*) (cap : ℕ) where
  items : List α
  bound : items.length ≤ cap
deriving DecidableEq

namespace Fifo

variable {α : Type*} {cap : ℕ}

/-- The queue just created. -/
def empty : Fifo α cap := ⟨[], Nat.zero_le cap⟩

/-- Send to the back; `none` while the queue is full. -/
def send (q : Fifo α cap) (x : α) : Option (Fifo α cap) :=
  if h : q.items.length < cap then
    some ⟨q.items ++ [x], by rw [List.length_append, List.length_singleton]; exact h⟩
  else none

/-- Receive from the front; `none` when the queue is empty. -/
def receive (q : Fifo α cap) : Option (α × Fifo α cap) :=
  match q with
  | ⟨[], _⟩ => none
  | ⟨x :: xs, h⟩ => some (x, ⟨xs, Nat.le_of_succ_le h⟩)

@[simp] theorem items_empty : (empty : Fifo α cap).items = [] := rfl

theorem send_eq_some {q q' : Fifo α cap} {x : α} :
    q.send x = some q' ↔ q.items.length < cap ∧ q'.items = q.items ++ [x] := by
  unfold send
  split
  · next h => simp [h, Fifo.ext_iff, eq_comm]
  · next h => simp [h]

theorem send_eq_none {q : Fifo α cap} {x : α} :
    q.send x = none ↔ q.items.length = cap := by
  have hb := q.bound
  unfold send
  split
  · next h => simp only [reduceCtorEq, false_iff]; omega
  · next h => simp only [true_iff]; omega

theorem receive_eq_some {q q' : Fifo α cap} {x : α} :
    q.receive = some (x, q') ↔ q.items = x :: q'.items := by
  obtain ⟨_ | ⟨y, ys⟩, hb⟩ := q
  · simp [receive]
  · simp [receive, Fifo.ext_iff]

theorem receive_eq_none {q : Fifo α cap} : q.receive = none ↔ q.items = [] := by
  obtain ⟨_ | ⟨y, ys⟩, hb⟩ := q
  · simp [receive]
  · simp [receive]

/-- What was received, followed by what is still queued, is what was sent: nothing is
lost, repeated or reordered. -/
def Accounts (q : Fifo α cap) (sent received : List α) : Prop :=
  received ++ q.items = sent

theorem accounts_empty : (empty : Fifo α cap).Accounts [] [] := rfl

theorem Accounts.send {q q' : Fifo α cap} {sent received : List α} {x : α}
    (h : q.Accounts sent received) (hs : q.send x = some q') :
    q'.Accounts (sent ++ [x]) received := by
  obtain ⟨_, hq'⟩ := send_eq_some.mp hs
  rw [Accounts, hq', ← List.append_assoc, show received ++ q.items = sent from h]

theorem Accounts.receive {q q' : Fifo α cap} {sent received : List α} {x : α}
    (h : q.Accounts sent received) (hr : q.receive = some (x, q')) :
    q'.Accounts sent (received ++ [x]) := by
  have hq := receive_eq_some.mp hr
  rw [Accounts, List.append_assoc, List.singleton_append, ← hq]
  exact h

theorem Accounts.length {q : Fifo α cap} {sent received : List α}
    (h : q.Accounts sent received) : received.length + q.items.length = sent.length := by
  rw [← List.length_append, show received ++ q.items = sent from h]

/-- The received values are the first ones sent, the queued ones the rest. -/
theorem Accounts.split {q : Fifo α cap} {sent received : List α} (h : q.Accounts sent received) :
    received = sent.take received.length ∧ q.items = sent.drop received.length := by
  rw [← show received ++ q.items = sent from h]
  exact ⟨List.take_left.symm, List.drop_left.symm⟩

end Fifo

/-! ## Notification values -/

/-- Give a notification: the value is incremented. -/
def notifyGive (n : ℕ) : ℕ := n + 1

/-- Take a notification without a timeout: blocked at zero, else the value before the call
is returned, and the value is cleared or decremented. -/
def notifyTake (clearOnExit : Bool) (n : ℕ) : Option (ℕ × ℕ) :=
  if n = 0 then none else some (n, if clearOnExit then 0 else n - 1)

theorem notifyTake_eq_some {c : Bool} {n v n' : ℕ} :
    notifyTake c n = some (v, n') ↔ n ≠ 0 ∧ v = n ∧ n' = if c then 0 else n - 1 := by
  unfold notifyTake
  split
  · next h => simp [h]
  · next h => simp [h, eq_comm]

theorem notifyTake_eq_none {c : Bool} {n : ℕ} : notifyTake c n = none ↔ n = 0 := by
  unfold notifyTake
  split
  · next h => simp [h]
  · next h => simp [h]

/-! ## Mutexes and the variables they guard -/

/-- A mutex, with the task that holds it. -/
structure Mutex (τ : Type*) where
  holder : Option τ
deriving DecidableEq

namespace Mutex

variable {τ : Type*}

/-- The mutex just created. -/
def free : Mutex τ := ⟨none⟩

/-- Take the mutex; `none` while another task holds it. -/
def take (m : Mutex τ) (t : τ) : Option (Mutex τ) :=
  match m.holder with
  | none => some ⟨some t⟩
  | some _ => none

/-- Give the mutex back; only its holder can. -/
def give [DecidableEq τ] (m : Mutex τ) (t : τ) : Mutex τ :=
  if m.holder = some t then ⟨none⟩ else m

@[simp] theorem holder_free : (free : Mutex τ).holder = none := rfl

theorem take_eq_some {m m' : Mutex τ} {t : τ} :
    m.take t = some m' ↔ m.holder = none ∧ m' = ⟨some t⟩ := by
  obtain ⟨_ | u⟩ := m
  · simp [take, eq_comm]
  · simp [take]

theorem take_eq_none {m : Mutex τ} {t : τ} : m.take t = none ↔ m.holder ≠ none := by
  obtain ⟨_ | u⟩ := m
  · simp [take]
  · simp [take]

end Mutex

/-- Where a task stands with respect to its critical section: outside it, inside it, or
inside it with the value it read and has not yet written back. -/
inductive Phase (V : Type*)
  | outside
  | inside
  | loaded (v : V)
deriving DecidableEq

/-- The mutex `m` guards the variable `v`: the tasks in their critical sections are exactly
its holder, and a value read inside the section is still the current one. -/
structure Guarded {τ V : Type*} (m : Mutex τ) (v : V) (phase : τ → Phase V) : Prop where
  holder_iff : ∀ t, m.holder = some t ↔ phase t ≠ .outside
  fresh : ∀ t w, phase t = .loaded w → w = v

namespace Guarded

variable {τ V : Type*} {m m' : Mutex τ} {v : V} {phase phase' : τ → Phase V} {t : τ}

/-- Mutual exclusion. -/
theorem exclusive (h : Guarded m v phase) {u : τ} (ht : phase t ≠ .outside)
    (hu : phase u ≠ .outside) : t = u :=
  Option.some.inj (((h.holder_iff t).mpr ht).symm.trans ((h.holder_iff u).mpr hu))

/-- A free mutex: nobody is in its critical section. -/
theorem outside_of_free (h : Guarded m v phase) (hm : m.holder = none) (t : τ) :
    phase t = .outside := by
  by_contra ht
  rw [(h.holder_iff t).mpr ht] at hm
  cases hm

theorem of_free (h : ∀ t, phase t = .outside) : Guarded .free v phase where
  holder_iff t := by simp [h t]
  fresh t w hw := by rw [h t] at hw; cases hw

/-- A step that leaves every task in its phase. -/
theorem congr (h : Guarded m v phase) (heq : ∀ u, phase' u = phase u) :
    Guarded m v phase' where
  holder_iff u := by rw [heq u]; exact h.holder_iff u
  fresh u w hw := h.fresh u w ((heq u).symm.trans hw)

theorem take (h : Guarded m v phase) (hm : m.take t = some m')
    (ht : phase' t = .inside) (hu : ∀ u, u ≠ t → phase' u = phase u) :
    Guarded m' v phase' := by
  obtain ⟨hfree, rfl⟩ := Mutex.take_eq_some.mp hm
  have hout := h.outside_of_free hfree
  constructor
  · intro u
    by_cases hut : u = t
    · simp [hut, ht]
    · simp [hu u hut, hout u, Ne.symm hut]
  · intro u w hw
    by_cases hut : u = t
    · rw [hut, ht] at hw; cases hw
    · rw [hu u hut, hout u] at hw; cases hw

/-- The holder moves inside its critical section without writing. -/
theorem load (h : Guarded m v phase) (ht : phase t ≠ .outside)
    (ht' : phase' t = .inside ∨ phase' t = .loaded v)
    (hu : ∀ u, u ≠ t → phase' u = phase u) : Guarded m v phase' := by
  constructor
  · intro u
    by_cases hut : u = t
    · rw [hut, h.holder_iff t]
      rcases ht' with ht' | ht' <;> simp [ht, ht']
    · rw [hu u hut]
      exact h.holder_iff u
  · intro u w hw
    by_cases hut : u = t
    · rw [hut] at hw
      rcases ht' with ht' | ht' <;> rw [ht'] at hw <;> cases hw
      rfl
    · exact h.fresh u w ((hu u hut).symm.trans hw)

/-- The holder writes: nobody else is inside with an old value. -/
theorem store (h : Guarded m v phase) (v' : V) (ht : phase t ≠ .outside)
    (ht' : phase' t = .inside) (hu : ∀ u, u ≠ t → phase' u = phase u) :
    Guarded m v' phase' := by
  constructor
  · intro u
    by_cases hut : u = t
    · rw [hut, h.holder_iff t]
      simp [ht, ht']
    · rw [hu u hut]
      exact h.holder_iff u
  · intro u w hw
    by_cases hut : u = t
    · rw [hut, ht'] at hw; cases hw
    · rw [hu u hut] at hw
      exact absurd (h.exclusive ht (by rw [hw]; simp)).symm hut

theorem give [DecidableEq τ] (h : Guarded m v phase) (ht : phase t ≠ .outside)
    (ht' : phase' t = .outside) (hu : ∀ u, u ≠ t → phase' u = phase u) :
    Guarded (m.give t) v phase' := by
  have hm : m.holder = some t := (h.holder_iff t).mpr ht
  have hall : ∀ u, phase' u = .outside := by
    intro u
    by_cases hut : u = t
    · rw [hut, ht']
    · by_contra hne
      rw [hu u hut] at hne
      exact hut (h.exclusive hne ht)
  have hgive : m.give t = .free := by simp [Mutex.give, hm, Mutex.free]
  rw [hgive]
  exact of_free hall

end Guarded

end Rtos
end EspLab
