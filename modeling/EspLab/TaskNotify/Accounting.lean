import EspLab.TaskNotify.Shutdown
import Mathlib.Tactic.NormNum

/-!
# The task notification example loses no notification

Notifications are coalesced into one value that the receiver clears when it takes it, and can
arrive at any point of its inner loop. Each of them is pending, in the receiver's hands or
processed. The value the take returns is stored in an `int`, so this needs fewer than `2 ^ 31`
notifications to be pending at once.
-/

namespace EspLab
namespace TaskNotify

open Transition Rtos

/-- Fewer than `2 ^ 31` notifications are pending. -/
def FewPending (s : State) (_ : Action) : Prop := s.notifications < 2 ^ 31

instance (s : State) (a : Action) : Decidable (FewPending s a) :=
  inferInstanceAs (Decidable (s.notifications < 2 ^ 31))

/-- The notifications the receiver has taken and not yet processed. -/
def RcvPc.remaining : RcvPc → ℤ
  | .process pending => pending
  | _ => 0

/-- What fits into an `int` is not changed by the conversion. -/
lemma toInt_of_lt {n : ℕ} (h : n < 2 ^ 31) : toInt n = n := by
  norm_num at h
  have h32 : (2 : ℕ) ^ 32 = 4294967296 := by norm_num
  unfold toInt
  rw [h32]
  clear h32
  apply Int.bmod_eq_of_le <;> omega

/-- Every notification given is pending, taken or processed. -/
structure Conserved (s : State) : Prop where
  given : (s.given : ℤ) = s.notifications + s.rcv.remaining + s.processed
  remaining : 0 ≤ s.rcv.remaining
  fresh : s.entry = .createRcv → s.notifications = 0

lemma conserved_start : Conserved start := by
  constructor <;> simp [start, RcvPc.remaining]

lemma conserved_rcv {s s' : State} (h : Conserved s) (hfew : s.notifications < 2 ^ 31)
    (hs : notificationRcvFunc s = some s') : Conserved s' := by
  rcases h with ⟨hgiven, hrem, hfresh⟩
  rcases notificationRcvFunc_cases hs with
    ⟨hpc, _⟩ | ⟨hpc, _⟩ | ⟨hpc, hne⟩ | ⟨hpc, hpos⟩ | ⟨hpc, hle⟩
  · rw [hpc] at hgiven hrem
    exact ⟨hgiven, hrem, hfresh⟩
  · rw [hpc] at hgiven hrem
    exact ⟨hgiven, hrem, hfresh⟩
  · -- all pending notifications move into the receiver's hands
    rw [hpc] at hgiven
    simp only [RcvPc.remaining] at hgiven
    rw [toInt_of_lt hfew]
    clear hfew
    refine ⟨?_, ?_, fun _ => rfl⟩
    · show (s.given : ℤ) = (0 : ℕ) + (s.notifications : ℤ) + s.processed
      omega
    · show 0 ≤ (s.notifications : ℤ)
      omega
  · rw [hpc] at hgiven
    simp only [RcvPc.remaining] at hgiven
    refine ⟨?_, ?_, hfresh⟩
    · show (s.given : ℤ) = s.notifications + (_ - 1) + ((s.processed + 1 : ℕ) : ℤ)
      omega
    · show 0 ≤ _ - 1
      omega
  · rw [hpc] at hgiven hrem
    simp only [RcvPc.remaining] at hgiven hrem
    refine ⟨?_, Int.le_refl 0, hfresh⟩
    show (s.given : ℤ) = s.notifications + 0 + s.processed
    omega

lemma conserved_send {s s' : State} (h : Conserved s) (hlife : Lifecycle s)
    (hs : notificationSendFunc s = some s') : Conserved s' := by
  rcases h with ⟨hgiven, hrem, hfresh⟩
  rcases notificationSendFunc_cases hs with ⟨_, _⟩ | ⟨_, _⟩ | hpc
  · exact ⟨hgiven, hrem, hfresh⟩
  · exact ⟨hgiven, hrem, hfresh⟩
  · refine ⟨?_, hrem, ?_⟩
    · show ((s.given + 1 : ℕ) : ℤ) = ((s.notifications + 1 : ℕ) : ℤ) + s.rcv.remaining + s.processed
      omega
    · intro he
      -- the sender does not exist yet
      have habs := hlife.send_absent.mp (.inl he)
      rw [hpc] at habs
      cases habs

lemma conserved_entry {s s' : State} (h : Conserved s) (hlife : Lifecycle s)
    (hs : entryFunc s = some s') : Conserved s' := by
  rcases h with ⟨hgiven, hrem, hfresh⟩
  rcases entryFunc_cases hs with hpc | hpc | hpc | hpc
  · have habs := hlife.rcv_absent.mp hpc
    rw [habs, hfresh hpc] at hgiven
    exact ⟨hgiven, Int.le_refl 0, fun _ => rfl⟩
  · exact ⟨hgiven, hrem, by simp⟩
  · exact ⟨hgiven, hrem, by simp⟩
  · exact ⟨hgiven, hrem, by simp⟩

/-- **Run lemma.** -/
lemma conserved_of_reachBy {s : State} (h : ReachBy step FewPending start s) : Conserved s := by
  have hinv : Lifecycle s ∧ Conserved s := by
    apply h.invariant (I := fun u => Lifecycle u ∧ Conserved u) ?_
      ⟨lifecycle_start, conserved_start⟩
    intro u a v ⟨hlife, hcons⟩ hfew hv
    refine ⟨lifecycle_step hlife hv, ?_⟩
    cases a with
    | entry => exact conserved_entry hcons hlife hv
    | rcv => exact conserved_rcv hcons hfew hv
    | send => exact conserved_send hcons hlife hv
  exact hinv.2

/-- **Conservation.** Every notification given is pending, taken or processed, so none is
processed twice; and when the receiver is blocked all of them have been processed. -/
theorem notifications_conserved (s : State) (h : ReachBy step FewPending start s) :
    (s.given : ℤ) = s.notifications + s.rcv.remaining + s.processed ∧
    s.processed ≤ s.given ∧
    (s.rcv = .take → notificationRcvFunc s = none → s.processed = s.given) := by
  obtain ⟨hgiven, hrem, -⟩ := conserved_of_reachBy h
  refine ⟨hgiven, by omega, ?_⟩
  intro hpc hblocked
  have hzero : s.notifications = 0 := by
    rcases notificationRcvFunc_eq_none.mp hblocked with habs | hdel | ⟨-, hzero⟩
    · rw [hpc] at habs
      cases habs
    · rw [hpc] at hdel
      cases hdel
    · exact hzero
  rw [hpc, hzero] at hgiven
  simp only [RcvPc.remaining] at hgiven
  omega

/-- Two notifications are given before the receiver takes them, a third while it processes the
first. -/
def coalescedRun : List Action :=
  [.entry, .entry, .send, .send, .send, .send, .rcv, .rcv, .rcv, .send, .send]

theorem notifications_conserved_coalesced : ∃ s, exec step start coalescedRun = some s ∧
    s.rcv = .process 1 ∧ s.notifications = 1 ∧
    ((s.given : ℤ) = s.notifications + s.rcv.remaining + s.processed ∧
    s.processed ≤ s.given ∧
    (s.rcv = .take → notificationRcvFunc s = none → s.processed = s.given)) :=
  ⟨_, rfl, rfl, rfl, notifications_conserved _ ⟨coalescedRun, rfl, by decide⟩⟩

end TaskNotify
end EspLab
