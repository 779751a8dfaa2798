import EspLab.TaskNotify.Model

/-!
# Shutdown of the task notification example

The receiver tests `timed_out` only at the head of its loop, then waits for a notification
without a timeout. Whether it ever gets back to the head is decided at the moment the entry
function sets the flag: by then a notification must be pending or about to be given, or the
receiver must not be waiting for one.
-/

namespace EspLab
namespace TaskNotify

open Transition Rtos

/-- Which parties exist at each point of the entry function. -/
structure Lifecycle (s : State) : Prop where
  rcv_absent : s.entry = .createRcv ↔ s.rcv = .absent
  send_absent : (s.entry = .createRcv ∨ s.entry = .createSend) ↔ s.send = .absent
  timedOut_iff : s.timedOut = true ↔ s.entry = .grace ∨ s.entry = .returned

lemma lifecycle_start : Lifecycle start := by
  constructor <;> simp [start]

lemma lifecycle_step {s s' : State} {a : Action} (h : Lifecycle s) (hs : step s a = some s') :
    Lifecycle s' := by
  rcases h with ⟨hr, hsend, ht⟩
  cases a with
  | entry => cases entryFunc_cases hs <;> constructor <;> simp_all
  | rcv => cases notificationRcvFunc_cases hs <;> constructor <;> simp_all
  | send => cases notificationSendFunc_cases hs <;> constructor <;> simp_all

lemma lifecycle_of_reach {s : State} (h : Reach step start s) : Lifecycle s :=
  h.invariant (fun _ _ _ => lifecycle_step) lifecycle_start

/-- The receiver waits, nothing is pending and the sender is not about to notify it. -/
def Parked (s : State) : Prop :=
  s.rcv = .take ∧ s.notifications = 0 ∧ s.send ≠ .give

/-- The flag is set and both tasks exist. -/
def TimedOut (s : State) : Prop :=
  s.timedOut = true ∧ s.rcv ≠ .absent ∧ s.send ≠ .absent ∧
    (s.entry = .grace ∨ s.entry = .returned)

/-- **Step lemma.** Once the flag is set, no step parks the receiver or frees it. -/
lemma parked_step {s s' : State} {a : Action} (h : TimedOut s) (hs : step s a = some s') :
    TimedOut s' ∧ (Parked s' ↔ Parked s) := by
  rcases h with ⟨ht, hr, hsend, he⟩
  unfold TimedOut Parked
  cases a with
  | entry => cases entryFunc_cases hs <;> simp_all
  | rcv => cases notificationRcvFunc_cases hs <;> simp_all
  | send => cases notificationSendFunc_cases hs <;> simp_all [notifyGive]

/-- A system at rest: the entry function has returned, the sender has exited, and the
receiver has exited unless it waits with nothing pending. -/
lemma stuck_iff {s : State} (h : TimedOut s) (hs : Stuck step s) :
    s.send = .deleted ∧ (s.rcv = .deleted ∨ Parked s) := by
  rcases h with ⟨-, hr, hsend, -⟩
  have hdel : s.send = .deleted :=
    (notificationSendFunc_eq_none.mp (hs .send)).resolve_left hsend
  refine ⟨hdel, ?_⟩
  rcases notificationRcvFunc_eq_none.mp (hs .rcv) with habs | hd | ⟨htake, hzero⟩
  · exact absurd habs hr
  · exact .inl hd
  · exact .inr ⟨htake, hzero, by rw [hdel]; simp⟩

/-- **Shutdown.** When the flag is set in state `s` and the run comes to rest in `f`, both
tasks have exited exactly when the receiver was not parked in `s`. -/
lemma exited_iff {s s' f : State} (h : Reach step start s) (hs : s.entry = .running)
    (hflag : step s .entry = some s') (hf : Reach step s' f) (hstuck : Stuck step f) :
    (f.rcv = .deleted ∧ f.send = .deleted) ↔ ¬ Parked s := by
  have hlife := lifecycle_of_reach h
  have htimed : TimedOut s' ∧ (Parked s' ↔ Parked s) := by
    cases entryFunc_cases hflag with
    | timeOut hpc =>
      have hr : s.rcv ≠ .absent := fun hr => by simp [hlife.rcv_absent.mpr hr] at hs
      have hsd : s.send ≠ .absent := fun hsd => by
        rcases hlife.send_absent.mpr hsd with he | he <;> simp [he] at hs
      exact ⟨⟨rfl, hr, hsd, .inl rfl⟩, Iff.rfl⟩
    | createRcv hpc | createSend hpc | done hpc => simp [hpc] at hs
  obtain ⟨hf', hpark⟩ := hf.stable (fun _ _ _ => parked_step) htimed.1
  rcases stuck_iff hf' hstuck with ⟨hsend, hrcv⟩
  rw [← htimed.2, ← hpark]
  constructor
  · rintro ⟨hd, -⟩ ⟨htake, -⟩
    rw [hd] at htake
    cases htake
  · intro hnot
    exact ⟨hrcv.resolve_right hnot, hsend⟩

/-- A run that has come to rest after the flag was set in `atFlag`. -/
structure FinishedRun where
  atFlag : State
  flagged : State
  atRest : State
  reached : Reach step start atFlag
  running : atFlag.entry = .running
  setsFlag : step atFlag .entry = some flagged
  rests : Reach step flagged atRest
  stuck : Stuck step atRest

/-- Every state at rest with the flag set ends a run that set the flag. -/
lemma exists_finishedRun {f : State} (h : Reach step start f) (ht : f.timedOut = true)
    (hf : Stuck step f) : ∃ r : FinishedRun, r.atRest = f := by
  obtain ⟨u, a, v, hsu, hu, hv, hPv, hvf⟩ :=
    h.exists_step (P := fun s => s.timedOut = true) (by simp [start]) ht
  cases a with
  | rcv => cases notificationRcvFunc_cases hv <;> exact absurd hPv hu
  | send => cases notificationSendFunc_cases hv <;> exact absurd hPv hu
  | entry =>
    cases entryFunc_cases hv with
    | timeOut hpc => exact ⟨⟨u, _, f, hsu, hpc, hv, hvf, hf⟩, rfl⟩
    | createRcv | createSend | done => exact absurd hPv hu

end TaskNotify
end EspLab
