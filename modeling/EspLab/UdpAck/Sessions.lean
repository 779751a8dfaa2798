import EspLab.UdpAck.Acks
import EspLab.UdpAck.Decision
import EspLab.UdpAck.Starts

/-!
# Devices answer once

`app_main` of a device calls `recvfrom` once and `sendto` once. So the first datagram it gets is
the only one it acts on, a stop that comes later does not reach it, and a device whose ACK has
been used up, or lost, answers no later run of the server.
-/

namespace EspLab
namespace UdpAck

open Transition

variable {ι : Type*} [DecidableEq ι] {fleet : Fleet ι} {s s' t : State ι} {i : ι}

/-! ## What a device has heard -/

/-- The datagram that `recvfrom` gave a device. -/
def DevicePc.heard : DevicePc → Option Received
  | .acking len | .acked len => some len
  | _ => none

/-- The step is the `sendto` of device `i`. -/
def SendsAck (i : ι) : Action ι ⊕ Fault ι → Bool
  | .inl (.sendAck j) => j = i
  | _ => false

/-- What a step can do to a device: nothing, or something before it has heard anything, or its
`sendto`. -/
inductive DeviceStep (i : ι) (d : DevicePc) (a : Action ι ⊕ Fault ι) : DevicePc → Prop
  | same : SendsAck i a = false → DeviceStep i d a d
  | before {d' : DevicePc} : SendsAck i a = false → d.heard = none → d'.hasAcked = false →
      DeviceStep i d a d'
  | sendAck {len : Received} : SendsAck i a = true → d = .acking len → DeviceStep i d a (.acked len)

lemma hasAcked_of_heard {d : DevicePc} (h : d.heard = none) : d.hasAcked = false := by
  cases d <;> first | rfl | cases h

lemma heard_of_recvfrom {d : DevicePc} {outcome : Outcome} {len : Received}
    (h : recvfrom d outcome = some len) : d.heard = none := by
  cases d <;> first | rfl | cases h

/-- Another device moves. -/
lemma deviceStep_setDevice {j : ι} {d : DevicePc} {a : Action ι} (ha : SendsAck i (.inl a) = false)
    (hj : (s.device j).heard = none) (hd : d.hasAcked = false) :
    DeviceStep i (s.device i) (.inl a) ((s.setDevice j d).device i) := by
  by_cases hij : i = j
  · rw [hij, setDevice_self]
    rw [hij] at ha
    exact .before ha hj hd
  · rw [setDevice_ne s j d hij]
    exact .same ha

lemma device_step {a : Action ι} (hs : Step fleet s a s') (i : ι) :
    DeviceStep i (s.device i) (.inl a) (s'.device i) := by
  cases hs with
  | send | sent | bindServer | record | decideOk | decideStop | close | timeOut | discard | ack =>
    exact .same rfl
  | @bindDevice j success hj =>
    exact deviceStep_setDevice rfl (by rw [hj]; rfl) (by cases success <;> rfl)
  | recvfrom hlen => exact deviceStep_setDevice rfl (heard_of_recvfrom hlen) rfl
  | @command j c queue k _ hj =>
    exact deviceStep_setDevice rfl (by rw [hj]; rfl) rfl
  | @sendAck j len hj =>
    by_cases hij : j = i
    · subst hij
      rw [setWire_device, setDevice_self]
      exact .sendAck (decide_eq_true rfl) hj
    · rw [setWire_device, setDevice_ne _ _ _ (Ne.symm hij)]
      exact .same (decide_eq_false hij)

/-- **Step lemma.** A fault does nothing to a device. -/
lemma device_faultyStep {a : Action ι ⊕ Fault ι} (hs : faultyStep fleet s a = some s') (i : ι) :
    DeviceStep i (s.device i) a (s'.device i) := by
  cases a with
  | inl a => exact device_step (step_cases hs) i
  | inr fault => cases faultStep_cases hs <;> exact .same rfl

lemma DeviceStep.hasAcked {d d' : DevicePc} {a : Action ι ⊕ Fault ι} (h : DeviceStep i d a d') :
    d'.hasAcked.toNat = d.hasAcked.toNat + (SendsAck i a).toNat := by
  cases h with
  | same ha => rw [ha]; rfl
  | before ha hd hd' => rw [ha, hd', hasAcked_of_heard hd]; rfl
  | sendAck ha hd => rw [ha, hd]; rfl

lemma DeviceStep.heard {d d' : DevicePc} {a : Action ι ⊕ Fault ι} {len : Received}
    (h : DeviceStep i d a d') (hd : d.heard = some len) : d'.heard = some len := by
  cases h with
  | same => exact hd
  | before _ hnone =>
    rw [hnone] at hd
    cases hd
  | sendAck _ hacking =>
    rw [hacking] at hd
    exact hd

/-- **One datagram, one ACK.** Over any network and any number of runs of the server a device
sends an ACK at most once; and what it has heard stays what it acts on, so that a device that got
a start is not stopped by any stop the server broadcasts later. -/
theorem device_hears_once (fleet : Fleet ι) {as : List (Action ι ⊕ Fault ι)} {s : State ι}
    (hrun : exec (faultyStep fleet) start as = some s) (i : ι) :
    as.countP (SendsAck i) = (s.device i).hasAcked.toNat ∧ as.countP (SendsAck i) ≤ 1 ∧
    ∀ len, (s.device i).heard = some len → ∀ t, Reach (faultyStep fleet) s t →
      (t.device i).heard = some len := by
  have hcount := exec_countP (m := fun u => (u.device i).hasAcked.toNat)
    (fun _ _ _ hs => (device_faultyStep hs i).hasAcked) hrun
  have hzero : ((start : State ι).device i).hasAcked.toNat = 0 := rfl
  have hle : (s.device i).hasAcked.toNat ≤ 1 := Bool.toNat_le _
  refine ⟨by omega, by omega, fun len hlen t ht => ?_⟩
  exact ht.invariant (I := fun u => (u.device i).heard = some len)
    (fun _ _ _ hu hs => (device_faultyStep hs i).heard hu) hlen

/-- The device has heard a start when the server decides to stop. -/
def startThenStop : List (Action Unit ⊕ Fault Unit) :=
  [.inl (.bind () true), .inl .server, .inl (.deliver (.command () .first)),
    .inl (.recvfrom () .datagram), .inl .server, .inl .server, .inl .server, .inl .server,
    .inl (.sendAck ()), .inl .timeOut, .inl .server]

theorem device_hears_once_stopped :
    ∃ s, exec (faultyStep singleDevice) start startThenStop = some s ∧
    startThenStop.countP (SendsAck ()) ≤ 1 ∧
    ∀ t, Reach (faultyStep singleDevice) s t →
      (t.device ()).heard = some (.command .first) := by
  have hrun : (exec (faultyStep singleDevice) start startThenStop).map
      (fun s => (s.device ()).heard) = some (some (.command .first)) := by decide
  rcases Option.map_eq_some_iff.mp hrun with ⟨s, hs, hheard⟩
  obtain ⟨-, hle, hstays⟩ := device_hears_once singleDevice hs ()
  exact ⟨s, hs, hle, hstays _ hheard⟩

/-! ## Later runs of the server -/

/-- Nothing is left of the ACK of device `i`, and the server does not report OK without it. -/
structure Unheard (fleet : Fleet ι) (i : ι) (s : State ι) : Prop where
  lost : Lost fleet i s
  notOk : ¬ s.server.ReportedOk
  named : ∀ ids, s.server = .closing (.stop ids) ∨ s.server = .closed (.stop ids) →
    fleet.id i ∈ ids

lemma Lost.not_recorded (h : Lost fleet i s) : .str (fleet.id i) ∉ s.receivedAcks := by
  intro hmem
  have htokens := h.2
  rw [State.tokens, if_pos hmem] at htokens
  omega

lemma missing_of_decision {acks : Finset Scalar} {ids : List PyStr}
    (h : decision acks = .stop ids) : missing acks = ids := by
  unfold decision at h
  split at h
  · cases h
  · next hmissing =>
    cases h
    exact hmissing

lemma unheard_step (hid : fleet.id i ∈ expectedIds) {a : Action ι} (h : Unheard fleet i s)
    (hs : Step fleet s a s') : Unheard fleet i s' := by
  have hlost := lost_step h.lost hs
  have hrecorded := h.lost.not_recorded
  obtain ⟨-, hok, hnamed⟩ := h
  cases hs with
  | decideOk _ hdecision => exact absurd (mem_of_decision_eq_ok hdecision hid) hrecorded
  | @decideStop ids _ hdecision =>
    refine ⟨hlost, nofun, fun ids' hids => ?_⟩
    have heq : ids = ids' := by
      rcases hids with hids | hids <;> cases hids
      rfl
    rw [← heq, ← missing_of_decision hdecision]
    exact mem_missing.mpr ⟨hid, hrecorded⟩
  | @close d hpc =>
    refine ⟨hlost, fun hr => hok ?_, fun ids hids => hnamed ids (.inl ?_)⟩
    · rw [hpc]
      exact hr
    · rcases hids with hids | hids <;> cases hids
      exact hpc
  | send | sent | bindServer | timeOut =>
    refine ⟨hlost, fun hr => hr.elim, fun ids hids => ?_⟩
    rcases hids with hids | hids <;> cases hids
  | record | bindDevice | recvfrom | sendAck | command | discard | ack =>
    exact ⟨hlost, hok, hnamed⟩

/-- A new run of the server begins without ACKs and without a decision. -/
lemma unheard_restart (hacked : (s.device i).hasAcked = true) (hwire : s.wire (.ack i) = 0) :
    Unheard fleet i { s with server := .sending 0, ackSock := none, receivedAcks := ∅ } := by
  refine ⟨⟨hacked, ?_⟩, fun hr => hr.elim, fun ids hids => ?_⟩
  · simp [State.tokens, hwire]
  · rcases hids with hids | hids <;> cases hids

lemma unheard_faultyStep (hid : fleet.id i ∈ expectedIds) {a : Action ι ⊕ Fault ι}
    (h : Unheard fleet i s) (hs : faultyStep fleet s a = some s') : Unheard fleet i s' := by
  cases a with
  | inl a => exact unheard_step hid h (step_cases hs)
  | inr fault =>
    cases faultStep_cases hs with
    | @lose p k hp | @duplicate p k hp =>
      -- a copy of a datagram is in flight, so it is not the lost ACK
      have hne : p ≠ .ack i := by
        rintro rfl
        rw [h.lost.wire] at hp
        cases hp
      exact ⟨h.lost.setWire hne, h.notOk, h.named⟩
    | restart => exact unheard_restart h.lost.1 h.lost.wire

/-- **Sessions are not repeatable.** When the server is started again and an expected device has
sent its ACK before, none of it still in flight, then whatever the network does no later run of the
server reports OK, and each that gets to its decision stops with this device among the missing. -/
theorem later_runs_stop (fleet : Fleet ι) {s s' t : State ι} {i : ι}
    (hid : fleet.id i ∈ expectedIds) (hacked : (s.device i).hasAcked = true)
    (hwire : s.wire (.ack i) = 0) (hrestart : faultyStep fleet s (.inr .restart) = some s')
    (ht : Reach (faultyStep fleet) s' t) :
    ¬ t.server.ReportedOk ∧
    ∀ ids, t.server = .closing (.stop ids) ∨ t.server = .closed (.stop ids) →
      fleet.id i ∈ ids := by
  cases hrestart
  have hend := ht.invariant (fun _ _ _ hu hs => unheard_faultyStep hid hu hs)
    (unheard_restart hacked hwire)
  exact ⟨hend.notOk, hend.named⟩

/-- The ACK of the device has been recorded; the server is started again, and its copies of the
start are sent and the time is up. -/
theorem later_runs_stop_secondRun : ∃ s s', exec (faultyStep singleDevice) start startThenAck =
      some s ∧ faultyStep singleDevice s (.inr .restart) = some s' ∧
    ∀ t, Reach (faultyStep singleDevice) s' t → ¬ t.server.ReportedOk := by
  have hrun : (exec (faultyStep singleDevice) start startThenAck).map
      (fun s => ((s.device ()).hasAcked, s.wire (.ack ()))) = some (true, 0) := by decide
  rcases Option.map_eq_some_iff.mp hrun with ⟨s, hs, hview⟩
  obtain ⟨hacked, hwire⟩ := Prod.mk.inj hview
  exact ⟨s, _, hs, rfl, fun t ht =>
    (later_runs_stop singleDevice (by decide) hacked hwire rfl ht).1⟩

end UdpAck
end EspLab
