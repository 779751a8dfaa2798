import EspLab.UdpAck.Protocol

/-!
# When a recorded ACK means a received start

A device sends its ACK whatever its `recvfrom` returned: an error, an empty datagram or a
stop left over from an earlier run. Where every `recvfrom` does return a start, a recorded id
belongs to a device that got one, over any network and any number of runs of the server: no
ACK comes from nowhere, and no run inherits the ACKs of another.
-/

namespace EspLab
namespace UdpAck

open Transition

variable {ι : Type*} [DecidableEq ι] {fleet : Fleet ι} {s s' : State ι}

/-- The datagram is a `{"cmd": "start", ..}`. -/
def Command.IsStart (c : Command) : Prop :=
  c.payload.get (pyStr "cmd") = .ok (.scalar (.str (pyStr "start")))

/-- What `recvfrom` returned is a start. -/
def Received.IsStart : Received → Prop
  | .command c => c.IsStart
  | .error | .empty => False

lemma isStart_start (seq : Fin 3) : (Command.start seq).IsStart := rfl

lemma not_isStart_stop : ¬ Command.stop.IsStart := by
  intro h
  change Except.ok (Json.scalar (.str (pyStr "stop"))) = .ok (.scalar (.str (pyStr "start"))) at h
  simp only [Except.ok.injEq, Json.scalar.injEq, Scalar.str.injEq] at h
  exact absurd h (by decide)

instance : DecidablePred Command.IsStart
  | .start seq => isTrue (isStart_start seq)
  | .stop => isFalse not_isStart_stop

instance : DecidablePred Received.IsStart
  | .command c => inferInstanceAs (Decidable c.IsStart)
  | .error | .empty => isFalse id

/-- The device has sent its ACK after receiving a start. -/
def DevicePc.AckedStart : DevicePc → Prop
  | .acked len => len.IsStart
  | _ => False

/-- Every recorded id is that of a device that received a start before it sent its ACK. -/
def AcksMeanStarts (fleet : Fleet ι) (s : State ι) : Prop :=
  ∀ id, .str id ∈ s.receivedAcks → ∃ i, fleet.id i = id ∧ (s.device i).AckedStart

/-- The server has printed `[OK] All ACKs received.` -/
def ServerPc.ReportedOk : ServerPc → Prop
  | .closing d | .closed d => d = .ok
  | _ => False

/-- The step is not a `recvfrom` of a device, or one that returns a start. -/
def RecvStart (s : State ι) : Action ι ⊕ Fault ι → Prop
  | .inl (.recvfrom i outcome) => ∀ len ∈ recvfrom (s.device i) outcome, len.IsStart
  | _ => True

instance instDecidableRecvStart (s : State ι) :
    (a : Action ι ⊕ Fault ι) → Decidable (RecvStart s a)
  | .inl (.recvfrom i outcome) =>
    inferInstanceAs (Decidable (∀ len ∈ recvfrom (s.device i) outcome, len.IsStart))
  | .inl .server | .inl .timeOut | .inl (.bind ..) | .inl (.sendAck _) | .inl (.deliver _)
  | .inr _ => isTrue trivial

/-! ## Devices -/

/-- The device has not got anything but a start. -/
def DevicePc.Clean : DevicePc → Prop
  | .acking len | .acked len => len.IsStart
  | _ => True

lemma DevicePc.Clean.ackedStart {d : DevicePc} (h : d.Clean) (hd : d.hasAcked = true) :
    d.AckedStart := by
  cases d with
  | acked len => exact h
  | booting | waiting | acking | failed => cases hd

/-! ## The invariant -/

/-- No ACK comes from nowhere, and the report is the decision on what is recorded. -/
structure Genuine (fleet : Fleet ι) (s : State ι) : Prop where
  clean : ∀ i, (s.device i).Clean
  inFlight : ∀ i, 0 < s.wire (.ack i) → (s.device i).hasAcked = true
  queued : ∀ i ∈ s.ackSock.getD [], (s.device i).hasAcked = true
  recorded : ∀ v ∈ s.receivedAcks, ∃ i, v = .str (fleet.id i) ∧ (s.device i).hasAcked = true
  reported : s.server.ReportedOk → decision s.receivedAcks = .ok

omit [DecidableEq ι] in
lemma genuine_start : Genuine fleet (start : State ι) where
  clean _ := trivial
  inFlight _ h := absurd h (lt_irrefl 0)
  queued _ h := by cases h
  recorded v h := absurd h (Finset.notMem_empty v)
  reported h := h.elim

omit [DecidableEq ι] in
/-- A step of the server or of the network. -/
lemma Genuine.of_device_eq (h : Genuine fleet s) (hdevice : s'.device = s.device)
    (hwire : ∀ i, 0 < s'.wire (.ack i) → 0 < s.wire (.ack i))
    (hqueued : ∀ i ∈ s'.ackSock.getD [], (s.device i).hasAcked = true)
    (hrecorded : ∀ v ∈ s'.receivedAcks, ∃ i, v = .str (fleet.id i) ∧ (s.device i).hasAcked = true)
    (hreported : s'.server.ReportedOk → decision s'.receivedAcks = .ok) : Genuine fleet s' where
  clean i := by
    rw [hdevice]
    exact h.clean i
  inFlight i hi := by
    rw [hdevice]
    exact h.inFlight i (hwire i hi)
  queued i hi := by
    rw [hdevice]
    exact hqueued i hi
  recorded v hv := by
    rw [hdevice]
    exact hrecorded v hv
  reported := hreported

/-- A device that has not sent its ACK moves on. -/
lemma Genuine.setDevice (h : Genuine fleet s) {i : ι} {d : DevicePc}
    (hi : (s.device i).hasAcked = false) (hd : d.Clean) : Genuine fleet (s.setDevice i d) := by
  have hkeep : ∀ j, (s.device j).hasAcked = true →
      ((s.setDevice i d).device j).hasAcked = true := by
    intro j hj
    have hne : j ≠ i := by
      intro hji
      rw [hji, hi] at hj
      cases hj
    rw [setDevice_ne s i d hne]
    exact hj
  refine ⟨?_, fun j hj => hkeep j (h.inFlight j hj), fun j hj => hkeep j (h.queued j hj), ?_,
    h.reported⟩
  · intro j
    by_cases hj : j = i
    · rw [hj, setDevice_self]
      exact hd
    · rw [setDevice_ne s i d hj]
      exact h.clean j
  · intro v hv
    rcases h.recorded v hv with ⟨j, hj, hacked⟩
    exact ⟨j, hj, hkeep j hacked⟩

lemma setWire_pos {p : Packet ι} {k : ℕ} (hp : 0 < s.wire p) {i : ι}
    (h : 0 < (s.setWire p k).wire (.ack i)) : 0 < s.wire (.ack i) := by
  by_cases hi : Packet.ack i = p
  · rw [hi]
    exact hp
  · rw [setWire_ne s k hi] at h
    exact h

/-- The number of copies in flight of a datagram that is in flight changes. -/
lemma Genuine.setWire (h : Genuine fleet s) {p : Packet ι} (hp : 0 < s.wire p) (k : ℕ) :
    Genuine fleet (s.setWire p k) :=
  h.of_device_eq rfl (fun _ => setWire_pos hp) h.queued h.recorded h.reported

/-- **Step lemma** for one run on a reliable network. -/
lemma genuine_step (h : Genuine fleet s) {a : Action ι} (hok : RecvStart s (.inl a))
    (hs : Step fleet s a s') : Genuine fleet s' := by
  cases hs with
  | send | sent | timeOut =>
    exact h.of_device_eq rfl (fun _ => id) h.queued h.recorded fun hr => hr.elim
  | decideStop =>
    exact h.of_device_eq rfl (fun _ => id) h.queued h.recorded fun hr => by cases hr
  | decideOk _ hdecision =>
    exact h.of_device_eq rfl (fun _ => id) h.queued h.recorded fun _ => hdecision
  | bindServer =>
    -- the new run starts with no ACKs
    exact h.of_device_eq rfl (fun _ => id) (by simp) (by simp) fun hr => hr.elim
  | close hpc =>
    refine h.of_device_eq rfl (fun _ => id) (by simp) h.recorded fun hr => h.reported ?_
    rw [hpc]
    exact hr
  | @record i queue hpc hsock =>
    -- the id recorded is that of a queued ACK
    have hqueued := h.queued
    rw [hsock, Option.getD_some, List.forall_mem_cons] at hqueued
    refine h.of_device_eq rfl (fun _ => id) hqueued.2 ?_ ?_
    · intro v hv
      rcases Finset.mem_insert.mp hv with hv | hv
      · exact ⟨i, hv, hqueued.1⟩
      · exact h.recorded v hv
    · intro hr
      change s.server.ReportedOk at hr
      rw [hpc] at hr
      exact hr.elim
  | @bindDevice i success hi =>
    apply h.setDevice
    · rw [hi]
      rfl
    · cases success <;> trivial
  | recvfrom hlen => exact h.setDevice (hasAcked_of_recvfrom hlen) (hok _ hlen)
  | @sendAck i len hi =>
    -- the device had got a start when it was about to send
    have hclean := h.clean i
    rw [hi] at hclean
    have hacking : (s.device i).hasAcked = false := by
      rw [hi]
      rfl
    have hset := h.setDevice hacking (d := .acked len) hclean
    refine ⟨hset.clean, fun j hj => ?_, hset.queued, hset.recorded, hset.reported⟩
    by_cases hji : j = i
    · rw [setWire_device, hji, setDevice_self]
      rfl
    · rw [setWire_ack_ne _ _ _ hji] at hj
      exact hset.inFlight j hj
  | @command i c queue k hwire hi =>
    refine (h.setWire (by omega) k).setDevice ?_ trivial
    rw [setWire_device, hi]
    rfl
  | @discard i c k hwire => exact h.setWire (by omega) k
  | @ack i k hwire =>
    have hpos : 0 < s.wire (.ack i) := by omega
    refine h.of_device_eq rfl (fun _ => setWire_pos hpos) ?_ h.recorded h.reported
    intro j hj
    cases hsock : s.ackSock with
    | none => simp [hsock] at hj
    | some queue =>
      simp only [hsock, Option.map_some, Option.getD_some, List.mem_append,
        List.mem_singleton] at hj
      rcases hj with hj | hj
      · apply h.queued
        rw [hsock]
        exact hj
      · rw [hj]
        exact h.inFlight i hpos

/-- **Step lemma** for repeated runs on an unreliable network. -/
lemma genuine_faultyStep (h : Genuine fleet s) {a : Action ι ⊕ Fault ι} (hok : RecvStart s a)
    (hs : faultyStep fleet s a = some s') : Genuine fleet s' := by
  cases a with
  | inl a => exact genuine_step h hok (step_cases hs)
  | inr fault =>
    cases faultStep_cases hs with
    | lose hwire | duplicate hwire => exact h.setWire (by omega) _
    | restart => exact h.of_device_eq rfl (fun _ => id) (by simp) (by simp) fun hr => hr.elim

/-- **Run lemma.** -/
lemma genuine_of_reachBy (h : ReachBy (faultyStep fleet) RecvStart start s) : Genuine fleet s :=
  h.invariant (fun _ _ _ hs hok ht => genuine_faultyStep hs hok ht) genuine_start

omit [DecidableEq ι] in
lemma Genuine.acksMeanStarts (h : Genuine fleet s) : AcksMeanStarts fleet s := by
  intro id hid
  rcases h.recorded _ hid with ⟨i, hi, hacked⟩
  rw [Scalar.str.injEq] at hi
  exact ⟨i, hi.symm, (h.clean i).ackedStart hacked⟩

lemma mem_of_decision_eq_ok {acks : Finset Scalar} (h : decision acks = .ok) {id : PyStr}
    (hid : id ∈ expectedIds) : .str id ∈ acks := by
  have hmissing : missing acks = [] := by
    unfold decision at h
    split at h
    · assumption
    · cases h
  by_contra hnot
  have hmem : id ∈ missing acks := by simp [missing, hid, hnot]
  rw [hmissing] at hmem
  cases hmem

/-- **An ACK means a start.** Over any network and any number of runs of the server, as long
as every `recvfrom` of a device returns a start: each recorded id is that of a device that
received one before it sent its ACK, and the server reports OK only if each expected id is. -/
theorem acks_mean_starts (fleet : Fleet ι) {s : State ι}
    (h : ReachBy (faultyStep fleet) RecvStart start s) :
    AcksMeanStarts fleet s ∧
    (s.server.ReportedOk →
      ∀ id ∈ expectedIds, ∃ i, fleet.id i = id ∧ (s.device i).AckedStart) := by
  have hgenuine := genuine_of_reachBy h
  refine ⟨hgenuine.acksMeanStarts, fun hreported id hid => ?_⟩
  exact hgenuine.acksMeanStarts id (mem_of_decision_eq_ok (hgenuine.reported hreported) hid)

/-- The device receives a start, and the server records its ACK. -/
def startThenAck : List (Action Unit ⊕ Fault Unit) :=
  [.inl (.bind () true), .inl .server, .inl (.deliver (.command () .first)),
    .inl (.recvfrom () .datagram), .inl .server, .inl .server, .inl .server, .inl .server,
    .inl (.sendAck ()), .inl (.deliver (.ack ())), .inl .server]

theorem acks_mean_starts_startThenAck :
    ∃ s, exec (faultyStep singleDevice) start startThenAck = some s ∧
      .str (pyStr "ESP32_A") ∈ s.receivedAcks ∧ AcksMeanStarts singleDevice s := by
  have hrun : (exec (faultyStep singleDevice) start startThenAck).map
      (fun s => decide (.str (pyStr "ESP32_A") ∈ s.receivedAcks)) = some true := by decide
  rcases Option.map_eq_some_iff.mp hrun with ⟨s, hs, hrecorded⟩
  refine ⟨s, hs, of_decide_eq_true hrecorded, ?_⟩
  exact (acks_mean_starts singleDevice (.of_exec hs (by decide))).1

/-- The `recvfrom` of the device fails, and the server records its ACK. -/
def errorThenAck : List (Action Unit ⊕ Fault Unit) :=
  [.inl (.bind () true), .inl (.recvfrom () .error), .inl (.sendAck ()), .inl .server,
    .inl .server, .inl .server, .inl .server, .inl .server, .inl (.deliver (.ack ())),
    .inl .server]

/-- A recorded ACK need not mean a start. -/
theorem ack_without_start_errorThenAck : ¬ ∀ s : State Unit,
    Reach (faultyStep singleDevice) start s → AcksMeanStarts singleDevice s := by
  intro hall
  have hrun : (exec (faultyStep singleDevice) start errorThenAck).map
      (fun s => (s.device (), decide (.str (pyStr "ESP32_A") ∈ s.receivedAcks))) =
      some (.acked .error, true) := by decide
  rcases Option.map_eq_some_iff.mp hrun with ⟨s, hs, hview⟩
  rcases Prod.mk.inj hview with ⟨hdevice, hrecorded⟩
  rcases hall s ⟨_, hs⟩ _ (of_decide_eq_true hrecorded) with ⟨i, -, hacked⟩
  rw [hdevice] at hacked
  exact hacked

end UdpAck
end EspLab
