import EspLab.UdpAck.Protocol

/-!
# No ACK is lost, unless it comes before `ack_sock`

On a reliable network each device has one token from the moment it sends its ACK: a copy in
flight, a place in the queue of `ack_sock`, or its id in `received_acks`. Only a delivery to
port 3333 before the server has bound `ack_sock` destroys a token, and then for good, since
a device sends one ACK only.
-/

namespace EspLab
namespace UdpAck

open Transition

variable {ι : Type*} [DecidableEq ι] {fleet : Fleet ι} {s s' : State ι} {a : Action ι}

/-- The server has not bound `ack_sock` yet. -/
def ServerPc.Unbound : ServerPc → Prop
  | .sending _ | .bind => True
  | _ => False

/-- The server has not left its receive loop. -/
def ServerPc.BeforeDecision : ServerPc → Prop
  | .sending _ | .bind | .receiving => True
  | _ => False

/-- The place of the ACK of device `i` when it is not lost. -/
def State.Kept (fleet : Fleet ι) (s : State ι) (i : ι) : Prop :=
  0 < s.wire (.ack i) ∨ i ∈ s.ackSock.getD [] ∨ .str (fleet.id i) ∈ s.receivedAcks

/-- Every ACK sent is in flight, queued or recorded. -/
def NoAckLost (fleet : Fleet ι) (s : State ι) : Prop :=
  ∀ i, (s.device i).hasAcked = true → s.Kept fleet i

/-- The step does not deliver an ACK to a port that is not bound. -/
def InTime (s : State ι) : Action ι → Prop
  | .deliver (.ack _) => s.ackSock ≠ none
  | _ => True

instance instDecidableInTime (s : State ι) : (a : Action ι) → Decidable (InTime s a)
  | .deliver (.ack _) => inferInstanceAs (Decidable (s.ackSock ≠ none))
  | .deliver (.command ..) | .server | .timeOut | .bind .. | .recvfrom .. | .sendAck _ =>
    isTrue trivial

/-! ## One token for each ACK -/

/-- The tokens of device `i`. -/
def State.tokens (fleet : Fleet ι) (s : State ι) (i : ι) : ℕ :=
  s.wire (.ack i) + (s.ackSock.getD []).count i +
    if .str (fleet.id i) ∈ s.receivedAcks then 1 else 0

/-- The invariant of runs whose deliveries are all in time. -/
structure OneToken (fleet : Fleet ι) (s : State ι) : Prop where
  unbound : s.server.Unbound → s.ackSock = none ∧ s.receivedAcks = ∅
  tokens : s.server.BeforeDecision → ∀ i, s.tokens fleet i = (s.device i).hasAcked.toNat

lemma oneToken_start : OneToken fleet (start : State ι) where
  unbound _ := ⟨rfl, rfl⟩
  tokens _ i := by simp [State.tokens, start, DevicePc.hasAcked]

lemma kept_iff {i : ι} : s.Kept fleet i ↔ 0 < s.tokens fleet i := by
  unfold State.Kept State.tokens
  rw [← List.count_pos_iff]
  by_cases hmem : Scalar.str (fleet.id i) ∈ s.receivedAcks
  · simp [hmem]
  · rw [if_neg hmem]
    simp only [hmem, or_false]
    omega

/-- A step that moves no token. -/
lemma OneToken.congr (h : OneToken fleet s)
    (hunbound : s'.server.Unbound → s.server.Unbound)
    (hbefore : s'.server.BeforeDecision → s.server.BeforeDecision)
    (hsock : s'.ackSock = s.ackSock) (hacks : s'.receivedAcks = s.receivedAcks)
    (hwire : ∀ i, s'.wire (.ack i) = s.wire (.ack i))
    (hdevice : ∀ i, (s'.device i).hasAcked = (s.device i).hasAcked) : OneToken fleet s' where
  unbound hs := by
    rw [hsock, hacks]
    exact h.unbound (hunbound hs)
  tokens hs i := by
    rw [hdevice, ← h.tokens (hbefore hs) i]
    unfold State.tokens
    rw [hsock, hacks, hwire]

/-- A device moves on without sending an ACK. -/
lemma OneToken.setDevice (h : OneToken fleet s) {i : ι} {d : DevicePc}
    (hd : d.hasAcked = (s.device i).hasAcked) : OneToken fleet (s.setDevice i d) := by
  refine h.congr id id rfl rfl (fun _ => rfl) ?_
  intro j
  by_cases hj : j = i
  · rw [hj, setDevice_self, hd]
  · rw [setDevice_ne s i d hj]

omit [DecidableEq ι] in
lemma mem_insert_id {i j : ι} (hj : j ≠ i) (acks : Finset Scalar) :
    Scalar.str (fleet.id j) ∈ insert (Scalar.str (fleet.id i)) acks ↔
      Scalar.str (fleet.id j) ∈ acks := by
  have hne : fleet.id j ≠ fleet.id i := fun h => hj (fleet.injective h)
  simp [hne]

/-- The server takes an ACK from its queue and records it. -/
lemma OneToken.record (h : OneToken fleet s) {i : ι} {queue : List ι}
    (hpc : s.server = .receiving) (hsock : s.ackSock = some (i :: queue)) :
    OneToken fleet { s with
      ackSock := some queue
      receivedAcks := insert (.str (fleet.id i)) s.receivedAcks } where
  unbound hs := by
    change s.server.Unbound at hs
    rw [hpc] at hs
    exact hs.elim
  tokens hs j := by
    have htokens := h.tokens hs j
    unfold State.tokens at htokens ⊢
    rw [hsock, Option.getD_some] at htokens
    rw [Option.getD_some]
    by_cases hj : j = i
    · subst hj
      rw [List.count_cons_self] at htokens
      rw [if_pos (Finset.mem_insert_self ..)]
      -- the ACK was not recorded before: its device has one token only
      have hle : (s.device j).hasAcked.toNat ≤ 1 := Bool.toNat_le _
      show s.wire (.ack j) + _ + 1 = (s.device j).hasAcked.toNat
      omega
    · rw [List.count_cons_of_ne (Ne.symm hj)] at htokens
      simp only [mem_insert_id hj]
      exact htokens

/-- A device sends its ACK. -/
lemma OneToken.sendAck (h : OneToken fleet s) {i : ι} {len : Received}
    (hi : s.device i = .acking len) :
    OneToken fleet ((s.setDevice i (.acked len)).setWire (.ack i) (s.wire (.ack i) + 1)) where
  unbound := h.unbound
  tokens hs j := by
    have htokens := h.tokens hs j
    unfold State.tokens at htokens ⊢
    by_cases hj : j = i
    · subst hj
      rw [hi] at htokens
      rw [setWire_self, setWire_device, setDevice_self]
      show s.wire (.ack j) + 1 + (s.ackSock.getD []).count j + _ = 1
      change _ = 0 at htokens
      change _ + (if Scalar.str (fleet.id j) ∈ s.receivedAcks then 1 else 0) = 1
      omega
    · rw [setWire_ack_ne _ _ _ hj, setWire_device, setDevice_ne _ _ _ hj]
      exact htokens

/-- An ACK is delivered to the bound socket. -/
lemma OneToken.deliverAck (h : OneToken fleet s) {i : ι} {k : ℕ} (hi : s.wire (.ack i) = k + 1)
    (hsock : s.ackSock ≠ none) :
    OneToken fleet { s.setWire (.ack i) k with ackSock := s.ackSock.map (· ++ [i]) } where
  unbound hs := absurd (h.unbound hs).1 hsock
  tokens hs j := by
    have htokens := h.tokens hs j
    rcases Option.ne_none_iff_exists'.mp hsock with ⟨queue, hqueue⟩
    unfold State.tokens at htokens ⊢
    rw [hqueue, Option.getD_some] at htokens
    simp only [hqueue, Option.map_some, Option.getD_some, List.count_append]
    by_cases hj : j = i
    · subst hj
      rw [hi] at htokens
      rw [List.count_cons_self, List.count_nil]
      change (s.setWire (.ack j) k).wire (.ack j) + _ + _ = (s.device j).hasAcked.toNat
      rw [setWire_self, ← htokens]
      change k + _ + (if Scalar.str (fleet.id j) ∈ s.receivedAcks then 1 else 0) = _
      omega
    · rw [List.count_cons_of_ne (Ne.symm hj), List.count_nil, Nat.add_zero]
      change (s.setWire (.ack i) k).wire (.ack j) + _ + _ = (s.device j).hasAcked.toNat
      rw [setWire_ack_ne _ _ _ hj]
      exact htokens

/-- **Step lemma.** -/
lemma oneToken_step (h : OneToken fleet s) (hok : InTime s a) (hs : Step fleet s a s') :
    OneToken fleet s' := by
  cases hs with
  | record hpc hsock => exact h.record hpc hsock
  | sendAck hi => exact h.sendAck hi
  | ack hi => exact h.deliverAck hi hok
  | send _ hpc | sent hpc =>
    refine h.congr ?_ ?_ rfl rfl (fun _ => rfl) (fun _ => rfl) <;>
    · intro _
      rw [hpc]
      trivial
  | bindServer hpc =>
    -- the socket starts with an empty queue, and nothing has been recorded before
    rcases h.unbound (by rw [hpc]; trivial) with ⟨hsock, hacks⟩
    refine ⟨fun hs => hs.elim, fun _ i => ?_⟩
    have htokens := h.tokens (by rw [hpc]; trivial) i
    unfold State.tokens at htokens ⊢
    rw [hsock, hacks] at htokens
    exact htokens
  | decideOk | decideStop | close | timeOut =>
    exact ⟨fun hs => hs.elim, fun hs => hs.elim⟩
  | @bindDevice i success hi =>
    apply h.setDevice
    rw [hi]
    cases success <;> rfl
  | recvfrom hlen => exact h.setDevice (hasAcked_of_recvfrom hlen).symm
  | @command i c queue k hwire hi =>
    have hdiscard : OneToken fleet (s.setWire (.command i c) k) :=
      h.congr id id rfl rfl (fun j => setWire_command_ack s i j c k) (fun _ => rfl)
    apply hdiscard.setDevice
    rw [setWire_device, hi]
    rfl
  | @discard i c k hwire =>
    exact h.congr id id rfl rfl (fun j => setWire_command_ack s i j c k) (fun _ => rfl)

/-- **Run lemma.** -/
lemma oneToken_of_reachBy (h : ReachBy (step fleet) InTime start s) : OneToken fleet s :=
  h.invariant (fun _ _ _ hs hok ht => oneToken_step hs hok (step_cases ht)) oneToken_start

/-! ## A lost token -/

/-- Device `i` has sent its ACK, and nothing is left of it. -/
def Lost (fleet : Fleet ι) (i : ι) (s : State ι) : Prop :=
  (s.device i).hasAcked = true ∧ s.tokens fleet i = 0

lemma Lost.wire {i : ι} (h : Lost fleet i s) : s.wire (.ack i) = 0 := by
  have htokens := h.2
  unfold State.tokens at htokens
  omega

lemma Lost.not_mem {i : ι} (h : Lost fleet i s) : i ∉ s.ackSock.getD [] := by
  have htokens := h.2
  unfold State.tokens at htokens
  rw [← List.count_pos_iff]
  omega

/-- A device that has sent its ACK is not where a step of a device starts. -/
lemma Lost.setDevice {i j : ι} {d : DevicePc} (h : Lost fleet i s)
    (hj : (s.device j).hasAcked = false) : Lost fleet i (s.setDevice j d) := by
  have hne : i ≠ j := by
    intro hij
    rw [← hij, h.1] at hj
    cases hj
  refine ⟨?_, h.2⟩
  rw [setDevice_ne s j d hne]
  exact h.1

lemma Lost.setWire {i : ι} {p : Packet ι} {k : ℕ} (h : Lost fleet i s) (hp : p ≠ .ack i) :
    Lost fleet i (s.setWire p k) := by
  refine ⟨h.1, ?_⟩
  have htokens := h.2
  unfold State.tokens at htokens ⊢
  rw [setWire_ne s k (Ne.symm hp)]
  exact htokens

/-- A lost ACK stays lost: its device does not send another one. -/
lemma lost_step {i : ι} (h : Lost fleet i s) (hs : Step fleet s a s') : Lost fleet i s' := by
  have hwire := h.wire
  have hqueue := h.not_mem
  cases hs with
  | send | sent | decideOk | decideStop | timeOut => exact h
  | @record j queue hpc hsock =>
    rw [hsock, Option.getD_some, List.mem_cons, not_or] at hqueue
    refine ⟨h.1, ?_⟩
    have htokens := h.2
    unfold State.tokens at htokens ⊢
    rw [hsock, Option.getD_some, List.count_cons_of_ne (Ne.symm hqueue.1)] at htokens
    simp only [mem_insert_id hqueue.1]
    exact htokens
  | bindServer | close =>
    refine ⟨h.1, ?_⟩
    have htokens := h.2
    unfold State.tokens at htokens ⊢
    simp only [Option.getD_some, Option.getD_none, List.count_nil, Finset.notMem_empty, if_false]
    omega
  | bindDevice hi =>
    apply h.setDevice
    rw [hi]
    rfl
  | recvfrom hlen => exact h.setDevice (hasAcked_of_recvfrom hlen)
  | @sendAck j len hj =>
    -- the device of the lost ACK has sent it, so this is another device
    have hacking : (s.device j).hasAcked = false := by
      rw [hj]
      rfl
    apply (h.setDevice hacking).setWire
    intro heq
    rw [Packet.ack.injEq] at heq
    rw [heq, h.1] at hacking
    cases hacking
  | @command j c queue k _ hj =>
    refine (h.setWire (k := k) (by simp : Packet.command j c ≠ .ack i)).setDevice ?_
    rw [setWire_device, hj]
    rfl
  | discard => exact h.setWire (by simp)
  | @ack j k hj =>
    -- no copy of the lost ACK is in flight, so this is the ACK of another device
    have hne : j ≠ i := by
      intro hij
      rw [hij, hwire] at hj
      cases hj
    refine ⟨h.1, ?_⟩
    have htokens := h.2
    have hcount : ((s.ackSock.map (· ++ [j])).getD []).count i = (s.ackSock.getD []).count i := by
      cases s.ackSock <;> simp [hne]
    unfold State.tokens at htokens ⊢
    show (s.setWire (.ack j) k).wire (.ack i) + ((s.ackSock.map (· ++ [j])).getD []).count i + _ = 0
    rw [setWire_ack_ne _ _ _ (Ne.symm hne), hcount]
    exact htokens

/-- The server does not return to its receive loop. -/
lemma beforeDecision_step (hs : Step fleet s a s') (h : s'.server.BeforeDecision) :
    s.server.BeforeDecision := by
  cases hs with
  | send _ hpc | sent hpc | bindServer hpc | timeOut hpc =>
    rw [hpc]
    trivial
  | decideOk | decideStop | close => exact h.elim
  | record | bindDevice | recvfrom | sendAck | command | discard
  | ack => exact h

lemma beforeDecision_of_reach {t : State ι} (h : Reach (step fleet) s t)
    (ht : t.server.BeforeDecision) : s.server.BeforeDecision :=
  h.invariant (I := fun u => u.server.BeforeDecision → s.server.BeforeDecision)
    (fun _ _ _ hu hv hbefore => hu (beforeDecision_step (step_cases hv) hbefore)) id ht

/-- Delivering an ACK to the unbound port loses it. -/
lemma lost_of_not_inTime (h : OneToken fleet s) (hok : ¬ InTime s a) (hs : Step fleet s a s')
    (hbefore : s'.server.BeforeDecision) : ∃ i, Lost fleet i s' := by
  cases hs with
  | @ack i k hi =>
    have hsock : s.ackSock = none := not_not.mp hok
    have htokens := h.tokens hbefore i
    have hle : (s.device i).hasAcked.toNat ≤ 1 := Bool.toNat_le _
    unfold State.tokens at htokens
    rw [hsock, hi] at htokens
    refine ⟨i, ?_, ?_⟩
    · -- the copy in flight is the token of a device that has sent its ACK
      show (s.device i).hasAcked = true
      rw [← Bool.toNat_eq_one]
      omega
    · unfold State.tokens
      rw [hsock]
      change (s.setWire (.ack i) k).wire (.ack i) + 0 +
        (if Scalar.str (fleet.id i) ∈ s.receivedAcks then 1 else 0) = 0
      rw [setWire_self]
      rw [Option.getD_none, List.count_nil] at htokens
      omega
  | _ => exact absurd trivial hok

/-- **No ACK lost.** On a reliable network, whatever the order of all steps up to the end of
the receive loop, every ACK sent is in flight, queued in `ack_sock` or recorded exactly if
none has been delivered before `ack_sock` was bound. -/
theorem no_ack_lost_iff (fleet : Fleet ι) {as : List (Action ι)} {s : State ι}
    (h : exec (step fleet) start as = some s) (hs : s.server.BeforeDecision) :
    NoAckLost fleet s ↔ Along (step fleet) InTime start as := by
  apply Iff.intro
  · intro hkept
    by_contra hlate
    -- the first delivery to the unbound port loses an ACK, and it stays lost
    rcases exists_violation h hlate with ⟨u, a, v, hu, hok, hv, hvs⟩
    obtain ⟨i, hi⟩ := lost_of_not_inTime (oneToken_of_reachBy hu) hok (step_cases hv)
      (beforeDecision_of_reach hvs hs)
    have hlost : Lost fleet i s :=
      hvs.invariant (fun _ _ _ hw hx => lost_step hw (step_cases hx)) hi
    have hpos := kept_iff.mp (hkept i hlost.1)
    rw [hlost.2] at hpos
    omega
  · intro hok i hi
    have htokens := (oneToken_of_reachBy ⟨as, h, hok⟩).tokens hs i
    rw [hi] at htokens
    rw [kept_iff, htokens]
    decide

/-- The ACK of the device is delivered after the server has bound `ack_sock`. -/
def ackAfterBind : List (Action Unit) :=
  [.bind () true, .server, .deliver (.command () .first), .recvfrom () .datagram,
    .sendAck (), .server, .server, .server, .server, .deliver (.ack ()), .server]

theorem no_ack_lost_ackAfterBind : ∃ s, exec (step singleDevice) start ackAfterBind = some s ∧
    (s.device ()).hasAcked = true ∧ NoAckLost singleDevice s := by
  have hrun : (exec (step singleDevice) start ackAfterBind).map
      (fun s => (s.server, (s.device ()).hasAcked)) = some (.receiving, true) := by decide
  rcases Option.map_eq_some_iff.mp hrun with ⟨s, hs, hview⟩
  rcases Prod.mk.inj hview with ⟨hpc, hacked⟩
  refine ⟨s, hs, hacked, (no_ack_lost_iff singleDevice hs ?_).mpr (by decide)⟩
  rw [hpc]
  trivial

/-- The device acknowledges the first broadcast while the server is still sleeping. -/
def ackBeforeBind : List (Action Unit) :=
  [.bind () true, .server, .deliver (.command () .first), .recvfrom () .datagram,
    .sendAck (), .deliver (.ack ())]

/-- An ACK can be lost. -/
theorem ack_lost_ackBeforeBind : ¬ ∀ s : State Unit,
    Reach (step singleDevice) start s → s.server.BeforeDecision → NoAckLost singleDevice s := by
  intro hall
  have hrun : (exec (step singleDevice) start ackBeforeBind).map
      (fun s => (s.server, (s.device ()).hasAcked, s.tokens singleDevice ())) =
      some (.sending 1, true, 0) := by decide
  rcases Option.map_eq_some_iff.mp hrun with ⟨s, hs, hview⟩
  simp only [Prod.mk.injEq] at hview
  rcases hview with ⟨hpc, hacked, htokens⟩
  have hbefore : s.server.BeforeDecision := by
    rw [hpc]
    trivial
  have hpos := kept_iff.mp (hall s ⟨_, hs⟩ hbefore () hacked)
  omega

end UdpAck
end EspLab
