import EspLab.UdpAck.Server
import EspLab.Lib.Transition
import Mathlib.Logic.Function.Basic

/-!
# The start/ACK protocol

`UDP_test_2/server/server.py` and any number of devices running `app_main` of
`UDP_test_2/main/main.c`, over a datagram network. The server broadcasts `start` three times,
only then binds `ack_sock`, collects ACKs, and stops the devices if an expected one is
missing. A device waits for one datagram and sends one ACK.

The network holds the datagrams in flight and may deliver them in any order; a datagram
delivered to a port without a bound socket is gone. `Fault` adds what an unreliable network
and repeated runs of the server do.
-/

namespace EspLab
namespace UdpAck

open Transition

/-- The devices, each built with its own id. -/
structure Fleet (ι : Type*) where
  id : ι → PyStr
  injective : Function.Injective id
  nonempty : ∀ i, id i ≠ []

/-! ## Datagrams -/

/-- What the server broadcasts to port 12345. -/
inductive Command
  | start (seq : Fin 3)
  | stop
deriving DecidableEq

/-- The first broadcast. -/
def Command.first : Command := .start 0

/-- `session_id` -/
def sessionId : ℤ := 42

/-- `[10000, 9950, 9900]` -/
def delayMs (seq : Fin 3) : ℤ := 10000 - 50 * seq

/-- The body of a broadcast. -/
def Command.payload : Command → Json
  | .start seq => .object [
      (pyStr "cmd", .scalar (.str (pyStr "start"))),
      (pyStr "seq", .scalar (.int seq)),
      (pyStr "delay_ms", .scalar (.int (delayMs seq))),
      (pyStr "session", .scalar (.int sessionId))]
  | .stop => .object [
      (pyStr "cmd", .scalar (.str (pyStr "stop"))),
      (pyStr "reason", .scalar (.str (pyStr "missing_acks"))),
      (pyStr "session", .scalar (.int sessionId))]

/-- `ack_msg` -/
def ackMsg (id : PyStr) : Json :=
  .object [(pyStr "id", .scalar (.str id)), (pyStr "status", .scalar (.str (pyStr "ack")))]

/-- A datagram in flight: the copy of a broadcast for one device, or the ACK of a device. -/
inductive Packet (ι : Type*)
  | command (i : ι) (c : Command)
  | ack (i : ι)
deriving DecidableEq

/-! ## States -/

/-- Where the server is. -/
inductive ServerPc
  /-- `for seq, delay in enumerate(..)`: before the broadcast of `start` number `seq` -/
  | sending (seq : ℕ)
  /-- before `ack_sock.bind(("", ACK_PORT))` -/
  | bind
  /-- in the ACK loop -/
  | receiving
  /-- before `if missing:` -/
  | deciding
  /-- before `ack_sock.close()` -/
  | closing (d : Decision)
  /-- the end of the program -/
  | closed (d : Decision)
  /-- ended by an exception -/
  | raised (e : PyErr)
deriving DecidableEq

/-- What `recvfrom` gave a device: `len < 0`, `len == 0` or a datagram of the server. -/
inductive Received
  | error
  | empty
  | command (c : Command)
deriving DecidableEq

/-- Where a device is. -/
inductive DevicePc
  /-- before `bind(sock, ..)` to port 12345 -/
  | booting
  /-- before `recvfrom`, with the datagrams its socket holds -/
  | waiting (queue : List Command)
  /-- before `sendto` -/
  | acking (len : Received)
  /-- the end of `app_main` -/
  | acked (len : Received)
  /-- `setsockopt failed` or `bind failed` -/
  | failed
deriving DecidableEq

/-- The server with the queue of `ack_sock` once it is bound, the devices, and how many
copies of each datagram are in flight. -/
structure State (ι : Type*) where
  server : ServerPc
  ackSock : Option (List ι)
  receivedAcks : Finset Scalar
  device : ι → DevicePc
  wire : Packet ι → ℕ

/-- The device has sent its ACK. -/
def DevicePc.hasAcked : DevicePc → Bool
  | .acked _ => true
  | _ => false

/-- What `recvfrom` does on a device. -/
inductive Outcome
  | error
  | empty
  | datagram
deriving DecidableEq

/-- What happens next. -/
inductive Action (ι : Type*)
  /-- the server runs its next statement, or its `recvfrom` returns -/
  | server
  /-- the time limit of the ACK loop, or the timeout of its `recvfrom` -/
  | timeOut
  /-- a device reaches its `bind`, which succeeds or not -/
  | bind (i : ι) (success : Bool)
  | recvfrom (i : ι) (outcome : Outcome)
  | sendAck (i : ι)
  | deliver (p : Packet ι)

/-- What else happens on an unreliable network with a server that is run again. -/
inductive Fault (ι : Type*)
  | lose (p : Packet ι)
  | duplicate (p : Packet ι)
  /-- `server.py` is started, after the previous run has ended or has been killed -/
  | restart

variable {ι : Type*}

/-! ## Steps -/

/-- `broadcast_sock.sendto(data, (BROADCAST_IP, START_PORT))` -/
def State.broadcast (s : State ι) (c : Command) : State ι :=
  { s with wire := fun
      | .command i c' => s.wire (.command i c') + if c' = c then 1 else 0
      | .ack i => s.wire (.ack i) }

/-- One step of the server. An ACK of a device decodes and parses to `ackMsg`. -/
def serverStep (fleet : Fleet ι) (s : State ι) : Option (State ι) :=
  match s.server with
  | .sending seq =>
      if h : seq < 3 then some { s.broadcast (.start ⟨seq, h⟩) with server := .sending (seq + 1) }
      else some { s with server := .bind }
  | .bind => some { s with ackSock := some [], receivedAcks := ∅, server := .receiving }
  | .receiving =>
      match s.ackSock with
      | some (i :: queue) =>
          match recordAck (ackMsg (fleet.id i)) s.receivedAcks with
          | .ok acks => some { s with ackSock := some queue, receivedAcks := acks }
          | .error e => some { s with ackSock := none, server := .raised e }
      -- `recvfrom` blocks
      | some [] | none => none
  | .deciding =>
      match decision s.receivedAcks with
      | .ok => some { s with server := .closing .ok }
      | .stop ids => some { s.broadcast .stop with server := .closing (.stop ids) }
  | .closing d => some { s with ackSock := none, server := .closed d }
  | .closed _ | .raised _ => none

/-- The time limit of the loop has passed, or no datagram came before the timeout. -/
def serverTimeOut (s : State ι) : Option (State ι) :=
  match s.server with
  | .receiving => some { s with server := .deciding }
  | _ => none

variable [DecidableEq ι]

/-- The state with device `i` changed. -/
def State.setDevice (s : State ι) (i : ι) (d : DevicePc) : State ι :=
  { s with device := Function.update s.device i d }

/-- The state with `k` copies of `p` in flight. -/
def State.setWire (s : State ι) (p : Packet ι) (k : ℕ) : State ι :=
  { s with wire := Function.update s.wire p k }

/-- `bind(sock, ..)` -/
def deviceBind (s : State ι) (i : ι) (success : Bool) : Option (State ι) :=
  match s.device i with
  | .booting => some (s.setDevice i (if success then .waiting [] else .failed))
  | _ => none

/-- What `recvfrom(sock, ..)` returns; it blocks while the socket holds nothing. -/
def recvfrom : DevicePc → Outcome → Option Received
  | .waiting _, .error => some .error
  | .waiting _, .empty => some .empty
  | .waiting queue, .datagram => queue.head?.map .command
  | _, _ => none

/-- `len = recvfrom(sock, ..)` -/
def deviceRecvfrom (s : State ι) (i : ι) (outcome : Outcome) : Option (State ι) :=
  (recvfrom (s.device i) outcome).map fun len => s.setDevice i (.acking len)

/-- `sendto(sock, ack_msg, ..)`, whatever `len` was. -/
def deviceSendAck (s : State ι) (i : ι) : Option (State ι) :=
  match s.device i with
  | .acking len =>
      some ((s.setDevice i (.acked len)).setWire (.ack i) (s.wire (.ack i) + 1))
  | _ => none

/-- The datagram reaches its port. A device reads no more after its `recvfrom`. -/
def receive (s : State ι) : Packet ι → State ι
  | .command i c =>
      match s.device i with
      | .waiting queue => s.setDevice i (.waiting (queue ++ [c]))
      -- no socket is bound, or nobody will read it
      | _ => s
  | .ack i => { s with ackSock := s.ackSock.map (· ++ [i]) }

/-- The network delivers one copy. -/
def deliver (s : State ι) (p : Packet ι) : Option (State ι) :=
  match s.wire p with
  | 0 => none
  | k + 1 => some (receive (s.setWire p k) p)

/-- A step of one run of the server on a reliable network. -/
def step (fleet : Fleet ι) (s : State ι) : Action ι → Option (State ι)
  | .server => serverStep fleet s
  | .timeOut => serverTimeOut s
  | .bind i success => deviceBind s i success
  | .recvfrom i outcome => deviceRecvfrom s i outcome
  | .sendAck i => deviceSendAck s i
  | .deliver p => deliver s p

/-- A fault of the network, or the start of another run of the server. -/
def faultStep (s : State ι) : Fault ι → Option (State ι)
  | .lose p =>
      match s.wire p with
      | 0 => none
      | k + 1 => some (s.setWire p k)
  | .duplicate p =>
      match s.wire p with
      | 0 => none
      | k + 1 => some (s.setWire p (k + 2))
  | .restart => some { s with server := .sending 0, ackSock := none, receivedAcks := ∅ }

/-- A step of repeated runs of the server on an unreliable network. -/
def faultyStep (fleet : Fleet ι) (s : State ι) : Action ι ⊕ Fault ι → Option (State ι)
  | .inl a => step fleet s a
  | .inr fault => faultStep s fault

/-- The server is started, and no device has been started yet. -/
def start : State ι where
  server := .sending 0
  ackSock := none
  receivedAcks := ∅
  device _ := .booting
  wire _ := 0

/-- The one device that is in the source. -/
def singleDevice : Fleet Unit where
  id _ := pyStr "ESP32_A"
  injective _ _ _ := rfl
  nonempty _ := by decide

/-! ## What a step can do -/

section Frame

variable (s : State ι) (i j : ι) (d : DevicePc) (c : Command) (k : ℕ)

@[simp] lemma setDevice_self : (s.setDevice i d).device i = d := Function.update_self ..

lemma setDevice_ne {j : ι} (h : j ≠ i) : (s.setDevice i d).device j = s.device j :=
  Function.update_of_ne h ..

@[simp] lemma setWire_self (p : Packet ι) : (s.setWire p k).wire p = k := Function.update_self ..

lemma setWire_ne {p q : Packet ι} (h : q ≠ p) : (s.setWire p k).wire q = s.wire q := by
  unfold State.setWire
  exact Function.update_of_ne h k s.wire

@[simp] lemma setWire_command_ack :
    (s.setWire (.command i c) k).wire (.ack j) = s.wire (.ack j) :=
  setWire_ne s k (by simp)

lemma setWire_ack_ne {j : ι} (h : j ≠ i) :
    (s.setWire (.ack i) k).wire (.ack j) = s.wire (.ack j) :=
  setWire_ne s k (by simpa using h)

@[simp] lemma setWire_device (p : Packet ι) : (s.setWire p k).device = s.device := rfl

end Frame

lemma truthy_str {id : PyStr} (h : id ≠ []) : (Json.scalar (.str id)).truthy = true := by
  simpa [Json.truthy] using h

/-- The server records the ACK of a device. -/
lemma recordAck_ackMsg {id : PyStr} (h : id ≠ []) (acks : Finset Scalar) :
    recordAck (ackMsg id) acks = .ok (insert (.str id) acks) := by
  show (if (Json.scalar (.str id)).truthy then add acks (.scalar (.str id)) else .ok acks) = _
  rw [if_pos (truthy_str h)]
  rfl

/-- Only a device that has not sent its ACK calls `recvfrom`. -/
lemma hasAcked_of_recvfrom {d : DevicePc} {outcome : Outcome} {len : Received}
    (h : recvfrom d outcome = some len) : d.hasAcked = false := by
  cases d with
  | waiting queue => rfl
  | booting | acking | acked | failed => cases h

/-- The steps of one run of the server on a reliable network. -/
inductive Step (fleet : Fleet ι) (s : State ι) : Action ι → State ι → Prop
  | send {seq : ℕ} (h : seq < 3) : s.server = .sending seq →
      Step fleet s .server
        { s.broadcast (.start ⟨seq, h⟩) with server := .sending (seq + 1) }
  | sent {seq : ℕ} : s.server = .sending seq → Step fleet s .server { s with server := .bind }
  | bindServer : s.server = .bind → Step fleet s .server
      { s with ackSock := some [], receivedAcks := ∅, server := .receiving }
  | record {i : ι} {queue : List ι} : s.server = .receiving → s.ackSock = some (i :: queue) →
      Step fleet s .server { s with
        ackSock := some queue
        receivedAcks := insert (.str (fleet.id i)) s.receivedAcks }
  | decideOk : s.server = .deciding → decision s.receivedAcks = .ok →
      Step fleet s .server { s with server := .closing .ok }
  | decideStop {ids : List PyStr} : s.server = .deciding → decision s.receivedAcks = .stop ids →
      Step fleet s .server { s.broadcast .stop with server := .closing (.stop ids) }
  | close {d : Decision} : s.server = .closing d →
      Step fleet s .server { s with ackSock := none, server := .closed d }
  | timeOut : s.server = .receiving → Step fleet s .timeOut { s with server := .deciding }
  | bindDevice {i : ι} {success : Bool} : s.device i = .booting →
      Step fleet s (.bind i success) (s.setDevice i (if success then .waiting [] else .failed))
  | recvfrom {i : ι} {outcome : Outcome} {len : Received} :
      recvfrom (s.device i) outcome = some len →
      Step fleet s (.recvfrom i outcome) (s.setDevice i (.acking len))
  | sendAck {i : ι} {len : Received} : s.device i = .acking len → Step fleet s (.sendAck i)
      ((s.setDevice i (.acked len)).setWire (.ack i) (s.wire (.ack i) + 1))
  | command {i : ι} {c : Command} {queue : List Command} {k : ℕ} :
      s.wire (.command i c) = k + 1 → s.device i = .waiting queue →
      Step fleet s (.deliver (.command i c))
        ((s.setWire (.command i c) k).setDevice i (.waiting (queue ++ [c])))
  | discard {i : ι} {c : Command} {k : ℕ} : s.wire (.command i c) = k + 1 →
      Step fleet s (.deliver (.command i c)) (s.setWire (.command i c) k)
  | ack {i : ι} {k : ℕ} : s.wire (.ack i) = k + 1 → Step fleet s (.deliver (.ack i))
      { s.setWire (.ack i) k with ackSock := s.ackSock.map (· ++ [i]) }

lemma serverStep_cases {fleet : Fleet ι} {s s' : State ι} (h : serverStep fleet s = some s') :
    Step fleet s .server s' := by
  unfold serverStep at h
  split at h <;> rename_i hpc
  · split at h <;> rename_i hseq <;> cases h
    · exact .send hseq hpc
    · exact .sent hpc
  · cases h
    exact .bindServer hpc
  · split at h
    · rename_i i queue hsock
      rw [recordAck_ackMsg (fleet.nonempty i)] at h
      cases h
      exact .record hpc hsock
    all_goals cases h
  · split at h <;> rename_i hdecision <;> cases h
    · exact .decideOk hpc hdecision
    · exact .decideStop hpc hdecision
  · cases h
    exact .close hpc
  all_goals cases h

lemma deliver_cases {fleet : Fleet ι} {s s' : State ι} {p : Packet ι} (h : deliver s p = some s') :
    Step fleet s (.deliver p) s' := by
  unfold deliver at h
  split at h <;> rename_i hwire
  · cases h
  · cases h
    cases p with
    | ack i => exact .ack hwire
    | command i c =>
      simp only [receive, setWire_device]
      split
      · rename_i hdevice
        exact .command hwire hdevice
      · exact .discard hwire

/-- **Step inversion.** -/
theorem step_cases {fleet : Fleet ι} {s s' : State ι} {a : Action ι}
    (h : step fleet s a = some s') : Step fleet s a s' := by
  cases a with
  | server => exact serverStep_cases h
  | timeOut =>
    change serverTimeOut s = some s' at h
    unfold serverTimeOut at h
    split at h <;> cases h
    exact .timeOut ‹_›
  | bind i success =>
    change deviceBind s i success = some s' at h
    unfold deviceBind at h
    split at h <;> cases h
    exact .bindDevice ‹_›
  | recvfrom i outcome =>
    change deviceRecvfrom s i outcome = some s' at h
    rcases Option.map_eq_some_iff.mp h with ⟨len, hlen, rfl⟩
    exact .recvfrom hlen
  | sendAck i =>
    change deviceSendAck s i = some s' at h
    unfold deviceSendAck at h
    split at h <;> cases h
    exact .sendAck ‹_›
  | deliver p => exact deliver_cases h

/-- The faults of an unreliable network with a server that is run again. -/
inductive FaultStep (s : State ι) : Fault ι → State ι → Prop
  | lose {p : Packet ι} {k : ℕ} : s.wire p = k + 1 → FaultStep s (.lose p) (s.setWire p k)
  | duplicate {p : Packet ι} {k : ℕ} : s.wire p = k + 1 →
      FaultStep s (.duplicate p) (s.setWire p (k + 2))
  | restart : FaultStep s .restart
      { s with server := .sending 0, ackSock := none, receivedAcks := ∅ }

lemma faultStep_cases {s s' : State ι} {fault : Fault ι} (h : faultStep s fault = some s') :
    FaultStep s fault s' := by
  unfold faultStep at h
  split at h
  · split at h <;> cases h
    exact .lose ‹_›
  · split at h <;> cases h
    exact .duplicate ‹_›
  · cases h
    exact .restart

end UdpAck
end EspLab
