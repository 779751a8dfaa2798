import Mathlib.Algebra.Order.Ring.Unbundled.Rat
import Mathlib.Data.Finset.Insert
import Mathlib.Data.Finset.Filter
import Mathlib.Data.Int.Notation
import Mathlib.Data.Nat.Notation

/-!
# The server's ACK phase

`UDP_test_2/server/server.py` from the creation of `received_acks` to the decision (the older
`UDP_test/server/server.py` has the same loop): the values `json.loads` returns, what the
loop does with one datagram, the loop, and the decision.

`bytes.decode`, `json.loads` and `print` are the interpreter's; they are parameters that may
return or raise anything.
-/

namespace EspLab
namespace UdpAck

/-! ## Values -/

/-- A `str`: a sequence of code points, which need not be Unicode scalar values. -/
abbrev PyStr := List UInt32

/-- A string literal. -/
def pyStr (s : String) : PyStr := s.toList.map Char.val

/-- The hashable values among those of `json.loads`; a float is its 64-bit pattern. Python
also identifies `1`, `1.0` and `True`, which are apart here: only strings are ever compared. -/
inductive Scalar
  | none
  | bool (b : Bool)
  | int (n : ℤ)
  | float (bits : UInt64)
  | str (s : PyStr)
deriving DecidableEq

/-- A value of `json.loads`; `object` is a `dict`, so its keys are distinct. -/
inductive Json
  | scalar (v : Scalar)
  | array (items : List Json)
  | object (members : List (PyStr × Json))

/-- The exceptions the loop body can raise. -/
inductive PyErr
  | unicodeDecodeError
  | jsonDecodeError
  | recursionError
  | unicodeEncodeError
  | attributeError
  | typeError
deriving DecidableEq

/-- `bool(value)`; both float zeros are false. -/
def Json.truthy : Json → Bool
  | .scalar .none => false
  | .scalar (.bool b) => b
  | .scalar (.int n) => n ≠ 0
  | .scalar (.float bits) => bits ≠ 0 ∧ bits ≠ 0x8000000000000000
  | .scalar (.str s) => s ≠ []
  | .array items => !items.isEmpty
  | .object members => !members.isEmpty

/-- `message.get(key)`: only a `dict` has the method, and a missing key gives `None`. -/
def Json.get (key : PyStr) : Json → Except PyErr Json
  | .object members => .ok ((members.lookup key).getD (.scalar .none))
  | .scalar _ | .array _ => .error .attributeError

/-- `received_acks.add(device_id)`: lists and dicts are not hashable. -/
def add (acks : Finset Scalar) : Json → Except PyErr (Finset Scalar)
  | .scalar v => .ok (insert v acks)
  | .array _ | .object _ => .error .typeError

/-! ## The loop -/

/-- What the loop calls: `bytes.decode`, `json.loads` and the `print` of a message. -/
structure Python where
  decode : List UInt8 → Except PyErr PyStr
  loads : PyStr → Except PyErr Json
  print : Json → Except PyErr Unit

/-- `json.loads(data.decode())` -/
def Python.parse (py : Python) (data : List UInt8) : Except PyErr Json :=
  py.decode data >>= py.loads

/-- `device_id = message.get("id")`, and its recording. -/
def recordAck (message : Json) (acks : Finset Scalar) : Except PyErr (Finset Scalar) := do
  let deviceId ← message.get (pyStr "id")
  if deviceId.truthy then add acks deviceId else return acks

/-- The loop body after `recvfrom`. -/
def handleDatagram (py : Python) (acks : Finset Scalar) (data : List UInt8) :
    Except PyErr (Finset Scalar) := do
  let message ← py.parse data
  py.print message
  recordAck message acks

/-- A datagram reaching port 3333: when, and how long the loop body will take for it. Times
are in seconds from `start_time`. -/
structure Arrival where
  time : ℚ
  data : List UInt8
  processing : ℚ

/-- The loop's time limit and the socket's timeout. -/
def ackWindow : ℚ := 1 / 2
def recvTimeout : ℚ := 1 / 2

/-- `recvfrom(1024)` cuts a longer datagram off. -/
def Arrival.received (a : Arrival) : List UInt8 := a.data.take 1024

/-- The ACK loop from time `now` on. `recvfrom` returns the next datagram when it arrives
before the timeout, else the loop breaks. -/
def ackLoop (py : Python) : ℚ → List Arrival → Finset Scalar → Except PyErr (Finset Scalar)
  | _, [], acks => .ok acks
  | now, a :: as, acks =>
      if now < ackWindow then
        if a.time ≤ now + recvTimeout then do
          let acks ← handleDatagram py acks a.received
          ackLoop py (max now a.time + a.processing) as acks
        else .ok acks
      else .ok acks

/-- The datagrams that `recvfrom` returns, as long as nothing is raised. -/
def received : ℚ → List Arrival → List (List UInt8)
  | _, [] => []
  | now, a :: as =>
      if now < ackWindow ∧ a.time ≤ now + recvTimeout then
        a.received :: received (max now a.time + a.processing) as
      else []

/-! ## The decision -/

/-- `EXPECTED_IDS` -/
def expectedIds : List PyStr := [pyStr "ESP32_A", pyStr "ESP32_B", pyStr "ESP32_C"]

/-- `missing = EXPECTED_IDS - received_acks` -/
def missing (acks : Finset Scalar) : List PyStr := expectedIds.filter fun id => .str id ∉ acks

/-- What the server ends with: the broadcast of the stop command, or `[OK]`. -/
inductive Decision
  | stop (missing : List PyStr)
  | ok
deriving DecidableEq

/-- `if missing:` -/
def decision (acks : Finset Scalar) : Decision :=
  match missing acks with
  | [] => .ok
  | id :: ids => .stop (id :: ids)

/-- The ACK phase and the decision. -/
def serve (py : Python) (as : List Arrival) : Except PyErr Decision := do
  let acks ← ackLoop py 0 as ∅
  return decision acks

end UdpAck
end EspLab
