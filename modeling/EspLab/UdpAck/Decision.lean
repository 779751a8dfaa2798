import EspLab.UdpAck.Server
import EspLab.Lib.Fold
import Mathlib.Tactic.NormNum

/-!
# When the server reaches its decision

`except socket.timeout` is the only handler of the loop, so a datagram that cannot be decoded
or parsed, that is not an object, or whose `"id"` is not hashable ends the program before the
decision. Without such datagrams the decision depends only on which ids have been sent.
-/

namespace EspLab
namespace UdpAck

open Fold

/-! ## One datagram -/

/-- The datagram is a JSON object. -/
def Python.isObject (py : Python) (data : List UInt8) : Bool :=
  match py.parse data with
  | .ok (.object _) => true
  | _ => false

/-- The datagram is a JSON object whose `"id"` is the string `id`. -/
def Python.HasId (py : Python) (data : List UInt8) (id : PyStr) : Prop :=
  ∃ members, py.parse data = .ok (.object members) ∧
    members.lookup (pyStr "id") = some (.scalar (.str id))

/-- The datagram is a JSON object whose `"id"` is the true value `v`. -/
def Python.Records (py : Python) (data : List UInt8) (v : Scalar) : Prop :=
  ∃ members, py.parse data = .ok (.object members) ∧
    members.lookup (pyStr "id") = some (.scalar v) ∧ (Json.scalar v).truthy = true

/-- The value can be put in a set. -/
def Json.Hashable : Json → Prop
  | .scalar _ => True
  | .array _ | .object _ => False

/-- The datagram is a JSON object that can be printed and whose `"id"`, when it is there and
not false, can be put in a set. -/
def Python.Harmless (py : Python) (data : List UInt8) : Prop :=
  ∃ members, py.parse data = .ok (.object members) ∧ py.print (.object members) = .ok () ∧
    ∀ id, members.lookup (pyStr "id") = some id → id.truthy = true → id.Hashable

variable {py : Python} {data : List UInt8} {acks acks' : Finset Scalar}

lemma exists_add_eq_ok {id : Json} : (∃ acks', add acks id = .ok acks') ↔ id.Hashable := by
  cases id with
  | scalar v => exact ⟨fun _ => trivial, fun _ => ⟨_, rfl⟩⟩
  | array | object =>
    apply Iff.intro
    · intro ⟨acks', h⟩
      cases h
    · intro h
      exact h.elim

lemma recordAck_object (members : List (PyStr × Json)) (acks : Finset Scalar) :
    recordAck (.object members) acks =
      if ((members.lookup (pyStr "id")).getD (.scalar .none)).truthy then
        add acks ((members.lookup (pyStr "id")).getD (.scalar .none)) else .ok acks := rfl

/-- The loop body raises nothing exactly on a harmless datagram, whatever is recorded. -/
lemma exists_handleDatagram_eq_ok :
    (∃ acks', handleDatagram py acks data = .ok acks') ↔ py.Harmless data := by
  apply Iff.intro
  · intro ⟨acks', h⟩
    rcases bind_eq_ok.mp h with ⟨message, hmessage, h⟩
    rcases bind_eq_ok.mp h with ⟨⟨⟩, hprint, h⟩
    cases message with
    | scalar | array =>
      -- only a dict has a `get`
      rcases bind_eq_ok.mp h with ⟨_, hget, -⟩
      cases hget
    | object members =>
      refine ⟨members, hmessage, hprint, fun id hid htrue => ?_⟩
      rw [recordAck_object, hid, Option.getD_some, if_pos htrue] at h
      exact exists_add_eq_ok.mp ⟨acks', h⟩
  · intro ⟨members, hmessage, hprint, hhash⟩
    suffices hrecord : ∃ acks', recordAck (.object members) acks = .ok acks' by
      rcases hrecord with ⟨acks', h⟩
      exact ⟨acks', bind_eq_ok.mpr ⟨_, hmessage, bind_eq_ok.mpr ⟨(), hprint, h⟩⟩⟩
    rw [recordAck_object]
    cases hid : members.lookup (pyStr "id") with
    | none => exact ⟨acks, rfl⟩
    | some id =>
      rw [Option.getD_some]
      by_cases htrue : id.truthy = true
      · rw [if_pos htrue]
        exact exists_add_eq_ok.mpr (hhash id hid htrue)
      · rw [if_neg htrue]
        exact ⟨acks, rfl⟩

/-- What a datagram records: its `"id"`, if that is true and hashable. -/
lemma mem_handleDatagram_scalar {v : Scalar} (h : handleDatagram py acks data = .ok acks') :
    v ∈ acks' ↔ v ∈ acks ∨ py.Records data v := by
  rcases bind_eq_ok.mp h with ⟨message, hmessage, h⟩
  rcases bind_eq_ok.mp h with ⟨⟨⟩, hprint, h⟩
  cases message with
  | scalar | array =>
    rcases bind_eq_ok.mp h with ⟨_, hget, -⟩
    cases hget
  | object members =>
    have hrecords : py.Records data v ↔
        members.lookup (pyStr "id") = some (.scalar v) ∧ (Json.scalar v).truthy = true := by
      apply Iff.intro
      · intro ⟨members', hmembers, hlookup⟩
        rw [hmessage] at hmembers
        cases hmembers
        exact hlookup
      · exact fun hlookup => ⟨members, hmessage, hlookup⟩
    rw [recordAck_object] at h
    rw [hrecords]
    cases hid : members.lookup (pyStr "id") with
    | none =>
      rw [hid] at h
      cases h
      simp
    | some w =>
      rw [hid, Option.getD_some] at h
      by_cases htrue : w.truthy = true
      · rw [if_pos htrue] at h
        cases w with
        | scalar w =>
          cases h
          rw [Finset.mem_insert, or_comm, Option.some_inj, Json.scalar.injEq, eq_comm]
          apply or_congr_right
          exact (and_iff_left_of_imp fun heq => heq ▸ htrue).symm
        | array | object => cases h
      · -- a value that is not recorded is no true one
        rw [if_neg htrue] at h
        cases h
        rw [or_iff_left]
        intro ⟨heq, hv⟩
        rw [Option.some.inj heq] at htrue
        exact htrue hv

/-- What a datagram records of the non-empty strings: its `"id"`. -/
lemma mem_handleDatagram {id : PyStr} (hne : id ≠ [])
    (h : handleDatagram py acks data = .ok acks') :
    .str id ∈ acks' ↔ .str id ∈ acks ∨ py.HasId data id := by
  have htrue : (Json.scalar (.str id)).truthy = true := by simpa [Json.truthy] using hne
  rw [mem_handleDatagram_scalar h]
  apply or_congr_right
  simp only [Python.Records, Python.HasId, htrue, and_true]

/-! ## The loop and the decision -/

/-- The loop handles the datagrams it receives, one after the other. -/
lemma ackLoop_eq_foldlM (py : Python) (now : ℚ) (as : List Arrival) (acks : Finset Scalar) :
    ackLoop py now as acks = (received now as).foldlM (handleDatagram py) acks := by
  induction as generalizing now acks with
  | nil => rfl
  | cons a as ih =>
    rw [ackLoop, received]
    by_cases hnow : now < ackWindow
    · by_cases htime : a.time ≤ now + recvTimeout
      · rw [if_pos hnow, if_pos htime, if_pos ⟨hnow, htime⟩, List.foldlM_cons]
        exact congrArg _ (funext (ih _))
      · rw [if_pos hnow, if_neg htime, if_neg fun h => htime h.2]
        rfl
    · rw [if_neg hnow, if_neg fun h => hnow h.1]
      rfl

/-- Datagrams that all arrive within the time limit, and take no time, are all received. -/
lemma received_of_window {as : List Arrival} {now : ℚ} (hnow : 0 ≤ now) (hlimit : now < ackWindow)
    (has : ∀ a ∈ as, a.time < ackWindow ∧ a.processing = 0) :
    received now as = as.map Arrival.received := by
  induction as generalizing now with
  | nil => rfl
  | cons a as ih =>
    rcases has a (List.mem_cons_self ..) with ⟨htime, hzero⟩
    have hreach : a.time ≤ now + recvTimeout := by
      have hle : ackWindow ≤ now + recvTimeout := le_add_of_nonneg_left hnow
      exact htime.le.trans hle
    rw [received, if_pos ⟨hlimit, hreach⟩, List.map_cons, hzero, add_zero,
      ih (hnow.trans (le_max_left ..)) (max_lt hlimit htime)
        fun b hb => has b (List.mem_cons_of_mem _ hb)]

lemma mem_missing {id : PyStr} : id ∈ missing acks ↔ id ∈ expectedIds ∧ .str id ∉ acks := by
  simp [missing]

lemma exists_decision_eq_stop : (∃ ids, decision acks = .stop ids) ↔ ∃ id, id ∈ missing acks := by
  unfold decision
  cases missing acks with
  | nil => simp
  | cons id ids => simp

lemma ne_nil_of_mem_expectedIds : ∀ id ∈ expectedIds, id ≠ [] := by decide

/-- Two collections with the same expected ids lead to the same decision. -/
lemma decision_congr (h : ∀ id ∈ expectedIds, .str id ∈ acks ↔ .str id ∈ acks') :
    decision acks = decision acks' := by
  have hmissing : missing acks = missing acks' := by
    apply List.filter_congr
    intro id hid
    rw [decide_eq_decide, not_iff_not]
    exact h id hid
  unfold decision
  rw [hmissing]

variable {as bs : List Arrival}

lemma serve_eq_ok {d : Decision} :
    serve py as = .ok d ↔
      ∃ acks, (received 0 as).foldlM (handleDatagram py) ∅ = .ok acks ∧ decision acks = d := by
  rw [serve, bind_eq_ok, ackLoop_eq_foldlM]
  simp [pure, Except.pure]

/-- What the server knows of an expected id after the loop. -/
lemma mem_of_received {id : PyStr} (hid : id ∈ expectedIds)
    (h : (received 0 as).foldlM (handleDatagram py) ∅ = .ok acks) :
    .str id ∈ acks ↔ ∃ data ∈ received 0 as, py.HasId data id := by
  have hmem := foldlM_collects (Q := fun acks => .str id ∈ acks)
    (fun _ _ _ => mem_handleDatagram (ne_nil_of_mem_expectedIds id hid)) h
  simpa using hmem

/-- The server reaches a decision exactly if it receives harmless datagrams only. -/
lemma exists_serve_eq_ok :
    (∃ d, serve py as = .ok d) ↔ ∀ data ∈ received 0 as, py.Harmless data := by
  rw [← exists_foldlM_eq_ok (P := py.Harmless)
    (fun acks data => exists_handleDatagram_eq_ok) (received 0 as) ∅]
  apply Iff.intro
  · intro ⟨d, h⟩
    rcases serve_eq_ok.mp h with ⟨acks, hacks, -⟩
    exact ⟨acks, hacks⟩
  · intro ⟨acks, h⟩
    exact ⟨_, serve_eq_ok.mpr ⟨acks, h, rfl⟩⟩

/-- The same datagrams, in any order and any number of times, give the same decision. -/
lemma serve_congr {d : Decision} (h : serve py as = .ok d)
    (hsame : ∀ data, data ∈ received 0 bs ↔ data ∈ received 0 as) : serve py bs = .ok d := by
  obtain ⟨d', hd'⟩ := exists_serve_eq_ok.mpr fun data hdata =>
    exists_serve_eq_ok.mp ⟨d, h⟩ data ((hsame data).mp hdata)
  rcases serve_eq_ok.mp h with ⟨acks, hacks, hd⟩
  rcases serve_eq_ok.mp hd' with ⟨acks', hacks', hd''⟩
  have heq : decision acks = decision acks' := by
    apply decision_congr
    intro id hid
    rw [mem_of_received hid hacks, mem_of_received hid hacks']
    exact exists_congr fun data => and_congr_left' (hsame data).symm
  rw [hd', ← hd'', ← heq, hd]

/-- What the server is to do with the datagrams it receives: reach a decision without an
exception; stop exactly if some expected id is not the `"id"` of an object among them; and
decide the same whatever their order and repetition, and without those that are not objects. -/
structure Decides (py : Python) (as : List Arrival) (d : Decision) : Prop where
  reached : serve py as = .ok d
  stop_iff : (∃ ids, d = .stop ids) ↔
    ∃ id ∈ expectedIds, ∀ data ∈ received 0 as, ¬ py.HasId data id
  repetition : ∀ bs, (∀ data, data ∈ received 0 bs ↔ data ∈ received 0 as) →
    serve py bs = .ok d
  noise : ∀ bs, received 0 bs = (received 0 as).filter py.isObject → serve py bs = .ok d

/-- **The server's decision.** It is reached as it should be exactly if every datagram
received decodes and parses to an object that can be printed and whose `"id"`, if it counts,
is hashable. -/
theorem decides_iff_harmless (py : Python) (as : List Arrival) :
    (∃ d, Decides py as d) ↔ ∀ data ∈ received 0 as, py.Harmless data := by
  rw [← exists_serve_eq_ok]
  apply Iff.intro
  · intro ⟨d, h⟩
    exact ⟨d, h.reached⟩
  · intro ⟨d, h⟩
    have hall := exists_serve_eq_ok.mp ⟨d, h⟩
    refine ⟨d, h, ?_, fun bs => serve_congr h, fun bs hbs => serve_congr h fun data => ?_⟩
    · rcases serve_eq_ok.mp h with ⟨acks, hacks, rfl⟩
      rw [exists_decision_eq_stop]
      apply exists_congr
      intro id
      rw [mem_missing]
      apply and_congr_right
      intro hid
      rw [mem_of_received hid hacks]
      push Not
      rfl
    · -- the datagrams that are not objects are none
      rw [hbs, List.mem_filter, and_iff_left_of_imp]
      intro hdata
      rcases hall data hdata with ⟨members, hmembers, -⟩
      rw [Python.isObject, hmembers]

/-- An interpreter that decodes ASCII, parses nothing and can print everything. -/
def asciiPython : Python where
  decode data := if data.all (· < 128) then .ok (data.map UInt8.toUInt32)
    else .error .unicodeDecodeError
  loads _ := .error .jsonDecodeError
  print _ := .ok ()

/-- A single byte that is not UTF-8, 0.1 s into the ACK phase. -/
def strayByte : List Arrival := [⟨1 / 10, [0xff], 0⟩]

/-- The server does not always reach its decision. -/
theorem no_decision_strayByte : ¬ ∀ py as, ∃ d, Decides py as d := by
  intro hall
  rcases hall asciiPython strayByte with ⟨d, hd⟩
  have hreceived : received 0 strayByte = [[0xff]] :=
    received_of_window le_rfl (by norm_num [ackWindow]) (by simp [strayByte, ackWindow]; norm_num)
  rcases serve_eq_ok.mp hd.reached with ⟨acks, hacks, -⟩
  rw [hreceived] at hacks
  cases hacks

end UdpAck
end EspLab
