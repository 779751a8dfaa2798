import EspLab.UdpAck.Decision
import EspLab.UdpAck.Protocol

/-!
# The window of the ACK loop

The loop tests the time before it waits, and `recvfrom` waits for another 0.5 s from then on.
So the loop records every ACK that arrives in the first 0.5 s, and after the last of them it
still takes one late datagram, if that comes within 0.5 s of it.

The datagrams are well-formed ACKs, in the order of their arrival, and take no time.
-/

namespace EspLab
namespace UdpAck

open Fold

/-- The datagrams that arrive in the window. -/
def inWindow (as : List Arrival) : List Arrival := as.filter fun a => a.time < ackWindow

/-- The first datagram that arrives after the window. -/
def firstLate (as : List Arrival) : Option Arrival := as.find? fun a => ackWindow ≤ a.time

/-- When the last datagram in the window arrives, or `now` if that is later. -/
def lastInWindow (now : ℚ) (as : List Arrival) : ℚ :=
  (inWindow as).foldl (fun t a => max t a.time) now

/-- The late datagram that the loop still waits for. -/
def lateReceived (now : ℚ) (as : List Arrival) : List Arrival :=
  (firstLate as).toList.filter fun l => l.time ≤ lastInWindow now as + recvTimeout

lemma received_eq_nil {as : List Arrival} {now : ℚ} (h : ackWindow ≤ now) :
    received now as = [] := by
  cases as with
  | nil => rfl
  | cons b bs => rw [received, if_neg fun hin => absurd h (not_le.mpr hin.1)]

/-- After a late datagram all are late. -/
lemma inWindow_eq_nil {a : Arrival} {as : List Arrival} (hle : ∀ b ∈ as, a.time ≤ b.time)
    (ha : ackWindow ≤ a.time) : inWindow (a :: as) = [] := by
  apply List.filter_eq_nil_iff.mpr
  intro b hb
  rcases List.mem_cons.mp hb with rfl | hb
  · simpa using ha
  · simpa using ha.trans (hle b hb)

/-- **What the loop receives.** The datagrams in the window and at most one more. -/
theorem received_eq {as : List Arrival} {now : ℚ} (hnow : 0 ≤ now) (hlimit : now < ackWindow)
    (hsorted : as.Pairwise fun a b => a.time ≤ b.time) (hzero : ∀ a ∈ as, a.processing = 0) :
    received now as = (inWindow as ++ lateReceived now as).map Arrival.received := by
  induction as generalizing now with
  | nil => rfl
  | cons a as ih =>
    obtain ⟨hle, hsorted⟩ := List.pairwise_cons.mp hsorted
    have hproc := hzero a (List.mem_cons_self ..)
    by_cases ha : a.time < ackWindow
    · -- in the window, and so within the timeout
      have htime : a.time ≤ now + recvTimeout := by
        have hge : ackWindow ≤ now + recvTimeout := le_add_of_nonneg_left hnow
        exact ha.le.trans hge
      have hin : inWindow (a :: as) = a :: inWindow as := List.filter_cons_of_pos (by simpa)
      have hlate : firstLate (a :: as) = firstLate as := List.find?_cons_of_neg (by simpa)
      have hlast : lastInWindow now (a :: as) = lastInWindow (max now a.time) as := by
        rw [lastInWindow, hin, List.foldl_cons, lastInWindow]
      rw [received, if_pos ⟨hlimit, htime⟩, hproc, add_zero,
        ih (hnow.trans (le_max_left ..)) (max_lt hlimit ha) hsorted
          fun b hb => hzero b (List.mem_cons_of_mem _ hb)]
      simp only [lateReceived, hin, hlate, hlast, List.cons_append, List.map_cons]
    · -- late, as are all that follow
      have hall := inWindow_eq_nil hle (not_lt.mp ha)
      have hlate : firstLate (a :: as) = some a :=
        List.find?_cons_of_pos (by simpa using not_lt.mp ha)
      have hmax : ackWindow ≤ max now a.time := (not_lt.mp ha).trans (le_max_right ..)
      rw [received, hproc, add_zero, received_eq_nil hmax]
      simp only [lateReceived, lastInWindow, hall, hlate, List.foldl_nil, Option.toList_some,
        List.nil_append]
      by_cases htime : a.time ≤ now + recvTimeout
      · rw [if_pos ⟨hlimit, htime⟩, List.filter_cons_of_pos (by simpa)]
        rfl
      · rw [if_neg fun h => htime h.2, List.filter_cons_of_neg (by simpa using not_le.mp htime)]
        rfl

/-! ## Well-formed ACKs -/

/-- A JSON object that can be printed and whose `"id"` is a non-empty string. -/
def Python.WellFormed (py : Python) (data : List UInt8) : Prop :=
  (∃ id, id ≠ [] ∧ py.HasId data id) ∧ ∀ message, py.parse data = .ok message →
    py.print message = .ok ()

variable {py : Python} {data : List UInt8}

lemma Python.HasId.unique {id id' : PyStr} (h : py.HasId data id) (h' : py.HasId data id') :
    id = id' := by
  rcases h with ⟨members, hparse, hid⟩
  rcases h' with ⟨members', hparse', hid'⟩
  rw [hparse] at hparse'
  cases hparse'
  rw [hid] at hid'
  cases hid'
  rfl

lemma Python.WellFormed.harmless (h : py.WellFormed data) : py.Harmless data := by
  rcases h with ⟨⟨id, -, members, hparse, hid⟩, hprint⟩
  refine ⟨members, hparse, hprint _ hparse, ?_⟩
  intro v hv _
  rw [hid] at hv
  cases hv
  trivial

/-- A well-formed ACK records its id. -/
lemma Python.WellFormed.records_iff (h : py.WellFormed data) (v : Scalar) :
    py.Records data v ↔ ∃ id, v = .str id ∧ py.HasId data id := by
  rcases h with ⟨⟨id, hne, hid⟩, -⟩
  apply Iff.intro
  · intro ⟨members, hparse, hlookup, _⟩
    rcases hid with ⟨members', hparse', hid⟩
    rw [hparse] at hparse'
    cases hparse'
    rw [hid] at hlookup
    cases hlookup
    exact ⟨id, rfl, members, hparse, hid⟩
  · intro ⟨id', hv, hid'⟩
    cases hid.unique hid'
    rcases hid with ⟨members, hparse, hlookup⟩
    rw [hv]
    exact ⟨members, hparse, hlookup, by simpa [Json.truthy] using hne⟩

/-! ## What is recorded -/

/-- The ids recorded are those of the datagrams in the window. -/
def RecordsWindow (py : Python) (as : List Arrival) : Prop :=
  ∃ acks, ackLoop py 0 as ∅ = .ok acks ∧
    ∀ v, v ∈ acks ↔ ∃ id, v = .str id ∧ ∃ a ∈ inWindow as, py.HasId a.received id

/-- The late datagram the loop still takes, if there is one, repeats an id of the window. -/
def LateRepeats (py : Python) (as : List Arrival) : Prop :=
  ∀ l, firstLate as = some l → l.time ≤ lastInWindow 0 as + recvTimeout →
    ∃ a ∈ inWindow as, ∃ id, py.HasId a.received id ∧ py.HasId l.received id

lemma mem_lateReceived {now : ℚ} {as : List Arrival} {l : Arrival} :
    l ∈ lateReceived now as ↔
      firstLate as = some l ∧ l.time ≤ lastInWindow now as + recvTimeout := by
  simp [lateReceived]

/-- The loop ends with the ids of the datagrams it has received. -/
lemma exists_ackLoop_eq_ok {as : List Arrival} (hsorted : as.Pairwise fun a b => a.time ≤ b.time)
    (hzero : ∀ a ∈ as, a.processing = 0) (hack : ∀ a ∈ as, py.WellFormed a.received) :
    ∃ acks, ackLoop py 0 as ∅ = .ok acks ∧
      ∀ v, v ∈ acks ↔ ∃ id, v = .str id ∧
        ∃ a ∈ inWindow as ++ lateReceived 0 as, py.HasId a.received id := by
  have hreceived := received_eq le_rfl (by norm_num [ackWindow]) hsorted hzero
  have hwell : ∀ a ∈ inWindow as ++ lateReceived 0 as, py.WellFormed a.received := by
    intro a ha
    apply hack
    rcases List.mem_append.mp ha with hin | hlate
    · exact (List.mem_filter.mp hin).1
    · exact List.mem_of_find?_eq_some (mem_lateReceived.mp hlate).1
  obtain ⟨acks, hacks⟩ := (exists_foldlM_eq_ok (P := py.Harmless)
    (fun acks data => exists_handleDatagram_eq_ok) (received 0 as) ∅).mpr (by
      intro data hdata
      rw [hreceived] at hdata
      rcases List.mem_map.mp hdata with ⟨a, ha, rfl⟩
      exact (hwell a ha).harmless)
  refine ⟨acks, (ackLoop_eq_foldlM ..).trans hacks, ?_⟩
  intro v
  have hmem := foldlM_collects (Q := fun acks => v ∈ acks) (R := fun data => py.Records data v)
    (fun _ _ _ h => mem_handleDatagram_scalar h) hacks
  rw [hmem, hreceived]
  apply Iff.intro
  · intro h
    rcases h with hnone | ⟨data, hdata, hrec⟩
    · simp at hnone
    · rcases List.mem_map.mp hdata with ⟨a, ha, rfl⟩
      obtain ⟨id, hv, hid⟩ := ((hwell a ha).records_iff v).mp hrec
      exact ⟨id, hv, a, ha, hid⟩
  · rintro ⟨id, hv, a, ha, hid⟩
    right
    exact ⟨a.received, List.mem_map_of_mem ha, ((hwell a ha).records_iff v).mpr ⟨id, hv, hid⟩⟩

/-- **When the window is exact.** For well-formed ACKs in the order of their arrival, the ids
recorded are those of the ACKs in the window exactly if the late one that the loop still takes,
if there is one, repeats an id of the window. -/
theorem records_window_iff (py : Python) (as : List Arrival)
    (hsorted : as.Pairwise fun a b => a.time ≤ b.time) (hzero : ∀ a ∈ as, a.processing = 0)
    (hack : ∀ a ∈ as, py.WellFormed a.received) : RecordsWindow py as ↔ LateRepeats py as := by
  obtain ⟨acks, hacks, hmem⟩ := exists_ackLoop_eq_ok hsorted hzero hack
  apply Iff.intro
  · intro ⟨acks', hacks', hwindow⟩ l hl htime
    rw [hacks] at hacks'
    cases hacks'
    -- the id of the late datagram is recorded, so it is one of the window
    obtain ⟨⟨id, -, hid⟩, -⟩ := hack l (List.mem_of_find?_eq_some hl)
    have hrec := (hmem (.str id)).mpr ⟨id, rfl, l,
      List.mem_append_right _ (mem_lateReceived.mpr ⟨hl, htime⟩), hid⟩
    obtain ⟨id', hid', a, ha, haid⟩ := (hwindow _).mp hrec
    cases hid'
    exact ⟨a, ha, id, haid, hid⟩
  · intro hrepeats
    refine ⟨acks, hacks, ?_⟩
    intro v
    rw [hmem]
    apply Iff.intro
    · intro ⟨id, hv, a, ha, hid⟩
      rcases List.mem_append.mp ha with hin | hlate
      · exact ⟨id, hv, a, hin, hid⟩
      · obtain ⟨hl, htime⟩ := mem_lateReceived.mp hlate
        obtain ⟨b, hb, id', hbid, haid⟩ := hrepeats a hl htime
        cases hid.unique haid
        exact ⟨id, hv, b, hb, hbid⟩
    · intro ⟨id, hv, a, ha, hid⟩
      exact ⟨id, hv, a, List.mem_append_left _ ha, hid⟩

/-! ## An ACK that comes late -/

/-- The text of the ACK of a device. -/
def ackText (id : PyStr) : PyStr :=
  pyStr "\x7b \"id\": \"" ++ id ++ pyStr "\", \"status\": \"ack\" \x7d"

/-- The ACK of a device as it is sent. -/
def ackData (id : PyStr) : List UInt8 := (ackText id).map UInt32.toUInt8

/-- An interpreter that decodes ASCII, parses the ACKs of the expected devices and can print
everything. -/
def ackPython : Python where
  decode := asciiPython.decode
  loads s := match expectedIds.find? fun id => s = ackText id with
    | some id => .ok (ackMsg id)
    | none => .error .jsonDecodeError
  print _ := .ok ()

lemma parse_ackData : ∀ id ∈ expectedIds, ackPython.parse (ackData id) = .ok (ackMsg id) := by
  intro id hid
  simp only [expectedIds, List.mem_cons, List.not_mem_nil, or_false] at hid
  rcases hid with rfl | rfl | rfl <;> rfl

/-- The ACK of a device, at time `t`. -/
def ackAt (t : ℚ) (id : PyStr) : Arrival := ⟨t, ackData id, 0⟩

lemma received_ackAt (t : ℚ) : ∀ id ∈ expectedIds, (ackAt t id).received = ackData id := by
  have hlen : ∀ id ∈ expectedIds, (ackData id).length ≤ 1024 := by decide
  intro id hid
  exact List.take_of_length_le (hlen id hid)

lemma hasId_ackAt (t : ℚ) {id : PyStr} (hid : id ∈ expectedIds) :
    ackPython.HasId (ackAt t id).received id := by
  rw [received_ackAt t id hid]
  exact ⟨_, parse_ackData id hid, rfl⟩

lemma wellFormed_ackAt (t : ℚ) {id : PyStr} (hid : id ∈ expectedIds) :
    ackPython.WellFormed (ackAt t id).received :=
  ⟨⟨id, ne_nil_of_mem_expectedIds id hid, hasId_ackAt t hid⟩, fun _ _ => rfl⟩

lemma wellFormed_of_mem {acks : List (ℚ × PyStr)} (h : ∀ x ∈ acks, x.2 ∈ expectedIds) :
    ∀ a ∈ acks.map fun x => ackAt x.1 x.2, ackPython.WellFormed a.received := by
  intro a ha
  rcases List.mem_map.mp ha with ⟨x, hx, rfl⟩
  exact wellFormed_ackAt x.1 (h x hx)

/-- The third ACK comes 0.9 s after the start, more than 0.5 s after the second. -/
def spacedAcks : List Arrival :=
  [(1 / 10, pyStr "ESP32_A"), (3 / 10, pyStr "ESP32_B"), (9 / 10, pyStr "ESP32_C")].map
    fun x => ackAt x.1 x.2

theorem records_window_iff_spaced : RecordsWindow ackPython spacedAcks := by
  have hsorted : spacedAcks.Pairwise fun a b => a.time ≤ b.time := by
    simp only [spacedAcks, ackAt, List.map_cons, List.map_nil, List.pairwise_cons]
    norm_num
  apply (records_window_iff ackPython spacedAcks hsorted ?_ (wellFormed_of_mem (by decide))).mpr
  · intro l hl htime
    have hlate : firstLate spacedAcks = some (ackAt (9 / 10) (pyStr "ESP32_C")) := by
      norm_num [spacedAcks, firstLate, ackAt, ackWindow]
    have hlast : lastInWindow 0 spacedAcks = 3 / 10 := by
      norm_num [spacedAcks, lastInWindow, inWindow, ackAt, ackWindow]
    rw [hlate] at hl
    cases hl
    rw [hlast] at htime
    norm_num [ackAt, recvTimeout] at htime
  · intro a ha
    rcases List.mem_map.mp ha with ⟨x, -, rfl⟩
    rfl

/-- The second ACK comes 0.6 s after the start, but 0.3 s after the first. -/
def lateAcks : List Arrival :=
  [(3 / 10, pyStr "ESP32_A"), (6 / 10, pyStr "ESP32_B")].map fun x => ackAt x.1 x.2

/-- An ACK that arrives after the window is recorded. -/
theorem late_ack_recorded : ¬ ∀ (py : Python) (as : List Arrival),
    (as.Pairwise fun a b => a.time ≤ b.time) → (∀ a ∈ as, a.processing = 0) →
    (∀ a ∈ as, py.WellFormed a.received) → RecordsWindow py as := by
  intro hall
  have hsorted : lateAcks.Pairwise fun a b => a.time ≤ b.time := by
    simp only [lateAcks, ackAt, List.map_cons, List.map_nil, List.pairwise_cons]
    norm_num
  have hzero : ∀ a ∈ lateAcks, a.processing = 0 := by
    intro a ha
    rcases List.mem_map.mp ha with ⟨x, -, rfl⟩
    rfl
  have hwell : ∀ a ∈ lateAcks, ackPython.WellFormed a.received := wellFormed_of_mem (by decide)
  have hlate : firstLate lateAcks = some (ackAt (6 / 10) (pyStr "ESP32_B")) := by
    norm_num [lateAcks, firstLate, ackAt, ackWindow]
  have hwindow : inWindow lateAcks = [ackAt (3 / 10) (pyStr "ESP32_A")] := by
    norm_num [lateAcks, inWindow, ackAt, ackWindow]
  have htime : (6 / 10 : ℚ) ≤ lastInWindow 0 lateAcks + recvTimeout := by
    norm_num [lastInWindow, hwindow, ackAt, recvTimeout]
  -- the loop records the late id, which no ACK in the window has
  obtain ⟨acks, hacks, hmem⟩ := exists_ackLoop_eq_ok hsorted hzero hwell
  obtain ⟨acks', hacks', hexact⟩ := hall ackPython lateAcks hsorted hzero hwell
  rw [hacks] at hacks'
  cases hacks'
  have hrec := (hmem (.str (pyStr "ESP32_B"))).mpr ⟨_, rfl, _,
    List.mem_append_right _ (mem_lateReceived.mpr ⟨hlate, htime⟩), hasId_ackAt _ (by decide)⟩
  obtain ⟨id, hid, a, ha, haid⟩ := (hexact _).mp hrec
  cases hid
  rw [hwindow, List.mem_singleton] at ha
  rw [ha] at haid
  exact absurd (haid.unique (hasId_ackAt _ (by decide))) (by decide)

end UdpAck
end EspLab
