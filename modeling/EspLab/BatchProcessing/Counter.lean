import EspLab.BatchProcessing.Invariants

/-!
# The counter as a C `int`

`s_rcv_item_num` is a `volatile int`: what `+=` and `-=` write back is the low 32 bits of the sum
or the difference. `intStep` is `step` with this counter. Its runs keep the invariants of `step`,
with the count taken modulo `2 ^ 32`, and are the runs of `step` as long as the counter starts 16
or more below the largest `int`.
-/

namespace EspLab
namespace BatchProcessing

open Transition Rtos

/-- `INT_MIN` -/
abbrev intMin : ℤ := -2147483648

/-- `INT_MAX` -/
abbrev intMax : ℤ := 2147483647

/-- What 32 bits keep of a value. -/
def wrap (x : ℤ) : ℤ := x.bmod 4294967296

lemma wrap_eq (x : ℤ) : wrap x = (x + 2147483648) % 4294967296 - 2147483648 := by
  unfold wrap
  rw [Int.bmod_def]
  split <;> omega

lemma wrap_add (x y : ℤ) : wrap (wrap x + y) = wrap (x + y) := by
  simp only [wrap_eq]
  omega

@[simp] lemma wrap_wrap (x : ℤ) : wrap (wrap x) = wrap x := by
  simp only [wrap_eq]
  omega

lemma wrap_eq_self {x : ℤ} (hlo : intMin ≤ x) (hhi : x ≤ intMax) : wrap x = x := by
  simp only [intMin, intMax] at hlo hhi
  rw [wrap_eq]
  omega

/-- A counter that has just passed `INT_MAX` is negative. -/
lemma wrap_neg {x : ℤ} (hlo : intMax < x) (hhi : x ≤ intMax + 16) : wrap x < 0 := by
  simp only [intMax] at hlo hhi
  rw [wrap_eq]
  omega

/-! ## Steps with a 32-bit counter -/

/-- The counter holds an `int`. -/
def State.wrapCount (s : State) : State := { s with sRcvItemNum := wrap s.sRcvItemNum }

/-- One step of the party the scheduler picks. Only the two writes of the counter make a value
that may not fit. -/
def intStep (s : State) (a : Action) : Option State := (step s a).map State.wrapCount

/-- The queue length with both corrections of the count. -/
def State.counted (s : State) : ℤ := s.msgQueue.items.length + s.rcv.credit + s.proc.debt

/-- The invariant of a run with a 32-bit counter that found `n₀` in it. -/
structure IntInv (n₀ : ℤ) (s : State) : Prop where
  inv : Inv (s.sRcvItemNum - s.counted) s
  count : s.sRcvItemNum = wrap (n₀ + s.counted)

lemma counted_start (n₀ : ℤ) : (start n₀).counted = 0 := rfl

lemma intInv_start {n₀ : ℤ} (hlo : intMin ≤ n₀) (hhi : n₀ ≤ intMax) : IntInv n₀ (start n₀) where
  inv := by
    rw [counted_start, Int.sub_zero]
    exact inv_start n₀
  count := by
    rw [counted_start, Int.add_zero, wrap_eq_self hlo hhi]
    rfl

/-- Only a task inside its critical section has written the counter. -/
lemma count_step {s t : State} {a : Action} (hs : step s a = some t) :
    t.sRcvItemNum = s.sRcvItemNum ∨ ∃ u, phase t.rcv t.proc u = .inside := by
  cases a with
  | entry => cases entryFunc_cases hs <;> exact .inl rfl
  | rcv rand =>
    cases rcvDataTask_cases hs with
    | store => exact .inr ⟨.rcv, rfl⟩
    | timedOut | loop | take | load | give | enqueue | enough | tooFew | notify => exact .inl rfl
  | proc =>
    cases procDataTask_cases hs with
    | store => exact .inr ⟨.proc, rfl⟩
    | timedOut | loop | wake | receive | short | full | clean | take | load | give =>
      exact .inl rfl

/-- **Step lemma.** -/
lemma intInv_step {n₀ : ℤ} {s t : State} {a : Action} (h : IntInv n₀ s)
    (hs : intStep s a = some t) : IntInv n₀ t := by
  rcases Option.map_eq_some_iff.mp hs with ⟨t, ht, rfl⟩
  have hinv := inv_step h.inv ht
  have hcount := hinv.count
  have hmod : wrap t.sRcvItemNum = wrap (n₀ + t.counted) := by
    -- the step moves the counter and the count by the same amount
    have hsame : t.sRcvItemNum = wrap (n₀ + s.counted) + (t.counted - s.counted) := by
      rw [← h.count]
      simp only [State.counted] at hcount ⊢
      omega
    rw [hsame, wrap_add]
    congr 1
    omega
  refine ⟨⟨?_, ?_, ?_, hinv.accounts, hinv.bounded⟩, hmod⟩
  · obtain ⟨hp, hr, htime, hrd, hpd, hidle⟩ := hinv.life
    exact ⟨hp, hr, htime, hrd, hpd, hidle⟩
  · rcases count_step ht with heq | ⟨u, hu⟩
    · -- the counter is as it was before the step, where it was an `int`
      have hself : wrap t.sRcvItemNum = t.sRcvItemNum := by
        rw [heq, h.count, wrap_wrap]
      show Guarded t.sMutex (wrap t.sRcvItemNum) (phase t.rcv t.proc)
      rw [hself]
      exact hinv.guarded
    · -- nobody else has read the counter since the write
      exact hinv.guarded.store _ (by rw [hu]; simp) hu fun _ _ => rfl
  · simp only [State.wrapCount, State.counted]
    omega

/-- **Run lemma.** -/
lemma intInv_of_reach {n₀ : ℤ} (hlo : intMin ≤ n₀) (hhi : n₀ ≤ intMax) {s : State}
    (h : Reach intStep (start n₀) s) : IntInv n₀ s :=
  h.invariant (fun _ _ _ => intInv_step) (intInv_start hlo hhi)

lemma IntInv.counted_bounds {n₀ : ℤ} {s : State} (h : IntInv n₀ s) :
    0 ≤ s.counted ∧ s.counted ≤ 16 := by
  obtain ⟨hlo, hhi⟩ := h.inv.count_bounds
  omega

/-- The counter reads as an exact count until it passes `INT_MAX`. -/
lemma IntInv.count_eq {n₀ : ℤ} {s : State} (h : IntInv n₀ s) (hlo : intMin ≤ n₀)
    (hhi : n₀ + s.counted ≤ intMax) : s.sRcvItemNum = n₀ + s.counted := by
  have hbounds := h.counted_bounds
  rw [h.count]
  exact wrap_eq_self (by omega) hhi

/-- From there on it reads as a negative number. -/
lemma IntInv.count_neg {n₀ : ℤ} {s : State} (h : IntInv n₀ s) (hn : n₀ ≤ intMax)
    (hlo : intMax < n₀ + s.counted) : s.sRcvItemNum < 0 := by
  have hbounds := h.counted_bounds
  rw [h.count]
  exact wrap_neg hlo (by omega)

/-! ## No overflow -/

lemma exec_intStep {n₀ : ℤ} (hlo : intMin ≤ n₀) (hhi : n₀ + 16 ≤ intMax) {s : State}
    (h : Inv n₀ s) (as : List Action) : exec intStep s as = exec step s as := by
  induction as generalizing s with
  | nil => rfl
  | cons a as ih =>
    rw [exec_cons, exec_cons, intStep]
    cases hs : step s a with
    | none => rfl
    | some t =>
      have ht := inv_step h hs
      obtain ⟨hmin, hmax⟩ := ht.count_bounds
      have hwrap : t.wrapCount = t := by
        rw [State.wrapCount, wrap_eq_self (by omega) (by omega)]
      rw [Option.map_some, hwrap]
      exact ih ht

/-- **No overflow.** A run that finds at most `INT_MAX - 16` in the counter never has a value that
does not fit, so it is a run with an unbounded counter; and the other way round. -/
lemma reach_intStep_iff {n₀ : ℤ} (hlo : intMin ≤ n₀) (hhi : n₀ + 16 ≤ intMax) {s : State} :
    Reach intStep (start n₀) s ↔ Reach step (start n₀) s := by
  constructor
  · rintro ⟨as, has⟩
    exact ⟨as, exec_intStep hlo hhi (inv_start n₀) as ▸ has⟩
  · rintro ⟨as, has⟩
    exact ⟨as, (exec_intStep hlo hhi (inv_start n₀) as).symm ▸ has⟩

end BatchProcessing
end EspLab
