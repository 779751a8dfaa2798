import Mathlib.Data.Nat.Notation
import Mathlib.Order.Defs.PartialOrder
import Mathlib.Tactic.Common

/-!
# Runs of a concurrent system under a scheduler

A system is a partial step function `step : σ → α → Option σ`: the scheduler picks a
choice `a : α`, and `step s a` is the state after the step, or `none` when the chosen
party is blocked in `s`.

* `exec` runs a schedule (a list of choices); being a plain recursion it can be evaluated
  on a concrete schedule.
* `Along` says that every step of a schedule meets a condition on the state it is taken
  in; `ReachBy` is reachability by such schedules and `Reach` the unrestricted one.
* `Reach.invariant` and `ReachBy.invariant` are the induction over runs, done once.
* `Reach.simulate` is the run lemma of a stuttering simulation.
-/

namespace EspLab
namespace Transition

variable {σ τ α β : Type*}

/-- The state after a schedule, or `none` if one of its choices was blocked. -/
def exec (step : σ → α → Option σ) : σ → List α → Option σ
  | s, [] => some s
  | s, a :: as => (step s a).bind fun t => exec step t as

/-- Every step of the schedule is taken in a state that `ok` accepts for it. -/
def Along (step : σ → α → Option σ) (ok : σ → α → Prop) : σ → List α → Prop
  | _, [] => True
  | s, a :: as => ok s a ∧ ∀ t ∈ step s a, Along step ok t as

/-- `t` is reached from `s` by a run whose steps all meet `ok`. -/
def ReachBy (step : σ → α → Option σ) (ok : σ → α → Prop) (s t : σ) : Prop :=
  ∃ as, exec step s as = some t ∧ Along step ok s as

/-- `t` is reached from `s` by some run. -/
def Reach (step : σ → α → Option σ) (s t : σ) : Prop :=
  ∃ as, exec step s as = some t

/-- No choice of the scheduler is enabled: the system has come to rest. -/
def Stuck (step : σ → α → Option σ) (s : σ) : Prop := ∀ a, step s a = none

variable {step : σ → α → Option σ} {ok : σ → α → Prop}

/-! ## Schedules -/

@[simp] theorem exec_nil (s : σ) : exec step s [] = some s := rfl

theorem exec_cons (s : σ) (a : α) (as : List α) :
    exec step s (a :: as) = (step s a).bind fun t => exec step t as := rfl

theorem exec_cons_eq_some {s t : σ} {a : α} {as : List α} :
    exec step s (a :: as) = some t ↔ ∃ u, step s a = some u ∧ exec step u as = some t := by
  rw [exec_cons, Option.bind_eq_some_iff]

theorem exec_append (s : σ) (as bs : List α) :
    exec step s (as ++ bs) = (exec step s as).bind fun t => exec step t bs := by
  induction as generalizing s with
  | nil => rfl
  | cons a as ih =>
    rw [List.cons_append, exec_cons, exec_cons, Option.bind_assoc]
    exact congrArg _ (funext ih)

/-- A condition on steps can be checked along a concrete schedule. -/
instance instDecidableAlong [∀ s a, Decidable (ok s a)] :
    ∀ (s : σ) (as : List α), Decidable (Along step ok s as)
  | _, [] => isTrue trivial
  | s, a :: as =>
    have := fun t => instDecidableAlong t as
    inferInstanceAs (Decidable (ok s a ∧ ∀ t ∈ step s a, Along step ok t as))

/-! ## Reachability -/

theorem Reach.refl (s : σ) : Reach step s s := ⟨[], rfl⟩

theorem Reach.of_exec {s t : σ} {as : List α} (h : exec step s as = some t) :
    Reach step s t := ⟨as, h⟩

theorem Reach.trans {s t u : σ} (h₁ : Reach step s t) (h₂ : Reach step t u) :
    Reach step s u := by
  obtain ⟨as, ht⟩ := h₁
  obtain ⟨bs, hu⟩ := h₂
  exact ⟨as ++ bs, by rw [exec_append, ht, Option.bind_some, hu]⟩

theorem Reach.single {s t : σ} {a : α} (h : step s a = some t) : Reach step s t :=
  ⟨[a], by rw [exec_cons, h, Option.bind_some, exec_nil]⟩

theorem Reach.tail {s t u : σ} {a : α} (h : Reach step s t) (hu : step t a = some u) :
    Reach step s u := h.trans (.single hu)

theorem Reach.head {s t u : σ} {a : α} (ht : step s a = some t) (h : Reach step t u) :
    Reach step s u := (Reach.single ht).trans h

theorem ReachBy.refl (s : σ) : ReachBy step ok s s := ⟨[], rfl, trivial⟩

theorem ReachBy.of_exec {s t : σ} {as : List α} (h : exec step s as = some t)
    (hok : Along step ok s as) : ReachBy step ok s t := ⟨as, h, hok⟩

theorem ReachBy.head {s t u : σ} {a : α} (ht : step s a = some t) (ha : ok s a)
    (h : ReachBy step ok t u) : ReachBy step ok s u := by
  obtain ⟨as, hu, hok⟩ := h
  refine ⟨a :: as, exec_cons_eq_some.mpr ⟨t, ht, hu⟩, ha, ?_⟩
  intro x hx
  rw [ht] at hx
  cases hx
  exact hok

/-! ## Invariants -/

/-- **Run rule.** What holds at the start and is kept by every step that meets `ok` holds
at the end of every run whose steps meet `ok`. -/
theorem ReachBy.invariant {I : σ → Prop}
    (hstep : ∀ s a t, I s → ok s a → step s a = some t → I t)
    {s t : σ} (hs : I s) (h : ReachBy step ok s t) : I t := by
  obtain ⟨as, ht, hok⟩ := h
  induction as generalizing s with
  | nil =>
    cases ht
    exact hs
  | cons a as ih =>
    obtain ⟨u, hu, ht⟩ := exec_cons_eq_some.mp ht
    exact ih (hstep s a u hs hok.1 hu) ht (hok.2 u hu)

/-- **Run rule** without a condition on the steps. -/
theorem Reach.invariant {I : σ → Prop} (hstep : ∀ s a t, I s → step s a = some t → I t)
    {s t : σ} (hs : I s) (h : Reach step s t) : I t := by
  obtain ⟨as, ht⟩ := h
  induction as generalizing s with
  | nil =>
    cases ht
    exact hs
  | cons a as ih =>
    obtain ⟨u, hu, ht⟩ := exec_cons_eq_some.mp ht
    exact ih (hstep s a u hs hu) ht

/-- A property that no step changes under the invariant `I` holds at the end of a run
exactly when it holds at the start. -/
theorem Reach.stable {I P : σ → Prop}
    (hstep : ∀ s a t, I s → step s a = some t → I t ∧ (P t ↔ P s))
    {s t : σ} (hs : I s) (h : Reach step s t) : I t ∧ (P t ↔ P s) := by
  refine h.invariant (I := fun u => I u ∧ (P u ↔ P s)) ?_ ⟨hs, Iff.rfl⟩
  intro u a v hu hv
  obtain ⟨hI, hP⟩ := hstep u a v hu.1 hv
  exact ⟨hI, hP.trans hu.2⟩

/-- A property that a run makes true is made true by one of its steps. -/
theorem Reach.exists_step {P : σ → Prop} {s t : σ} (h : Reach step s t) (hs : ¬ P s) (ht : P t) :
    ∃ u a v, Reach step s u ∧ ¬ P u ∧ step u a = some v ∧ P v ∧ Reach step v t := by
  obtain ⟨as, has⟩ := h
  induction as generalizing s with
  | nil =>
    cases has
    exact absurd ht hs
  | cons a as ih =>
    obtain ⟨w, hw, has⟩ := exec_cons_eq_some.mp has
    by_cases hP : P w
    · exact ⟨s, a, w, .refl s, hs, hw, hP, as, has⟩
    · obtain ⟨u, b, v, hu, hPu, hv, hPv, hvt⟩ := ih hP has
      exact ⟨u, b, v, .head hw hu, hPu, hv, hPv, hvt⟩

/-- A run whose steps do not all meet `ok` has a first step that does not. -/
theorem exists_violation {s t : σ} {as : List α} (h : exec step s as = some t)
    (hok : ¬ Along step ok s as) :
    ∃ u a v, ReachBy step ok s u ∧ ¬ ok u a ∧ step u a = some v ∧ Reach step v t := by
  induction as generalizing s with
  | nil => exact absurd trivial hok
  | cons a as ih =>
    obtain ⟨w, hw, ht⟩ := exec_cons_eq_some.mp h
    by_cases ha : ok s a
    · have hrest : ¬ Along step ok w as := by
        intro hrest
        apply hok
        refine ⟨ha, fun x hx => ?_⟩
        rw [hw] at hx
        cases hx
        exact hrest
      obtain ⟨u, b, v, hu, hb, hv, hvt⟩ := ih ht hrest
      exact ⟨u, b, v, .head hw ha hu, hb, hv, hvt⟩
    · exact ⟨s, a, w, .refl s, ha, hw, as, ht⟩

/-- **Counting the bad steps.** A quantity that the steps which meet `ok` leave alone and the
others raise is the same at both ends of a run exactly when all its steps meet `ok`. -/
theorem along_iff_of_raised {μ : Type*} [PartialOrder μ] {m : σ → μ}
    (heq : ∀ s a t, step s a = some t → ok s a → m t = m s)
    (hlt : ∀ s a t, step s a = some t → ¬ ok s a → m s < m t)
    {s t : σ} {as : List α} (h : exec step s as = some t) :
    m s ≤ m t ∧ (m t = m s ↔ Along step ok s as) := by
  induction as generalizing s with
  | nil =>
    cases h
    exact ⟨le_rfl, iff_of_true rfl trivial⟩
  | cons a as ih =>
    obtain ⟨u, hu, ht⟩ := exec_cons_eq_some.mp h
    obtain ⟨hle, hiff⟩ := ih ht
    by_cases ha : ok s a
    · have hm := heq s a u hu ha
      rw [hm] at hle hiff
      refine ⟨hle, hiff.trans ⟨fun hrest => ⟨ha, ?_⟩, fun hall => hall.2 u hu⟩⟩
      intro x hx
      rw [hu] at hx
      cases hx
      exact hrest
    · have hm := hlt s a u hu ha
      have hst := lt_of_lt_of_le hm hle
      exact ⟨le_of_lt hst, iff_of_false (ne_of_lt hst).symm fun hall => ha hall.1⟩

/-- **Counting.** A quantity that grows by one with each choice of a kind counts them. -/
theorem exec_countP {m : σ → ℕ} {p : α → Bool}
    (hstep : ∀ s a t, step s a = some t → m t = m s + (p a).toNat) {s t : σ} {as : List α}
    (h : exec step s as = some t) : m t = m s + as.countP p := by
  induction as generalizing s with
  | nil =>
    cases h
    rfl
  | cons a as ih =>
    obtain ⟨u, hu, ht⟩ := exec_cons_eq_some.mp h
    have hcons : (a :: as).countP p = as.countP p + (p a).toNat := by
      rw [List.countP_cons]
      cases p a <;> rfl
    rw [ih ht, hstep s a u hu, hcons]
    omega

/-! ## Coming to rest -/

section Rest

variable {I : σ → Prop} {μ : σ → ℕ}

/-- **Bounded runs.** Where each step lowers a measure, no schedule is longer than the measure. -/
theorem length_add_le_of_measure
    (hstep : ∀ s a t, I s → step s a = some t → I t ∧ μ t < μ s) {s t : σ} {as : List α}
    (hs : I s) (h : exec step s as = some t) : as.length + μ t ≤ μ s := by
  induction as generalizing s with
  | nil =>
    cases h
    exact Nat.le_of_eq (Nat.zero_add _)
  | cons a as ih =>
    obtain ⟨u, hu, ht⟩ := exec_cons_eq_some.mp h
    obtain ⟨hI, hlt⟩ := hstep s a u hs hu
    have hle := ih hI ht
    rw [List.length_cons]
    omega

/-- There every run can be continued until the system comes to rest. -/
theorem exists_stuck_of_measure
    (hstep : ∀ s a t, I s → step s a = some t → I t ∧ μ t < μ s) {s : σ} (hs : I s) :
    ∃ t, Reach step s t ∧ Stuck step t := by
  induction hn : μ s using Nat.strongRecOn generalizing s with
  | _ n ih =>
    by_cases hstuck : Stuck step s
    · exact ⟨s, .refl s, hstuck⟩
    · obtain ⟨a, ha⟩ := not_forall.mp hstuck
      obtain ⟨u, hu⟩ := Option.ne_none_iff_exists'.mp ha
      obtain ⟨hI, hlt⟩ := hstep s a u hs hu
      obtain ⟨t, ht, hrest⟩ := ih (μ u) (by omega) hI rfl
      exact ⟨t, .head hu ht, hrest⟩

end Rest

/-! ## Simulation -/

/-- **Stuttering simulation.** If each concrete step is matched by finitely many abstract
steps that re-establish `R`, each concrete run is matched by an abstract run. -/
theorem Reach.simulate {step' : τ → β → Option τ} {R : σ → τ → Prop}
    (hstep : ∀ s a s' x, R s x → step s a = some s' → ∃ x', Reach step' x x' ∧ R s' x')
    {s s' : σ} {x : τ} (hR : R s x) (h : Reach step s s') :
    ∃ x', Reach step' x x' ∧ R s' x' := by
  refine h.invariant (I := fun u => ∃ x', Reach step' x x' ∧ R u x') ?_ ⟨x, .refl x, hR⟩
  rintro u a v ⟨y, hy, hRy⟩ hv
  obtain ⟨z, hz, hRz⟩ := hstep u a v y hRy hv
  exact ⟨z, hy.trans hz, hRz⟩

end Transition
end EspLab
