import Mathlib.Data.Nat.Notation
import Mathlib.Tactic.Common

/-!
# Loops that may raise

A `for` loop over a list whose body may raise is `List.foldlM` in `Except ε`. When the body
accepts an element whatever the accumulator, the loop finishes exactly if every element is
accepted; and a property that each element adds or not is, at the end, one that held at the
start or was added by some element.
-/

namespace EspLab
namespace Fold

universe u

variable {ε : Type*}

theorem bind_eq_ok {α β : Type u} {x : Except ε α} {f : α → Except ε β} {b : β} :
    (x >>= f) = .ok b ↔ ∃ a, x = .ok a ∧ f a = .ok b := by
  cases x with
  | error e =>
    apply Iff.intro
    · intro h
      cases h
    · rintro ⟨a, ha, -⟩
      cases ha
  | ok a =>
    apply Iff.intro
    · intro h
      exact ⟨a, rfl, h⟩
    · intro ⟨a', ha, h⟩
      cases ha
      exact h

variable {α β : Type*} {f : β → α → Except ε β}

theorem foldlM_cons_eq_ok {a : α} {as : List α} {b c : β} :
    (a :: as).foldlM f b = .ok c ↔ ∃ b', f b a = .ok b' ∧ as.foldlM f b' = .ok c := by
  rw [List.foldlM_cons, bind_eq_ok]

/-- The loop finishes exactly if the body accepts every element. -/
theorem exists_foldlM_eq_ok {P : α → Prop} (hf : ∀ b a, (∃ b', f b a = .ok b') ↔ P a)
    (as : List α) (b : β) : (∃ c, as.foldlM f b = .ok c) ↔ ∀ a ∈ as, P a := by
  induction as generalizing b with
  | nil => simp [pure, Except.pure]
  | cons a as ih =>
    rw [List.forall_mem_cons, ← hf b a]
    apply Iff.intro
    · intro ⟨c, hc⟩
      obtain ⟨b', hb', hc⟩ := foldlM_cons_eq_ok.mp hc
      exact ⟨⟨b', hb'⟩, (ih b').mp ⟨c, hc⟩⟩
    · intro ⟨⟨b', hb'⟩, has⟩
      obtain ⟨c, hc⟩ := (ih b').mpr has
      exact ⟨c, foldlM_cons_eq_ok.mpr ⟨b', hb', hc⟩⟩

/-- What the loop has collected: what was there, or what some element added. -/
theorem foldlM_collects {Q : β → Prop} {R : α → Prop}
    (hf : ∀ b a b', f b a = .ok b' → (Q b' ↔ Q b ∨ R a)) {as : List α} {b c : β}
    (h : as.foldlM f b = .ok c) : Q c ↔ Q b ∨ ∃ a ∈ as, R a := by
  induction as generalizing b with
  | nil =>
    cases h
    simp
  | cons a as ih =>
    obtain ⟨b', hb', hc⟩ := foldlM_cons_eq_ok.mp h
    rw [ih hc, hf b a b' hb', or_assoc]
    simp

end Fold
end EspLab
