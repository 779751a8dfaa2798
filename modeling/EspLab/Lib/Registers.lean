import Mathlib.Data.List.FinRange
import Mathlib.Logic.Function.Basic
import Mathlib.Tactic.Common

/-!
# Registers written one at a time

A register file is a function from addresses to contents; a write replaces the contents of one
address. A scan writes a picture, one value for each of `n` addresses, from the first to the last.
In the middle of a scan the registers hold the new picture up to the place where the scan is,
and what they held before from there on.
-/

namespace EspLab
namespace Registers

variable {α β : Type*} [DecidableEq α]

/-- The contents after a list of writes. -/
def writes (r : α → β) (ws : List (α × β)) : α → β :=
  ws.foldl (fun r w => Function.update r w.1 w.2) r

variable {r : α → β} {ws vs : List (α × β)}

@[simp] theorem writes_nil : writes r [] = r := rfl

theorem writes_append : writes r (ws ++ vs) = writes (writes r ws) vs := List.foldl_append

theorem writes_concat (a : α) (b : β) :
    writes r (ws ++ [(a, b)]) = Function.update (writes r ws) a b := writes_append

/-- An address that is not written keeps its contents. -/
theorem writes_of_forall_ne {a : α} (h : ∀ w ∈ ws, w.1 ≠ a) : writes r ws a = r a := by
  induction ws generalizing r with
  | nil => rfl
  | cons w ws ih =>
    have hw : a ≠ w.1 := (h w (List.mem_cons_self ..)).symm
    show writes (Function.update r w.1 w.2) ws a = r a
    rw [ih fun v hv => h v (List.mem_cons_of_mem _ hv), Function.update_of_ne hw]

section Scan

variable {n : ℕ} {addr : Fin n → α} {f : Fin n → β}

/-- The writes of a picture. -/
def scan (addr : Fin n → α) (f : Fin n → β) : List (α × β) :=
  (List.finRange n).map fun i => (addr i, f i)

omit [DecidableEq α] in
@[simp] theorem length_scan : (scan addr f).length = n := by simp [scan]

omit [DecidableEq α] in
theorem take_scan_succ {m : ℕ} (h : m < n) :
    (scan addr f).take (m + 1) = (scan addr f).take m ++ [(addr ⟨m, h⟩, f ⟨m, h⟩)] := by
  rw [List.take_add_one, List.getElem?_eq_getElem (by simpa using h)]
  simp [scan]

/-- **The seam.** After `m` writes of a scan the new picture stands before `m` and the old
contents from there on. -/
theorem writes_take_scan (hinj : Function.Injective addr) (m : ℕ) (i : Fin n) :
    writes r ((scan addr f).take m) (addr i) = if i.val < m then f i else r (addr i) := by
  induction m with
  | zero => rfl
  | succ m ih =>
    by_cases hm : m < n
    · rw [take_scan_succ hm, writes_concat]
      by_cases hi : i = ⟨m, hm⟩
      · rw [hi, Function.update_self, if_pos (Nat.lt_succ_self m)]
      · have hne : i.val ≠ m := fun hval => hi (Fin.ext hval)
        have hiff : i.val < m + 1 ↔ i.val < m := by omega
        rw [Function.update_of_ne (hinj.ne hi), ih]
        simp only [hiff]
    · have hlt := i.isLt
      rw [List.take_of_length_le (by rw [length_scan]; omega)]
      rw [List.take_of_length_le (by rw [length_scan]; omega)] at ih
      rw [ih, if_pos (by omega), if_pos (by omega)]

/-- After a whole scan the registers hold the picture. -/
theorem writes_scan (hinj : Function.Injective addr) (i : Fin n) :
    writes r (scan addr f) (addr i) = f i := by
  have h := writes_take_scan (r := r) (f := f) hinj n i
  rwa [List.take_of_length_le (by rw [length_scan]), if_pos i.isLt] at h

end Scan

end Registers
end EspLab
