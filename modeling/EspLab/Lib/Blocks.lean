import Mathlib.Data.Nat.Notation
import Mathlib.Data.List.Basic
import Mathlib.Tactic.Common

/-!
# Buffers of fixed-width words

A buffer is a list of cells. `overwrite` is a write into it, which fails when it would leave
the buffer. A sequence `xs` is kept in a buffer as `xs.flatMap word`, where every word has the
same width `w`; writing the word of `a` at offset `i * w` is then `xs.set i a`, and what was
written is read back by `decode`.
-/

namespace EspLab
namespace Blocks

variable {α β : Type*}

/-- The buffer after `ws` has been written at `off`, or `none` when the write would not stay
inside the buffer. -/
def overwrite (l : List α) (off : ℕ) (ws : List α) : Option (List α) :=
  if off + ws.length ≤ l.length then some (l.take off ++ ws ++ l.drop (off + ws.length))
  else none

theorem overwrite_eq_some_iff {l ws m : List α} {off : ℕ} : overwrite l off ws = some m ↔
    off + ws.length ≤ l.length ∧ m = l.take off ++ ws ++ l.drop (off + ws.length) := by
  unfold overwrite
  by_cases h : off + ws.length ≤ l.length
  · simp [h, eq_comm]
  · simp [h]

theorem overwrite_eq_none_iff {l ws : List α} {off : ℕ} :
    overwrite l off ws = none ↔ l.length < off + ws.length := by
  unfold overwrite
  split <;> simp <;> omega

/-- A write in the middle of a buffer whose parts are known. -/
theorem overwrite_append (pre old post ws : List α) (h : ws.length = old.length) :
    overwrite (pre ++ (old ++ post)) pre.length ws = some (pre ++ (ws ++ post)) := by
  rw [overwrite_eq_some_iff]
  refine ⟨by simp; omega, ?_⟩
  have hdrop : (pre ++ (old ++ post)).drop (pre.length + ws.length) = post := by
    rw [h, ← List.append_assoc, ← List.length_append, List.drop_left]
  rw [hdrop, List.take_left, List.append_assoc]

/-- A write that stays inside the buffer splits it into three parts. -/
theorem exists_split {l : List α} {off n : ℕ} (h : off + n ≤ l.length) :
    ∃ pre old post, l = pre ++ (old ++ post) ∧ pre.length = off ∧ old.length = n := by
  refine ⟨l.take off, (l.drop off).take n, (l.drop off).drop n, ?_, ?_, ?_⟩
  · rw [List.take_append_drop, List.take_append_drop]
  · rw [List.length_take]
    omega
  · rw [List.length_take, List.length_drop]
    omega

theorem length_overwrite {l ws m : List α} {off : ℕ} (h : overwrite l off ws = some m) :
    m.length = l.length := by
  obtain ⟨hin, rfl⟩ := overwrite_eq_some_iff.mp h
  simp only [List.length_append, List.length_take, List.length_drop]
  omega

/-- A write does not depend on what follows the buffer. -/
theorem overwrite_append_right {l ws m : List α} {off : ℕ} (h : overwrite l off ws = some m)
    (r : List α) : overwrite (l ++ r) off ws = some (m ++ r) := by
  obtain ⟨hin, rfl⟩ := overwrite_eq_some_iff.mp h
  rw [overwrite_eq_some_iff, List.take_append_of_le_length (by omega),
    List.drop_append_of_le_length hin, List.length_append, List.append_assoc _ _ r]
  exact ⟨by omega, rfl⟩

/-- Two adjacent writes are one write. -/
theorem overwrite_bind_append (l us ws : List α) (off : ℕ) :
    (overwrite l off us).bind (fun m => overwrite m (off + us.length) ws)
      = overwrite l off (us ++ ws) := by
  by_cases h : off + (us ++ ws).length ≤ l.length
  · obtain ⟨pre, old, post, rfl, rfl, hold⟩ := exists_split h
    have hlen : us.length ≤ old.length := by
      rw [hold, List.length_append]
      omega
    have hu : (old.take us.length).length = us.length := by
      rw [List.length_take, Nat.min_eq_left hlen]
    have hw : (old.drop us.length).length = ws.length := by
      rw [List.length_drop, hold, List.length_append]
      omega
    have hsplit : old ++ post = old.take us.length ++ (old.drop us.length ++ post) := by
      rw [← List.append_assoc, List.take_append_drop]
    rw [overwrite_append _ _ _ _ hold.symm, hsplit, overwrite_append _ _ _ _ hu.symm,
      Option.bind_some, ← List.append_assoc pre us, ← List.length_append,
      overwrite_append _ _ _ _ hw.symm]
    simp
  · rw [overwrite_eq_none_iff.mpr (Nat.lt_of_not_le h), Option.bind_eq_none_iff]
    intro m hm
    rw [List.length_append] at h
    rw [overwrite_eq_none_iff, length_overwrite hm]
    omega

/-! ## Words of one width -/

section Words

variable {word : α → List β} {w : ℕ}

theorem length_flatMap_word (hw : ∀ a, (word a).length = w) (xs : List α) :
    (xs.flatMap word).length = xs.length * w := by
  induction xs with
  | nil => simp
  | cons x xs ih =>
    rw [List.flatMap_cons, List.length_append, hw, ih, List.length_cons, Nat.succ_mul,
      Nat.add_comm]

/-- Writing a word where the `i`-th one stands replaces the `i`-th element. -/
theorem overwrite_flatMap (hw : ∀ a, (word a).length = w) (xs : List α) {i : ℕ}
    (hi : i < xs.length) (a : α) :
    overwrite (xs.flatMap word) (i * w) (word a) = some ((xs.set i a).flatMap word) := by
  have hlen : ((xs.take i).flatMap word).length = i * w := by
    rw [length_flatMap_word hw, List.length_take, Nat.min_eq_left (Nat.le_of_lt hi)]
  have hset : xs.set i a = xs.take i ++ a :: xs.drop (i + 1) := List.set_eq_take_append_cons_drop
    |>.trans (if_pos hi)
  conv_lhs => rw [← List.take_append_drop i xs, List.drop_eq_getElem_cons hi]
  rw [hset, List.flatMap_append, List.flatMap_append, List.flatMap_cons, List.flatMap_cons,
    ← hlen, overwrite_append _ _ _ _ (by rw [hw, hw])]

/-- Read `n` words of width `w`, each with `read`. -/
def decode (read : List β → Option α) (w : ℕ) : ℕ → List β → Option (List α)
  | 0, l => if l.isEmpty then some [] else none
  | n + 1, l => do
    let a ← read (l.take w)
    let as ← decode read w n (l.drop w)
    return a :: as

/-- What was written is read back. -/
theorem decode_flatMap (hw : ∀ a, (word a).length = w) {read : List β → Option α}
    (hread : ∀ a, read (word a) = some a) (xs : List α) :
    decode read w xs.length (xs.flatMap word) = some xs := by
  induction xs with
  | nil => rfl
  | cons x xs ih =>
    rw [List.length_cons, decode, List.flatMap_cons, ← hw x, List.take_left, List.drop_left,
      hread, hw, ih]
    rfl

end Words

end Blocks
end EspLab
