import Mathlib.Data.Nat.Notation
import Mathlib.Algebra.Order.Ring.Nat
import Mathlib.Tactic.Common

/-!
# Encoders that can be resumed

An encoder writes symbols into a memory that is refilled by and by. Each time it is called it
writes what fits; it reports that it is complete when nothing is left to write, and that the
memory is full when it has used all of it. `Resumable enc start whole rest` says that `enc`,
begun in `start`, writes `whole` in this way: `rest s l` says that `l` is what it has still to
write in state `s`.

Two such encoders one after the other, `andThen`, are such an encoder again, and what comes out
does not depend on how much memory there is at each call (`Resumable.drive`).
-/

namespace EspLab
namespace Resumable

variable {σ τ β : Type*}

/-- What one call of an encoder gives back: the symbols it wrote and its two flags. -/
structure Session (β : Type*) where
  symbols : List β
  complete : Bool
  memFull : Bool
deriving DecidableEq

/-- An encoder: from its state and the free memory to what it wrote and its next state. -/
abbrev Encoder (σ β : Type*) := σ → ℕ → Session β × σ

/-- What a call gives back that has `l` to write into `free` places. -/
def session (l : List β) (free : ℕ) : Session β :=
  ⟨l.take free, decide (l.length ≤ free), decide (free ≤ l.length)⟩

theorem session_append_full {l₁ l₂ : List β} {free : ℕ} (hl : l₂ ≠ [])
    (hfree : free ≤ l₁.length) : session (l₁ ++ l₂) free = ⟨l₁.take free, false, true⟩ := by
  have hpos : 0 < l₂.length := List.length_pos_iff.mpr hl
  rw [session, List.take_append_of_le_length hfree, List.length_append,
    decide_eq_false (by omega), decide_eq_true (by omega)]

theorem session_append_room {l₁ l₂ : List β} {free : ℕ} (hfree : l₁.length ≤ free) :
    session (l₁ ++ l₂) free = ⟨l₁ ++ (session l₂ (free - l₁.length)).symbols,
      (session l₂ (free - l₁.length)).complete, (session l₂ (free - l₁.length)).memFull⟩ := by
  have hc : (l₁ ++ l₂).length ≤ free ↔ l₂.length ≤ free - l₁.length := by
    rw [List.length_append]
    omega
  have hm : free ≤ (l₁ ++ l₂).length ↔ free - l₁.length ≤ l₂.length := by
    rw [List.length_append]
    omega
  simp only [session, List.take_append, List.take_of_length_le hfree, hc, hm]

/-- The encoder writes `whole` in as many calls as it takes and is then back in `start`. -/
structure Resumes (enc : Encoder σ β) (start : σ) (whole : List β) (rest : σ → List β → Prop) :
    Prop where
  begin_ : rest start whole
  call : ∀ s l free, rest s l → (enc s free).1 = session l free
  done : ∀ s l free, rest s l → l.length ≤ free → (enc s free).2 = start
  resume : ∀ s l free, rest s l → free < l.length → rest (enc s free).2 (l.drop free)

/-! ## One encoder after the other -/

/-- First `enc₁`, and when it is complete `enc₂` in what memory it has left. The flag in the
state says that `enc₁` is complete. -/
def andThen (enc₁ : Encoder σ β) (enc₂ : Encoder τ β) : Encoder (σ × τ × Bool) β
  | (s, t, false), free =>
    let (r, s) := enc₁ s free
    let second := r.complete
    if r.memFull then (⟨r.symbols, false, true⟩, s, t, second)
    else
      let (q, t) := enc₂ t (free - r.symbols.length)
      (⟨r.symbols ++ q.symbols, q.complete, q.memFull⟩, s, t, if q.complete then false else second)
  | (s, t, true), free =>
    let (q, t) := enc₂ t free
    (⟨q.symbols, q.complete, q.memFull⟩, s, t, if q.complete then false else true)

/-- What is left of the two of them. -/
def restAndThen (start₁ : σ) (whole₂ : List β) (rest₁ : σ → List β → Prop)
    (rest₂ : τ → List β → Prop) : σ × τ × Bool → List β → Prop
  | (s, t, false), l => ∃ l₁, rest₁ s l₁ ∧ rest₂ t whole₂ ∧ l = l₁ ++ whole₂
  | (s, t, true), l => s = start₁ ∧ rest₂ t l

variable {enc₁ : Encoder σ β} {enc₂ : Encoder τ β} {start₁ : σ} {start₂ : τ}
  {whole₁ whole₂ : List β} {rest₁ : σ → List β → Prop} {rest₂ : τ → List β → Prop}

/-- As long as the first encoder fills the memory, the second one is not asked. -/
theorem andThen_full (h₁ : Resumes enc₁ start₁ whole₁ rest₁) {s : σ} (t : τ) {l₁ : List β}
    {free : ℕ} (hs : rest₁ s l₁) (hfree : free ≤ l₁.length) :
    andThen enc₁ enc₂ (s, t, false) free
      = (⟨l₁.take free, false, true⟩, (enc₁ s free).2, t, decide (l₁.length ≤ free)) := by
  have hcall := h₁.call s l₁ free hs
  simp only [andThen, hcall, session, hfree, decide_true, if_true]

/-- When it leaves memory, it is complete and the second one has the rest of the memory. -/
theorem andThen_room (h₁ : Resumes enc₁ start₁ whole₁ rest₁) {s : σ} (t : τ) {l₁ : List β}
    {free : ℕ} (hs : rest₁ s l₁) (hfree : l₁.length < free) :
    andThen enc₁ enc₂ (s, t, false) free
      = (⟨l₁ ++ (enc₂ t (free - l₁.length)).1.symbols, (enc₂ t (free - l₁.length)).1.complete,
          (enc₂ t (free - l₁.length)).1.memFull⟩, start₁, (enc₂ t (free - l₁.length)).2,
        if (enc₂ t (free - l₁.length)).1.complete then false else true) := by
  have hcall := h₁.call s l₁ free hs
  have hdone := h₁.done s l₁ free hs (Nat.le_of_lt hfree)
  simp only [andThen, hcall, session, hdone, List.take_of_length_le (Nat.le_of_lt hfree),
    decide_eq_true (Nat.le_of_lt hfree), decide_eq_false (Nat.not_le_of_lt hfree), Bool.false_eq_true,
    if_false]

theorem andThen_second {s : σ} {t : τ} {free : ℕ} :
    andThen enc₁ enc₂ (s, t, true) free
      = (⟨(enc₂ t free).1.symbols, (enc₂ t free).1.complete, (enc₂ t free).1.memFull⟩, s,
        (enc₂ t free).2, if (enc₂ t free).1.complete then false else true) := rfl

/-- The two encoders together are resumable, if the second one has anything to write. -/
theorem Resumes.andThen (h₁ : Resumes enc₁ start₁ whole₁ rest₁)
    (h₂ : Resumes enc₂ start₂ whole₂ rest₂) (hne : whole₂ ≠ []) :
    Resumes (andThen enc₁ enc₂) (start₁, start₂, false) (whole₁ ++ whole₂)
      (restAndThen start₁ whole₂ rest₁ rest₂) := by
  have hpos : 0 < whole₂.length := List.length_pos_iff.mpr hne
  refine ⟨⟨whole₁, h₁.begin_, h₂.begin_, rfl⟩, ?_, ?_, ?_⟩
  · rintro ⟨s, t, _ | _⟩ l free hr
    · obtain ⟨l₁, hs, ht, rfl⟩ := hr
      by_cases hfree : free ≤ l₁.length
      · rw [andThen_full h₁ t hs hfree, session_append_full hne hfree]
      · rw [andThen_room h₁ t hs (by omega), h₂.call t _ _ ht, session_append_room (by omega)]
    · rw [andThen_second, h₂.call t _ _ hr.2]
  · rintro ⟨s, t, _ | _⟩ l free hr hlen
    · obtain ⟨l₁, hs, ht, rfl⟩ := hr
      rw [List.length_append] at hlen
      have hroom : whole₂.length ≤ free - l₁.length := by omega
      rw [andThen_room h₁ t hs (by omega), h₂.call t _ _ ht, h₂.done t _ _ ht hroom, session]
      simp [hroom]
    · obtain ⟨rfl, ht⟩ := hr
      rw [andThen_second, h₂.call t _ _ ht, h₂.done t _ _ ht hlen, session]
      simp [hlen]
  · rintro ⟨s, t, _ | _⟩ l free hr hlen
    · obtain ⟨l₁, hs, ht, rfl⟩ := hr
      rw [List.length_append] at hlen
      by_cases hfree : free ≤ l₁.length
      · rw [andThen_full h₁ t hs hfree]
        by_cases hend : l₁.length ≤ free
        · -- the memory is full with the last symbol of the first encoder
          have heq : free = l₁.length := by omega
          rw [decide_eq_true hend, heq, List.drop_left]
          exact ⟨h₁.done s l₁ _ hs (Nat.le_refl _), ht⟩
        · rw [decide_eq_false hend, List.drop_append_of_le_length hfree]
          exact ⟨l₁.drop free, h₁.resume s l₁ free hs (by omega), ht, rfl⟩
      -- the memory goes beyond the first encoder, so the second one has begun
      · have hroom : free - l₁.length < whole₂.length := by omega
        have hdrop : (l₁ ++ whole₂).drop free = whole₂.drop (free - l₁.length) := by
          rw [List.drop_append, List.drop_of_length_le (by omega), List.nil_append]
        rw [andThen_room h₁ t hs (by omega), h₂.call t _ _ ht, session, hdrop,
          decide_eq_false (by omega)]
        exact ⟨rfl, h₂.resume t _ _ ht hroom⟩
    · obtain ⟨rfl, ht⟩ := hr
      rw [andThen_second, h₂.call t _ _ ht, session, decide_eq_false (by omega)]
      exact ⟨rfl, h₂.resume t _ _ ht hlen⟩

/-! ## Runs -/

/-- Call the encoder with the free memory of each round until it is complete: what it wrote,
its state, and whether it is complete. -/
def drive (enc : Encoder σ β) : σ → List ℕ → List β × σ × Bool
  | s, [] => ([], s, false)
  | s, free :: frees =>
    let (r, s) := enc s free
    if r.complete then (r.symbols, s, true)
    else
      let q := drive enc s frees
      (r.symbols ++ q.1, q.2)

variable {enc : Encoder σ β} {start : σ} {whole : List β} {rest : σ → List β → Prop}

/-- However the memory becomes free, what is written is what there was to write, as far as the
memory goes; and the encoder is complete as soon as there was room for all of it. -/
theorem Resumes.drive (h : Resumes enc start whole rest) {s : σ} {l : List β} (hs : rest s l)
    (hl : l ≠ []) (frees : List ℕ) :
    (drive enc s frees).1 = l.take frees.sum ∧
    ((drive enc s frees).2.2 = true ↔ l.length ≤ frees.sum) ∧
    ((drive enc s frees).2.2 = true → (drive enc s frees).2.1 = start) := by
  induction frees generalizing s l with
  | nil => simp [Resumable.drive, hl]
  | cons free frees ih =>
    have hcall := h.call s l free hs
    rw [List.sum_cons]
    -- the first round may have room for all that is left
    by_cases hlen : l.length ≤ free
    · have hdrive : Resumable.drive enc s (free :: frees) = (l, start, true) := by
        simp only [Resumable.drive, hcall, session, hlen, decide_true, if_true,
          h.done s l free hs hlen, List.take_of_length_le hlen]
      rw [hdrive, List.take_of_length_le (by omega)]
      exact ⟨rfl, iff_of_true rfl (by omega), fun _ => rfl⟩
    · have hresume := h.resume s l free hs (by omega)
      have hne : l.drop free ≠ [] := by
        rw [Ne, List.drop_eq_nil_iff]
        exact hlen
      obtain ⟨hsym, hcomplete, hstart⟩ := ih hresume hne
      have hdrive : Resumable.drive enc s (free :: frees)
          = (l.take free ++ (Resumable.drive enc (enc s free).2 frees).1,
            (Resumable.drive enc (enc s free).2 frees).2) := by
        simp only [Resumable.drive, hcall, session, hlen, decide_false, Bool.false_eq_true,
          if_false]
      rw [hdrive]
      refine ⟨by rw [hsym, List.take_add], hcomplete.trans ?_, hstart⟩
      rw [List.length_drop]
      omega

/-- The same encoder in other clothes. -/
theorem Resumes.embed (h : Resumes enc start whole rest) {enc' : Encoder τ β} {f : σ → τ}
    (hf : ∀ s free, enc' (f s) free = ((enc s free).1, f (enc s free).2)) :
    Resumes enc' (f start) whole fun t l => ∃ s, t = f s ∧ rest s l := by
  refine ⟨⟨start, rfl, h.begin_⟩, ?_, ?_, ?_⟩
  · rintro t l free ⟨s, rfl, hs⟩
    rw [hf, h.call s l free hs]
  · rintro t l free ⟨s, rfl, hs⟩ hlen
    rw [hf, h.done s l free hs hlen]
  · rintro t l free ⟨s, rfl, hs⟩ hlen
    rw [hf]
    exact ⟨_, rfl, h.resume s l free hs hlen⟩

/-- The encoder that counts how many of the symbols it has written. -/
def counting (symbols : List β) : Encoder ℕ β := fun k free =>
  (session (symbols.drop k) free, if symbols.length ≤ k + free then 0 else k + free)

theorem resumes_counting {symbols : List β} (hne : symbols ≠ []) :
    Resumes (counting symbols) 0 symbols fun k l => k < symbols.length ∧ l = symbols.drop k := by
  refine ⟨⟨List.length_pos_iff.mpr hne, rfl⟩, ?_, ?_, ?_⟩
  · rintro k l free ⟨-, rfl⟩
    rfl
  · rintro k l free ⟨-, rfl⟩ hlen
    rw [List.length_drop] at hlen
    exact if_pos (by omega)
  · rintro k l free ⟨-, rfl⟩ hlen
    rw [List.length_drop] at hlen
    have hnext : (counting symbols k free).2 = k + free := if_neg (by omega)
    rw [hnext, List.drop_drop]
    exact ⟨by omega, rfl⟩

end Resumable
end EspLab
