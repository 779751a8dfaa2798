import EspLab.Display.Ball
import EspLab.Display.Stream

/-!
# Homework 3: which games end

The ball must be at the end cell (7, 2) on both axes at once. The two reflections have periods
12 and 14, so they meet there within 84 calls if the parities of the phases agree, and never if
they do not: position and phase have the same parity on each axis.
-/

namespace EspLab
namespace Display

open Transition Reflection

/-- The end of the game is only noticed by the call that moves the ball to the end cell. -/
lemma gameover_calculatePattern_iff (g : Game) :
    (calculatePattern g).gameover = true ↔
      ((calculatePattern g).posX = endPosX ∧ (calculatePattern g).posY = endPosY) ∨
        g.gameover = true := by
  show (if _ then true else g.gameover) = true ↔ _
  split
  · next hend => exact iff_of_true rfl (.inl hend)
  · next hend => exact (or_iff_right hend).symm

/-! ## The parity of the position -/

/-- Position and phase have the same parity on each axis, and the left wall is at 1. -/
lemma position_parity {g : Game} (h : g.Launch) (n : ℕ) :
    (((calculatePattern^[n] g).posX.toNat + (calculatePattern^[n] g).posY.toNat : ℕ) : ℤ) % 2 =
      (g.phaseX + g.phaseY + 1) % 2 := by
  obtain ⟨hx, hy⟩ := position_iterate h n
  have px := reflect_emod_two (L := 6) (g.phaseX + n)
  have py := reflect_emod_two (L := 7) (g.phaseY + n)
  omega

/-- Both coordinates change by one in every call, so their sum keeps its parity. -/
lemma parity_iterate {g : Game} (h : g.Launch) (n : ℕ) :
    ((calculatePattern^[n] g).posX.toNat + (calculatePattern^[n] g).posY.toNat) % 2 =
      (g.posX.toNat + g.posY.toNat) % 2 := by
  have hn := position_parity h n
  have h₀ := position_parity h 0
  simp only [Function.iterate_zero, id_eq] at h₀
  omega

/-- At even parity the ball never meets the end cell. -/
lemma gameover_eq_false {g : Game} (h : g.Launch) (hg : g.gameover = false)
    (heven : (g.posX.toNat + g.posY.toNat) % 2 = 0) (n : ℕ) :
    (calculatePattern^[n] g).gameover = false := by
  induction n with
  | zero => exact hg
  | succ n ih =>
    have hparity := parity_iterate h (n + 1)
    rw [Function.iterate_succ_apply'] at hparity ⊢
    rw [← Bool.not_eq_true, gameover_calculatePattern_iff]
    rintro (⟨hx, hy⟩ | hover)
    · rw [hx, hy, heven] at hparity
      exact absurd hparity (by decide)
    · rw [ih] at hover
      cases hover

/-! ## Meeting the end cell -/

/-- The two periods meet within their least common multiple if the phases have one parity. -/
lemma exists_meeting {a b : ℤ} (h : a % 2 = b % 2) :
    ∃ n : ℕ, n < 84 ∧ (a + (n + 1 : ℕ)) % 12 = 6 ∧ (b + (n + 1 : ℕ)) % 14 = 2 := by
  -- the solution of the two congruences, as a number below 84
  obtain ⟨n, hn⟩ := Int.eq_ofNat_of_zero_le
    (show 0 ≤ (7 * (6 - a) - 6 * (2 - b) - 1) % 84 by omega)
  exact ⟨n, by omega, by omega, by omega⟩

/-- At odd parity the ball is at the end cell after at most 84 calls. -/
lemma gameover_eq_true {g : Game} (h : g.Launch)
    (hodd : (g.posX.toNat + g.posY.toNat) % 2 = 1) :
    (calculatePattern^[84] g).gameover = true := by
  have h₀ := position_parity h 0
  simp only [Function.iterate_zero, id_eq] at h₀
  obtain ⟨n, hn, hmeetX, hmeetY⟩ := exists_meeting (a := g.phaseX) (b := g.phaseY) (by omega)
  obtain ⟨hx, hy⟩ := position_iterate h (n + 1)
  have hposX : (calculatePattern^[n + 1] g).posX = endPosX := by
    apply UInt8.toNat_inj.mp
    rw [reflect, show (2 * 6 : ℤ) = 12 from rfl, hmeetX] at hx
    show _ = 7
    omega
  have hposY : (calculatePattern^[n + 1] g).posY = endPosY := by
    apply UInt8.toNat_inj.mp
    rw [reflect, show (2 * 7 : ℤ) = 14 from rfl, hmeetY] at hy
    show _ = 2
    omega
  apply gameover_iterate (j := n + 1) (by omega)
  rw [Function.iterate_succ_apply'] at hposX hposY ⊢
  exact (gameover_calculatePattern_iff _).mpr (.inl ⟨hposX, hposY⟩)

/-! ## The loop of `show_pattern` -/

/-- While no call of `calculate_pattern` ends the game, the loop does not end. -/
lemma not_over_of_reach {g : Game} (hg : ∀ n, (calculatePattern^[n] g).gameover = false)
    {s : State} (h : Reach step { start with game := g } s) : ¬ s.pc.Over := by
  have hinv : (∃ n, s.game = calculatePattern^[n] g) ∧ ¬ s.pc.Over := by
    apply h.invariant (I := fun u => (∃ n, u.game = calculatePattern^[n] g) ∧ ¬ u.pc.Over) ?_
      ⟨⟨0, rfl⟩, fun hover => hover⟩
    intro u a v ⟨⟨n, hgame⟩, hnot⟩ hv
    cases a with
    | fire =>
      cases hv
      exact ⟨⟨n, hgame⟩, hnot⟩
    | task =>
      cases showPattern_cases hv with
      | gameover _ hover =>
        rw [hgame, hg n] at hover
        cases hover
      | calculate =>
        refine ⟨⟨n + 1, ?_⟩, fun hover => hover⟩
        rw [Function.iterate_succ_apply', ← hgame]
      | loop | flagged | unflagged | clear | sendRow | sent | logPos | count =>
        exact ⟨⟨n, hgame⟩, fun hover => hover⟩
      | blankRow _ hpc | blanked hpc | logCount hpc =>
        rw [hpc] at hnot
        exact absurd trivial hnot
  exact hinv.2

/-! ## The result -/

/-- **The parity decides.** The game ends exactly from the starts with odd coordinate sum, and
from those within 84 calls. From the others `gameover` stays false, and `show_pattern` never
leaves its loop. -/
theorem gameover_iff_odd (g : Game) (h : g.Launch) (hg : g.gameover = false) :
    ((∃ n, (calculatePattern^[n] g).gameover = true) ↔
      (g.posX.toNat + g.posY.toNat) % 2 = 1) ∧
    ((g.posX.toNat + g.posY.toNat) % 2 = 1 →
      ∃ n ≤ 84, (calculatePattern^[n] g).gameover = true) ∧
    ((g.posX.toNat + g.posY.toNat) % 2 = 0 →
      (∀ n, (calculatePattern^[n] g).gameover = false) ∧
      ∀ s, Reach step { start with game := g } s → ¬ s.pc.Over) := by
  refine ⟨⟨?_, ?_⟩, ?_, ?_⟩
  · intro ⟨n, hn⟩
    by_contra hodd
    have hfalse := gameover_eq_false h hg (by omega) n
    rw [hn] at hfalse
    cases hfalse
  · intro hodd
    exact ⟨84, gameover_eq_true h hodd⟩
  · intro hodd
    exact ⟨84, Nat.le_refl 84, gameover_eq_true h hodd⟩
  · intro heven
    have hfalse := gameover_eq_false h hg heven
    exact ⟨hfalse, fun s => not_over_of_reach hfalse⟩

/-- The configured start, and the one with the ball one column further. -/
theorem gameover_iff_odd_init :
    (∃ n ≤ 84, (calculatePattern^[n] Game.init).gameover = true) ∧
    ∀ s, Reach step { start with game := { Game.init with posX := 4 } } s → ¬ s.pc.Over := by
  apply And.intro
  · exact (gameover_iff_odd Game.init launch_init rfl).2.1 (by decide)
  · have hlaunch : Game.Launch { Game.init with posX := 4 } := by
      constructor <;> constructor <;> decide
    exact ((gameover_iff_odd _ hlaunch rfl).2.2 (by decide)).2

end Display
end EspLab
