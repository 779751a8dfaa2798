import EspLab.Display.Game
import EspLab.Lib.Reflection

/-!
# Homework 3: the path of the ball

`calculate_pattern` moves the ball with 8-bit unsigned arithmetic: a velocity of -1 is 255 and
a position is only compared with the walls before it moves. On each axis the ball still follows
the integer reflection between the walls, because a velocity always points away from the wall
the ball has just turned at: this ties the sign of the velocity to the phase.
-/

namespace EspLab
namespace Display

open Reflection

/-! ## One axis -/

/-- `vel = -vel` at the walls `lo` and `hi`. -/
def bounce (lo hi pos vel : UInt8) : UInt8 := if pos = lo ∨ pos = hi then -vel else vel

/-- The velocity of a ball that moves up, or down. -/
def velocity (up : Bool) : UInt8 := if up then 1 else 255

/-- A start between the walls, with velocity 1 or -1, not on a wall while moving away from it. -/
structure Launch (lo hi pos vel : UInt8) : Prop where
  lo_le : lo.toNat ≤ pos.toNat
  le_hi : pos.toNat ≤ hi.toNat
  unit : vel = 1 ∨ vel = 255
  not_leaving_lo : ¬ (pos = lo ∧ vel = 1)
  not_leaving_hi : ¬ (pos = hi ∧ vel = 255)

/-- The distance between the walls. -/
def span (lo hi : UInt8) : ℤ := hi.toNat - lo.toNat

/-- The phase of the reflection at a start. -/
def phase (lo hi pos vel : UInt8) : ℤ :=
  if vel = 1 then pos.toNat - lo.toNat else 2 * span lo hi - (pos.toNat - lo.toNat)

/-- The ball is where phase `p` says, and its velocity is that of the move that led there. -/
structure OnPath (lo hi : UInt8) (p : ℤ) (pos vel : UInt8) : Prop where
  pos : (pos.toNat : ℤ) = lo.toNat + reflect (span lo hi) p
  vel : vel = velocity (decide (Rising (span lo hi) (p - 1)))

section Axis

variable {lo hi pos vel : UInt8} {p : ℤ}

lemma span_pos (hlt : lo.toNat < hi.toNat) : 0 < span lo hi := by
  unfold span
  omega

lemma OnPath.bounds (h : OnPath lo hi p pos vel) (hlt : lo.toNat < hi.toNat) :
    lo.toNat ≤ pos.toNat ∧ pos.toNat ≤ hi.toNat := by
  have hspan := span_pos hlt
  have hpos := h.pos
  have hnonneg := reflect_nonneg hspan p
  have hle := reflect_le hspan p
  unfold span at hpos hnonneg hle
  omega

lemma onPath_launch (h : Launch lo hi pos vel) : OnPath lo hi (phase lo hi pos vel) pos vel := by
  obtain ⟨hlo, hhi, hunit, hleave, hleave'⟩ := h
  rcases hunit with rfl | rfl
  · -- moving up, so not at the lower wall
    have hne : pos.toNat ≠ lo.toNat := fun heq => hleave ⟨UInt8.toNat_inj.mp heq, rfl⟩
    have hspan : (pos.toNat : ℤ) - lo.toNat ≤ span lo hi := by
      unfold span
      omega
    rw [phase, if_pos rfl]
    constructor
    · rw [reflect_of_up (by omega) (by omega) hspan]
      omega
    · rw [decide_eq_true (rising_of_lt (by omega) (by omega) (by omega))]
      rfl
  · -- moving down, so not at the upper wall
    have hne : pos.toNat ≠ hi.toNat := fun heq => hleave' ⟨UInt8.toNat_inj.mp heq, rfl⟩
    have hspan : (pos.toNat : ℤ) - lo.toNat < span lo hi := by
      unfold span
      omega
    rw [phase, if_neg (by decide)]
    constructor
    · rw [reflect_of_down (by omega) (by omega) (by omega)]
      omega
    · rw [decide_eq_false (not_rising_of_le (by omega) (by omega))]
      rfl

lemma neg_velocity (up : Bool) : -velocity up = velocity (!up) := by
  cases up <;> rfl

/-- The turn at a wall sets the velocity for the next move. -/
lemma OnPath.bounce (h : OnPath lo hi p pos vel) (hlt : lo.toNat < hi.toNat) :
    bounce lo hi pos vel = velocity (decide (Rising (span lo hi) p)) := by
  have hspan := span_pos hlt
  have hpos := h.pos
  have hphase : p = p - 1 + 1 := by omega
  unfold Display.bounce
  by_cases hwall : pos = lo ∨ pos = hi
  · have hturn : reflect (span lo hi) p = 0 ∨ reflect (span lo hi) p = span lo hi := by
      rcases hwall with rfl | rfl
      · left
        omega
      · right
        unfold span at hpos ⊢
        omega
    rw [hphase] at hturn
    have hrising := rising_succ_iff_of_wall hspan (p - 1) hturn
    rw [← hphase] at hrising
    rw [if_pos hwall, h.vel, neg_velocity, decide_eq_decide.mpr hrising, decide_not]
  · have hne := not_or.mp hwall
    have hlo : reflect (span lo hi) (p - 1 + 1) ≠ 0 := by
      rw [← hphase]
      intro hzero
      exact hne.1 (UInt8.toNat_inj.mp (by omega))
    have hhi : reflect (span lo hi) (p - 1 + 1) ≠ span lo hi := by
      rw [← hphase]
      intro htop
      apply hne.2 (UInt8.toNat_inj.mp _)
      unfold span at hpos htop
      omega
    have hrising := rising_succ_iff_of_inside hspan (p - 1) hlo hhi
    rw [← hphase] at hrising
    rw [if_neg hwall, h.vel, decide_eq_decide.mpr hrising]

/-- **Step lemma.** A call moves the ball to the next phase; no position wraps around. -/
lemma OnPath.step (h : OnPath lo hi p pos vel) (hlt : lo.toNat < hi.toNat)
    (hhi : hi.toNat < 255) :
    OnPath lo hi (p + 1) (pos + Display.bounce lo hi pos vel) (Display.bounce lo hi pos vel) := by
  have hspan := span_pos hlt
  have hpos := h.pos
  have hle := (h.bounds hlt).2
  have hsucc := reflect_succ hspan p
  have hnonneg := reflect_nonneg hspan (p + 1)
  rw [h.bounce hlt]
  constructor
  · rw [hsucc, UInt8.toNat_add]
    by_cases hrising : Rising (span lo hi) p
    · rw [if_pos hrising, decide_eq_true hrising]
      show (((pos.toNat + 1) % 256 : ℕ) : ℤ) = _
      omega
    · rw [if_neg hrising, decide_eq_false hrising]
      rw [if_neg hrising] at hsucc
      show (((pos.toNat + 255) % 256 : ℕ) : ℤ) = _
      omega
  · rw [show p + 1 - 1 = p by omega]

end Axis

/-! ## The game -/

lemma bounceX_eq : bounceX = bounce 1 7 := rfl

lemma bounceY_eq : bounceY = bounce 0 7 := rfl

/-- The starts of the ball: between the walls, with unit velocities, not on a wall while moving
away from it. -/
structure Game.Launch (g : Game) : Prop where
  x : Display.Launch 1 7 g.posX g.velX
  y : Display.Launch 0 7 g.posY g.velY

lemma launch_init : Game.init.Launch := by
  constructor <;> constructor <;> decide

/-- The phases of the two reflections at a start. -/
def Game.phaseX (g : Game) : ℤ := phase 1 7 g.posX g.velX
def Game.phaseY (g : Game) : ℤ := phase 0 7 g.posY g.velY

/-- **Step lemma.** A call moves the ball to the next phase on both axes. -/
lemma onPath_calculatePattern {g : Game} {p q : ℤ} (hx : OnPath 1 7 p g.posX g.velX)
    (hy : OnPath 0 7 q g.posY g.velY) :
    OnPath 1 7 (p + 1) (calculatePattern g).posX (calculatePattern g).velX ∧
    OnPath 0 7 (q + 1) (calculatePattern g).posY (calculatePattern g).velY := by
  rw [calculatePattern, bounceX_eq, bounceY_eq]
  exact ⟨hx.step (by decide) (by decide), hy.step (by decide) (by decide)⟩

/-- **Run lemma.** After `n` calls the phases have grown by `n`. -/
theorem onPath_iterate {g : Game} (h : g.Launch) (n : ℕ) :
    OnPath 1 7 (g.phaseX + n) (calculatePattern^[n] g).posX (calculatePattern^[n] g).velX ∧
    OnPath 0 7 (g.phaseY + n) (calculatePattern^[n] g).posY (calculatePattern^[n] g).velY := by
  induction n with
  | zero =>
    rw [Int.natCast_zero, Int.add_zero, Int.add_zero]
    exact ⟨onPath_launch h.x, onPath_launch h.y⟩
  | succ n ih =>
    rw [Function.iterate_succ_apply', Int.natCast_succ, ← Int.add_assoc, ← Int.add_assoc]
    exact onPath_calculatePattern ih.1 ih.2

/-- Where the ball is after `n` calls. -/
theorem position_iterate {g : Game} (h : g.Launch) (n : ℕ) :
    ((calculatePattern^[n] g).posX.toNat : ℤ) = 1 + reflect 6 (g.phaseX + n) ∧
    ((calculatePattern^[n] g).posY.toNat : ℤ) = reflect 7 (g.phaseY + n) := by
  obtain ⟨hx, hy⟩ := onPath_iterate h n
  exact ⟨hx.pos, hy.pos.trans (Int.zero_add _)⟩

/-! ## The frame -/

/-- The bits of a row with the ball in column `x`. -/
lemma testBit_ball : ∀ x b : Fin 8, x ≠ 0 →
    ((UInt8.ofNat (0b00000001 + (1 <<< x.val))).toNat.testBit b = true ↔ b = 0 ∨ b = x) := by
  decide

/-- The bits of a row without the ball. -/
lemma testBit_noBall : ∀ b : Fin 8, (0b00000001 : UInt8).toNat.testBit b = true ↔ b = 0 := by
  decide

/-- **The frame shows the ball.** Bit 0 of every row is set, and the only other bit is that of
the ball's column in the ball's row. -/
theorem testBit_rowPattern {posX posY : UInt8} (hx : 1 ≤ posX.toNat ∧ posX.toNat ≤ 7)
    (row : Fin 8) (b : ℕ) :
    (rowPattern posX posY row).toNat.testBit b = true ↔
      b = 0 ∨ ((row : ℤ) = 7 - posY.toNat ∧ b = posX.toNat) := by
  by_cases hb : b < 8
  · unfold rowPattern
    split
    · next hrow =>
      have hne : (⟨posX.toNat, by omega⟩ : Fin 8) ≠ 0 := by
        intro hzero
        have hval := congrArg Fin.val hzero
        simp only [Fin.val_zero] at hval
        omega
      have hbit := testBit_ball ⟨posX.toNat, by omega⟩ ⟨b, hb⟩ hne
      rw [Fin.ext_iff, Fin.ext_iff] at hbit
      simp only [hrow, true_and]
      exact hbit
    · next hrow =>
      have hbit := testBit_noBall ⟨b, hb⟩
      rw [Fin.ext_iff] at hbit
      simp only [hrow, false_and, or_false]
      exact hbit
  · have hlt : (rowPattern posX posY row).toNat < 2 ^ b := by
      apply Nat.lt_of_lt_of_le (UInt8.toNat_lt _)
      exact Nat.pow_le_pow_right (by decide) (by omega)
    rw [Nat.testBit_lt_two_pow hlt]
    simp only [Bool.false_eq_true, false_iff, not_or, not_and]
    omega

/-- Different positions in the arena give different frames. -/
theorem rowPattern_injective {x y x' y' : UInt8} (hx : 1 ≤ x.toNat ∧ x.toNat ≤ 7)
    (hy : y.toNat ≤ 7) (hx' : 1 ≤ x'.toNat ∧ x'.toNat ≤ 7)
    (h : rowPattern x y = rowPattern x' y') : x = x' ∧ y = y' := by
  have hrow : 7 - y.toNat < 8 := by omega
  -- the ball of the first frame is a bit of the second
  have hbit : (rowPattern x y ⟨7 - y.toNat, hrow⟩).toNat.testBit x.toNat = true := by
    rw [testBit_rowPattern hx]
    right
    refine ⟨?_, rfl⟩
    show ((7 - y.toNat : ℕ) : ℤ) = 7 - y.toNat
    omega
  rw [h, testBit_rowPattern hx'] at hbit
  rcases hbit with hzero | ⟨hrow', hcol⟩
  · omega
  · refine ⟨UInt8.toNat_inj.mp hcol, UInt8.toNat_inj.mp ?_⟩
    have hrow'' : ((7 - y.toNat : ℕ) : ℤ) = 7 - y'.toNat := hrow'
    omega

/-! ## The result -/

/-- **The trajectory.** After `n` calls the ball is where the integer reflections with periods
12 and 14 have it, inside the arena; and from the first call on the frame shows the ball and
nothing else besides bit 0 of every row, so that no other position in the arena gives it. -/
theorem ball_trajectory (g : Game) (h : g.Launch) (n : ℕ) :
    ((calculatePattern^[n] g).posX.toNat : ℤ) = 1 + reflect 6 (g.phaseX + n) ∧
    ((calculatePattern^[n] g).posY.toNat : ℤ) = reflect 7 (g.phaseY + n) ∧
    1 ≤ (calculatePattern^[n] g).posX.toNat ∧ (calculatePattern^[n] g).posX.toNat ≤ 7 ∧
    (calculatePattern^[n] g).posY.toNat ≤ 7 ∧
    (0 < n →
      (∀ (row : Fin 8) (b : ℕ),
        ((calculatePattern^[n] g).pattern row).toNat.testBit b = true ↔
          b = 0 ∨ ((row : ℤ) = 7 - (calculatePattern^[n] g).posY.toNat ∧
            b = (calculatePattern^[n] g).posX.toNat)) ∧
      ∀ x y : UInt8, 1 ≤ x.toNat ∧ x.toNat ≤ 7 → y.toNat ≤ 7 →
        rowPattern x y = (calculatePattern^[n] g).pattern →
        x = (calculatePattern^[n] g).posX ∧ y = (calculatePattern^[n] g).posY) := by
  obtain ⟨hx, hy⟩ := onPath_iterate h n
  have hboundX := hx.bounds (by decide)
  have hboundY := hy.bounds (by decide)
  obtain ⟨hposX, hposY⟩ := position_iterate h n
  refine ⟨hposX, hposY, hboundX.1, hboundX.2, hboundY.2, ?_⟩
  intro hn
  have hpattern : (calculatePattern^[n] g).pattern =
      rowPattern (calculatePattern^[n] g).posX (calculatePattern^[n] g).posY := by
    obtain ⟨k, rfl⟩ := Nat.exists_eq_succ_of_ne_zero (Nat.pos_iff_ne_zero.mp hn)
    rw [Function.iterate_succ_apply']
    rfl
  rw [hpattern]
  exact ⟨testBit_rowPattern hboundX, fun x y hx' hy' heq =>
    rowPattern_injective hx' hy' hboundX heq⟩

/-- Twenty calls from the configured start. -/
theorem ball_trajectory_init :
    ((calculatePattern^[20] Game.init).posX.toNat : ℤ) = 1 + reflect 6 (Game.init.phaseX + 20) ∧
    Game.init.phaseX = 10 ∧ reflect 6 30 = 6 :=
  ⟨(ball_trajectory Game.init launch_init 20).1, by decide, by decide⟩

end Display
end EspLab
