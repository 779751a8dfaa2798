import Mathlib.Data.Int.Notation
import Mathlib.Data.Nat.Notation
import Mathlib.Data.Fintype.Basic
import Mathlib.Order.Bounds.Defs
import Mathlib.Tactic.Common

/-!
# Homework 3: the ball

`HW3/main/main.c`: the globals that `calculate_pattern` reads and writes, and the frames it
computes from the initial state.
-/

namespace EspLab
namespace Display

/-- `INIT_POS_X`, `INIT_POS_Y`, `END_POS_X`, `END_POS_Y` -/
def initPosX : UInt8 := 3
def initPosY : UInt8 := 4
def endPosX : UInt8 := 7
def endPosY : UInt8 := 2

/-- `INIT_VEL_X` and `INIT_VEL_Y`: -1 in a `uint8_t`. -/
def initVelX : UInt8 := -1
def initVelY : UInt8 := -1

/-- The position and velocity of the ball, the frame and the end of the game. -/
structure Game where
  posX : UInt8
  posY : UInt8
  velX : UInt8
  velY : UInt8
  pattern : Fin 8 → UInt8
  gameover : Bool
deriving DecidableEq

/-- The initial values of the globals. -/
def Game.init : Game where
  posX := initPosX
  posY := initPosY
  velX := initVelX
  velY := initVelY
  pattern _ := 0b00000001
  gameover := false

/-- `velX = -velX` at the walls 1 and 7. -/
def bounceX (posX velX : UInt8) : UInt8 := if posX = 1 ∨ posX = 7 then -velX else velX

/-- `velY = -velY` at the walls 0 and 7. -/
def bounceY (posY velY : UInt8) : UInt8 := if posY = 0 ∨ posY = 7 then -velY else velY

/-- `pattern[row]`; the comparison is between integers. The shift is by less than the width
of an `int` for every position in the arena. -/
def rowPattern (posX posY : UInt8) (row : Fin 8) : UInt8 :=
  if (row : ℤ) = 7 - posY.toNat then UInt8.ofNat (0b00000001 + (1 <<< posX.toNat))
  else 0b00000001

/-- `calculate_pattern` -/
def calculatePattern (g : Game) : Game :=
  let velX := bounceX g.posX g.velX
  let velY := bounceY g.posY g.velY
  let posX := g.posX + velX
  let posY := g.posY + velY
  { posX, posY, velX, velY
    pattern := rowPattern posX posY
    gameover := if posX = endPosX ∧ posY = endPosY then true else g.gameover }

/-- The globals after `k` calls of `calculate_pattern`. -/
def trajectory : ℕ → Game
  | 0 => .init
  | k + 1 => calculatePattern (trajectory k)

/-- The first frame that ends the game. -/
def lastFrame : ℕ := 20

lemma gameover_calculatePattern {g : Game} (h : g.gameover = true) :
    (calculatePattern g).gameover = true := by
  show (if _ then true else g.gameover) = true
  rw [h, ite_self]

/-- `calculate_pattern` never clears `gameover`. -/
lemma gameover_iterate {g : Game} {j k : ℕ} (hjk : j ≤ k)
    (h : (calculatePattern^[j] g).gameover = true) :
    (calculatePattern^[k] g).gameover = true := by
  induction hjk with
  | refl => exact h
  | step _ ih =>
    rw [Function.iterate_succ_apply']
    exact gameover_calculatePattern ih

lemma trajectory_eq_iterate (k : ℕ) : trajectory k = calculatePattern^[k] .init := by
  induction k with
  | zero => rfl
  | succ k ih => rw [trajectory, ih, Function.iterate_succ_apply']

lemma gameover_mono {j k : ℕ} (hjk : j ≤ k) (h : (trajectory j).gameover = true) :
    (trajectory k).gameover = true := by
  rw [trajectory_eq_iterate] at h ⊢
  exact gameover_iterate hjk h

lemma isLeast_lastFrame : IsLeast {k | (trajectory k).gameover = true} lastFrame := by
  refine ⟨by decide, fun k hk => ?_⟩
  by_contra hlt
  have hle : k ≤ 19 := Nat.le_of_lt_succ (Nat.lt_of_not_le hlt)
  exact absurd (gameover_mono hle hk) (by decide)

end Display
end EspLab
