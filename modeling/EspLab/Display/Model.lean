import EspLab.Display.Game
import EspLab.Lib.Transition

/-!
# Homework 3: the timer and the task

`show_pattern` polls `update_flag`, which the timer interrupt sets, and draws one frame for
each time it finds the flag set. A step is one access to `update_flag` or to a global of the
game, one `send_cmd`, one line of the log, or one `timer_isr_callback`; the interrupt can
come between any two of them. `vTaskDelay` takes no step of its own.
-/

namespace EspLab
namespace Display

open Transition

/-- Where `show_pattern` is. -/
inductive Pc
  /-- `while (!gameover)` -/
  | testGameover
  /-- `if (update_flag)` -/
  | testFlag
  /-- `update_flag = false` -/
  | clearFlag
  /-- `calculate_pattern(NULL)` -/
  | calculate
  /-- `for (; row < 8; row++) send_cmd(row + 1, pattern[row])` -/
  | sendRows (row : ℕ)
  /-- `ESP_LOGI(TAG, "%d, %d", posX, posY)` -/
  | logPos
  /-- `frameCnt++` -/
  | count
  /-- `for (; row < 8; row++) send_cmd(row + 1, 0)` -/
  | blankRows (row : ℕ)
  /-- `ESP_LOGI(TAG, "Frame Count: %d", frameCnt)` -/
  | logCount
  /-- `vTaskDelete(NULL)` reached -/
  | deleted
deriving DecidableEq

/-- An address and the data sent to it. -/
abbrev Cmd := UInt8 × UInt8

/-- A line of the log. -/
inductive Line
  | position (posX posY : UInt8)
  | frameCount (frameCnt : ℕ)
deriving DecidableEq

/-- The globals and where `show_pattern` is. `frameCnt` is a natural number: the overflow of the C
`int` after `2 ^ 31` passes of the loop is left out. The last five fields record what has happened:
the commands sent, the log, the firings of the timer, how many of them `show_pattern` had
seen when it last cleared the flag, and its calls of `calculate_pattern`. -/
structure State where
  game : Game
  updateFlag : Bool
  frameCnt : ℕ
  pc : Pc
  sent : List Cmd
  log : List Line
  fired : ℕ
  firedAtClear : ℕ
  frames : ℕ
deriving DecidableEq

/-- The timer fires, or the task runs. -/
inductive Action
  | fire
  | task
deriving DecidableEq

/-- `timer_isr_callback` -/
def timerIsrCallback (s : State) : State := { s with updateFlag := true, fired := s.fired + 1 }

/-- `send_cmd` -/
def sendCmd (s : State) (addr data : UInt8) : State := { s with sent := s.sent ++ [(addr, data)] }

/-- One step of `show_pattern`. -/
def showPattern (s : State) : Option State :=
  match s.pc with
  | .testGameover => some { s with pc := if s.game.gameover then .blankRows 0 else .testFlag }
  | .testFlag => some { s with pc := if s.updateFlag then .clearFlag else .logPos }
  | .clearFlag => some
      { s with updateFlag := false, firedAtClear := s.fired, pc := .calculate }
  | .calculate => some
      { s with game := calculatePattern s.game, frames := s.frames + 1, pc := .sendRows 0 }
  | .sendRows row =>
      if h : row < 8 then
        some { sendCmd s (.ofNat (row + 1)) (s.game.pattern ⟨row, h⟩) with
          pc := .sendRows (row + 1) }
      else some { s with pc := .logPos }
  | .logPos => some
      { s with log := s.log ++ [.position s.game.posX s.game.posY], pc := .count }
  | .count => some { s with frameCnt := s.frameCnt + 1, pc := .testGameover }
  | .blankRows row =>
      if row < 8 then some { sendCmd s (.ofNat (row + 1)) 0 with pc := .blankRows (row + 1) }
      else some { s with pc := .logCount }
  | .logCount => some { s with log := s.log ++ [.frameCount s.frameCnt], pc := .deleted }
  | .deleted => none

/-- A step of the system. -/
def step (s : State) : Action → Option State
  | .fire => some (timerIsrCallback s)
  | .task => showPattern s

/-- `app_main` has started the timer and created the task. -/
def start : State where
  game := .init
  updateFlag := false
  frameCnt := 0
  pc := .testGameover
  sent := []
  log := []
  fired := 0
  firedAtClear := 0
  frames := 0

/-- What a step of `show_pattern` can do. -/
inductive ShowStep (s : State) : State → Prop
  | gameover : s.pc = .testGameover → s.game.gameover = true →
      ShowStep s { s with pc := .blankRows 0 }
  | loop : s.pc = .testGameover → s.game.gameover = false → ShowStep s { s with pc := .testFlag }
  | flagged : s.pc = .testFlag → s.updateFlag = true → ShowStep s { s with pc := .clearFlag }
  | unflagged : s.pc = .testFlag → s.updateFlag = false → ShowStep s { s with pc := .logPos }
  | clear : s.pc = .clearFlag →
      ShowStep s { s with updateFlag := false, firedAtClear := s.fired, pc := .calculate }
  | calculate : s.pc = .calculate → ShowStep s
      { s with game := calculatePattern s.game, frames := s.frames + 1, pc := .sendRows 0 }
  | sendRow {row : ℕ} (h : row < 8) : s.pc = .sendRows row → ShowStep s
      { sendCmd s (.ofNat (row + 1)) (s.game.pattern ⟨row, h⟩) with pc := .sendRows (row + 1) }
  | sent {row : ℕ} : s.pc = .sendRows row → 8 ≤ row → ShowStep s { s with pc := .logPos }
  | logPos : s.pc = .logPos → ShowStep s
      { s with log := s.log ++ [.position s.game.posX s.game.posY], pc := .count }
  | count : s.pc = .count →
      ShowStep s { s with frameCnt := s.frameCnt + 1, pc := .testGameover }
  | blankRow {row : ℕ} (h : row < 8) : s.pc = .blankRows row → ShowStep s
      { sendCmd s (.ofNat (row + 1)) 0 with pc := .blankRows (row + 1) }
  | blanked {row : ℕ} : s.pc = .blankRows row → 8 ≤ row → ShowStep s { s with pc := .logCount }
  | logCount : s.pc = .logCount → ShowStep s
      { s with log := s.log ++ [.frameCount s.frameCnt], pc := .deleted }

theorem showPattern_cases {s s' : State} (h : showPattern s = some s') : ShowStep s s' := by
  unfold showPattern at h
  split at h <;> rename_i hpc
  · by_cases hover : s.game.gameover = true
    · rw [if_pos hover] at h
      cases h
      exact .gameover hpc hover
    · rw [if_neg hover] at h
      cases h
      exact .loop hpc (Bool.eq_false_iff.mpr hover)
  · by_cases hflag : s.updateFlag = true
    · rw [if_pos hflag] at h
      cases h
      exact .flagged hpc hflag
    · rw [if_neg hflag] at h
      cases h
      exact .unflagged hpc (Bool.eq_false_iff.mpr hflag)
  · cases h
    exact .clear hpc
  · cases h
    exact .calculate hpc
  · split at h <;> rename_i hrow <;> cases h
    · exact .sendRow hrow hpc
    · exact .sent hpc (Nat.le_of_not_lt hrow)
  · cases h
    exact .logPos hpc
  · cases h
    exact .count hpc
  · split at h <;> rename_i hrow <;> cases h
    · exact .blankRow hrow hpc
    · exact .blanked hpc (Nat.le_of_not_lt hrow)
  · cases h
    exact .logCount hpc
  · cases h

end Display
end EspLab
