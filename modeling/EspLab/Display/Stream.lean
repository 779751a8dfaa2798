import EspLab.Display.Model

/-!
# The display stream does not depend on the timer

`stream` is what `show_pattern` sends when nothing disturbs it: the frames up to the one that
ends the game, then eight blank rows. The trajectory advances only in `show_pattern` and each
frame is sent in full before the next is computed, so the timer decides when a command is
sent but not which.
-/

namespace EspLab
namespace Display

open Transition

/-! ## The stream -/

/-- The rows of a frame, as they are sent. -/
def rows (f : Fin 8 → UInt8) : List Cmd :=
  (List.finRange 8).map fun row => (.ofNat (row.val + 1), f row)

/-- Frames 1 to `k`. -/
def drawn (k : ℕ) : List Cmd :=
  (List.range k).flatMap fun i => rows (trajectory (i + 1)).pattern

/-- The rows that clear the display. -/
def blanks : List Cmd := rows fun _ => 0

/-- The frames up to the end of the game, then the blank rows. -/
def stream : List Cmd := drawn lastFrame ++ blanks

@[simp] lemma length_rows (f : Fin 8 → UInt8) : (rows f).length = 8 := by simp [rows]

lemma take_rows_succ (f : Fin 8 → UInt8) {row : ℕ} (h : row < 8) :
    (rows f).take (row + 1) = (rows f).take row ++ [(.ofNat (row + 1), f ⟨row, h⟩)] := by
  rw [List.take_add_one, List.getElem?_eq_getElem (by simpa using h)]
  simp [rows]

lemma take_rows_all (f : Fin 8 → UInt8) {row : ℕ} (h : 8 ≤ row) : (rows f).take row = rows f :=
  List.take_of_length_le (by simpa using h)

lemma drawn_succ (k : ℕ) : drawn (k + 1) = drawn k ++ rows (trajectory (k + 1)).pattern := by
  simp [drawn, List.range_succ]

lemma length_drawn (k : ℕ) : (drawn k).length = 8 * k := by
  induction k with
  | zero => rfl
  | succ k ih =>
    rw [drawn_succ, List.length_append, ih, length_rows]
    omega

lemma drawn_mono {j k : ℕ} (h : j ≤ k) : drawn j <+: drawn k := by
  induction h with
  | refl => exact List.prefix_refl _
  | step _ ih =>
    rw [drawn_succ]
    exact ih.trans (List.prefix_append ..)

lemma drawn_isPrefix_stream {k : ℕ} (h : k ≤ lastFrame) : drawn k <+: stream :=
  (drawn_mono h).trans (List.prefix_append ..)

/-! ## The invariant -/

/-- The frames that have been started: those computed, and the one the flag was cleared for. -/
def State.framesStarted (s : State) : ℕ := s.frames + if s.pc = .calculate then 1 else 0

/-- What has been sent, by where `show_pattern` is. -/
def SentAt (frames : ℕ) (sent : List Cmd) : Pc → Prop
  | .sendRows row => ∃ k, frames = k + 1 ∧
      sent = drawn k ++ (rows (trajectory (k + 1)).pattern).take row
  | .blankRows row => sent = drawn frames ++ blanks.take row
  | .logCount | .deleted => sent = drawn frames ++ blanks
  | _ => sent = drawn frames

/-- `show_pattern` is past its loop. -/
def Pc.Over : Pc → Prop
  | .blankRows _ | .logCount | .deleted => True
  | _ => False

/-- `show_pattern` is in a pass of its loop and has not computed the frame. -/
def Pc.Polling : Pc → Prop
  | .testFlag | .clearFlag | .calculate => True
  | _ => False

structure Inv (s : State) : Prop where
  game : s.game = trajectory s.frames
  frames : s.frames ≤ lastFrame
  polling : s.pc.Polling → s.frames < lastFrame
  past : s.pc.Over → s.frames = lastFrame
  sent : SentAt s.frames s.sent s.pc
  flag : s.updateFlag = true ↔ s.firedAtClear < s.fired
  cleared : s.firedAtClear ≤ s.fired
  flagged : s.pc = .clearFlag → s.updateFlag = true
  started : s.framesStarted ≤ s.firedAtClear

lemma inv_start : Inv start where
  game := rfl
  frames := Nat.zero_le _
  polling h := h.elim
  past h := h.elim
  sent := rfl
  flag := by simp [start]
  cleared := Nat.le_refl _
  flagged h := by cases h
  started := Nat.le_refl _

lemma Inv.fire {s : State} (h : Inv s) : Inv (timerIsrCallback s) where
  game := h.game
  frames := h.frames
  polling := h.polling
  past := h.past
  sent := h.sent
  flag := by
    have hle := h.cleared
    simp only [timerIsrCallback, true_iff]
    omega
  cleared := Nat.le_succ_of_le h.cleared
  flagged _ := rfl
  started := h.started

/-- A step that leaves the game and the flag alone. -/
lemma Inv.congr {s s' : State} (h : Inv s) (hgame : s'.game = s.game)
    (hframes : s'.frames = s.frames) (hflag : s'.updateFlag = s.updateFlag)
    (hfired : s'.fired = s.fired) (hclear : s'.firedAtClear = s.firedAtClear)
    (hpc : s'.pc ≠ .calculate) (hpolling : s'.pc.Polling → s.frames < lastFrame)
    (hover : s'.pc.Over → s.frames = lastFrame) (hsent : SentAt s.frames s'.sent s'.pc)
    (hflagged : s'.pc = .clearFlag → s.updateFlag = true) : Inv s' where
  game := by rw [hgame, hframes, h.game]
  frames := by rw [hframes]; exact h.frames
  polling := by rw [hframes]; exact hpolling
  past := by rw [hframes]; exact hover
  sent := by rw [hframes]; exact hsent
  flag := by rw [hflag, hfired, hclear]; exact h.flag
  cleared := by rw [hfired, hclear]; exact h.cleared
  flagged := by rw [hflag]; exact hflagged
  started := by
    have hle := h.started
    rw [State.framesStarted] at hle
    rw [State.framesStarted, if_neg hpc, hframes, hclear]
    omega

/-- The first frame that ends the game is the last one: `show_pattern` tests `gameover`
after each frame. -/
lemma Inv.frames_lt_iff {s : State} (h : Inv s) :
    s.frames < lastFrame ↔ s.game.gameover = false := by
  rw [h.game, ← Bool.not_eq_true, Nat.lt_iff_le_and_ne]
  apply Iff.intro
  · intro ⟨hle, hne⟩ hover
    exact hne (Nat.le_antisymm hle (isLeast_lastFrame.2 hover))
  · intro hover
    refine ⟨h.frames, fun heq => hover ?_⟩
    rw [heq]
    exact isLeast_lastFrame.1

/-- The flag is cleared: it was set, so the timer has fired since the last clear. -/
lemma Inv.clear {s : State} (h : Inv s) (hpc : s.pc = .clearFlag) :
    Inv { s with updateFlag := false, firedAtClear := s.fired, pc := .calculate } where
  game := h.game
  frames := h.frames
  polling _ := h.polling (by rw [hpc]; trivial)
  past h := h.elim
  sent := by
    have hsent := h.sent
    rw [hpc] at hsent
    exact hsent
  flag := by simp
  cleared := Nat.le_refl _
  flagged h := by cases h
  started := by
    -- the flag was set, so the clear sees a firing that no frame has been started for
    have hlt := h.flag.mp (h.flagged hpc)
    have hle := h.started
    simp only [State.framesStarted, hpc, if_true] at hle ⊢
    simp at hle
    omega

lemma Inv.calculate {s : State} (h : Inv s) (hpc : s.pc = .calculate) :
    Inv { s with game := calculatePattern s.game, frames := s.frames + 1, pc := .sendRows 0 } where
  game := by
    show calculatePattern s.game = trajectory (s.frames + 1)
    rw [h.game, trajectory]
  frames := h.polling (by rw [hpc]; trivial)
  polling h := h.elim
  past h := h.elim
  sent := by
    have hsent := h.sent
    rw [hpc] at hsent
    exact ⟨s.frames, rfl, by simpa [SentAt] using hsent⟩
  flag := h.flag
  cleared := h.cleared
  flagged h := by cases h
  started := by
    have hle := h.started
    simp only [State.framesStarted, hpc, if_true] at hle
    simpa [State.framesStarted] using hle

/-- **Step lemma.** -/
lemma inv_showStep {s s' : State} (h : Inv s) (hs : ShowStep s s') : Inv s' := by
  have hsent := h.sent
  cases hs with
  | clear hpc => exact h.clear hpc
  | calculate hpc => exact h.calculate hpc
  | gameover hpc hover =>
    -- the loop ends, so the frame just sent was the last one
    have hlast : s.frames = lastFrame := by
      by_contra hne
      have hlt := h.frames_lt_iff.mp (Nat.lt_of_le_of_ne h.frames hne)
      simp [hover] at hlt
    rw [hpc] at hsent
    exact h.congr rfl rfl rfl rfl rfl (by simp) (fun h => h.elim) (fun _ => hlast)
      (by simpa [SentAt] using hsent) (by simp)
  | loop hpc hover =>
    rw [hpc] at hsent
    exact h.congr rfl rfl rfl rfl rfl (by simp) (fun _ => h.frames_lt_iff.mpr hover)
      (fun h => h.elim) hsent (by simp)
  | flagged hpc hflag =>
    rw [hpc] at hsent
    exact h.congr rfl rfl rfl rfl rfl (by simp) (fun _ => h.polling (by rw [hpc]; trivial))
      (fun h => h.elim) hsent (fun _ => hflag)
  | unflagged hpc | logPos hpc | count hpc =>
    rw [hpc] at hsent
    exact h.congr rfl rfl rfl rfl rfl (by simp) (fun h => h.elim) (fun h => h.elim) hsent (by simp)
  | @sendRow row hrow hpc =>
    -- the row sent is the next one of the frame: only `calculate` changes the pattern
    rw [hpc] at hsent
    rcases hsent with ⟨k, hk, hsent⟩
    refine h.congr rfl rfl rfl rfl rfl (by simp) (fun h => h.elim) (fun h => h.elim) ?_ (by simp)
    refine ⟨k, hk, ?_⟩
    show s.sent ++ _ = _
    rw [take_rows_succ _ hrow, hsent, List.append_assoc, h.game, hk]
  | @sent row hpc hrow =>
    -- all eight rows are out: the frame is complete
    rw [hpc] at hsent
    rcases hsent with ⟨k, hk, hsent⟩
    rw [take_rows_all _ hrow, ← drawn_succ, ← hk] at hsent
    exact h.congr rfl rfl rfl rfl rfl (by simp) (fun h => h.elim) (fun h => h.elim) hsent (by simp)
  | @blankRow row hrow hpc =>
    rw [hpc] at hsent
    refine h.congr rfl rfl rfl rfl rfl (by simp) (fun h => h.elim)
      (fun _ => h.past (by rw [hpc]; trivial)) ?_ (by simp)
    show s.sent ++ _ = _
    rw [blanks, take_rows_succ _ hrow, ← List.append_assoc]
    exact congrArg (· ++ _) hsent
  | blanked hpc hrow =>
    rw [hpc, SentAt, blanks, take_rows_all _ hrow] at hsent
    exact h.congr rfl rfl rfl rfl rfl (by simp) (fun h => h.elim)
      (fun _ => h.past (by rw [hpc]; trivial)) hsent (by simp)
  | logCount hpc =>
    rw [hpc] at hsent
    exact h.congr rfl rfl rfl rfl rfl (by simp) (fun h => h.elim)
      (fun _ => h.past (by rw [hpc]; trivial)) hsent (by simp)

lemma inv_step {s s' : State} {a : Action} (h : Inv s) (hs : step s a = some s') : Inv s' := by
  cases a with
  | fire =>
    cases hs
    exact h.fire
  | task => exact inv_showStep h (showPattern_cases hs)

/-- **Run lemma.** -/
lemma inv_of_reach {s : State} (h : Reach step start s) : Inv s :=
  h.invariant (fun _ _ _ => inv_step) inv_start

/-! ## The stream is sent in order, once -/

lemma Inv.sent_isPrefix {s : State} (h : Inv s) : s.sent <+: stream := by
  have hframes := h.frames
  have hsent := h.sent
  have hover := h.past
  cases hpc : s.pc <;> rw [hpc] at hsent hover
  case sendRows row =>
    rcases hsent with ⟨k, hk, hsent⟩
    rw [hsent]
    refine List.IsPrefix.trans ?_ (drawn_isPrefix_stream (hk ▸ hframes))
    rw [drawn_succ]
    exact (List.prefix_append_right_inj _).mpr (List.take_prefix ..)
  case blankRows row =>
    rw [SentAt, hover trivial] at hsent
    rw [hsent]
    exact (List.prefix_append_right_inj _).mpr (List.take_prefix ..)
  case logCount | deleted =>
    rw [SentAt, hover trivial] at hsent
    rw [hsent, stream]
  all_goals
    change s.sent = drawn s.frames at hsent
    rw [hsent]
    exact drawn_isPrefix_stream hframes

/-- The whole stream has been sent only after the loop. -/
lemma Inv.over_of_sent_all {s : State} (h : Inv s) (hall : s.sent = stream) : s.pc.Over := by
  have hframes := h.frames
  have hsent := h.sent
  have hlength : s.sent.length = 8 * lastFrame + 8 := by
    rw [hall, stream, List.length_append, length_drawn, blanks, length_rows]
  cases hpc : s.pc <;> rw [hpc] at hsent <;> try trivial
  case sendRows row =>
    rcases hsent with ⟨k, hk, hsent⟩
    rw [hsent, List.length_append, length_drawn, List.length_take, length_rows] at hlength
    omega
  all_goals
    change s.sent = drawn s.frames at hsent
    rw [hsent, length_drawn] at hlength
    omega

lemma sent_step {s s' : State} {a : Action} (h : step s a = some s') : s.sent <+: s'.sent := by
  cases a with
  | fire =>
    cases h
    exact List.prefix_refl _
  | task => cases showPattern_cases h <;>
      first | exact List.prefix_append .. | exact List.prefix_refl _

lemma over_step {s s' : State} {a : Action} (h : step s a = some s') (hs : s.pc.Over) :
    s'.pc.Over ∧ s'.game = s.game := by
  cases a with
  | fire =>
    cases h
    exact ⟨hs, rfl⟩
  | task =>
    cases showPattern_cases h with
    | blankRow _ hpc | blanked hpc | logCount hpc => exact ⟨trivial, rfl⟩
    | gameover hpc | loop hpc | flagged hpc | unflagged hpc | clear hpc | calculate hpc
    | sendRow _ hpc | sent hpc | logPos hpc | count hpc =>
      rw [hpc] at hs
      exact hs.elim

/-- Commands that have been sent stay sent. -/
lemma sent_isPrefix_of_reach {s t : State} (h : Reach step s t) : s.sent <+: t.sent :=
  h.invariant (I := fun u => s.sent <+: u.sent) (fun _ _ _ hu hv => hu.trans (sent_step hv))
    (List.prefix_refl _)

lemma over_of_reach {s t : State} (h : Reach step s t) (hs : s.pc.Over) :
    t.pc.Over ∧ t.game = s.game := by
  refine h.invariant (I := fun u => u.pc.Over ∧ u.game = s.game) ?_ ⟨hs, rfl⟩
  intro u a v hu hv
  rcases over_step hv hu.1 with ⟨hover, hgame⟩
  exact ⟨hover, hgame.trans hu.2⟩

/-! ## What the display is for -/

/-- The display as it is meant to be: it plays the stream, one command after the other. The
state is the number of commands played. -/
def play (n : ℕ) (_ : Unit) : Option ℕ := if n < stream.length then some (n + 1) else none

lemma sent_length_step {s s' : State} {a : Action} (h : step s a = some s') :
    s'.sent.length = s.sent.length ∨ s'.sent.length = s.sent.length + 1 := by
  cases a with
  | fire =>
    cases h
    exact .inl rfl
  | task =>
    cases showPattern_cases h with
    | sendRow | blankRow => exact .inr (List.length_append ..)
    | gameover | loop | flagged | unflagged | clear | calculate | sent | logPos | count | blanked
    | logCount => exact .inl rfl

/-- **Refinement.** The timer and the task together play the stream: what they have sent is
what some run of the player has played. -/
theorem display_plays_stream {s : State} (h : Reach step start s) :
    ∃ n, Reach play 0 n ∧ s.sent = stream.take n := by
  have hsim : ∃ n, Reach play 0 n ∧ Inv s ∧ s.sent.length = n := by
    refine h.simulate (R := fun s n => Inv s ∧ s.sent.length = n) ?_ ⟨inv_start, rfl⟩
    intro s a s' n hs hstep
    rcases hs with ⟨hinv, rfl⟩
    have hinv' : Inv s' := inv_step hinv hstep
    have hle := hinv'.sent_isPrefix.length_le
    rcases sent_length_step hstep with hlen | hlen
    · -- the step sends nothing, and the player stays where it is
      exact ⟨_, .refl _, hinv', hlen⟩
    · refine ⟨_, .single (a := ()) ?_, hinv', hlen⟩
      show (if _ then _ else _) = _
      rw [if_pos (by omega)]
  rcases hsim with ⟨n, hn, hinv, hlen⟩
  refine ⟨n, hn, ?_⟩
  rw [← hlen]
  exact List.prefix_iff_eq_take.mp hinv.sent_isPrefix

/-! ## The stream and the timer -/

/-- **The stream does not depend on the timer.** Whatever the interleaving, what has been
sent is a prefix of `stream`, whose frames end with the first one that sets `gameover`; the
ball is where the number of frames puts it; once the whole stream is sent, nothing more is
and the ball stays where it is; the flag is set exactly if the timer has fired since it was
last cleared; and there are no more frames than firings. -/
theorem display_stream {s : State} (h : Reach step start s) :
    s.sent <+: stream ∧
    IsLeast {k | (trajectory k).gameover = true} lastFrame ∧
    s.game = trajectory s.frames ∧
    (s.sent = stream → ∀ t, Reach step s t → t.sent = s.sent ∧ t.game = s.game) ∧
    (s.updateFlag = true ↔ s.firedAtClear < s.fired) ∧
    s.framesStarted ≤ s.fired := by
  have hinv := inv_of_reach h
  refine ⟨hinv.sent_isPrefix, isLeast_lastFrame, hinv.game, ?_, hinv.flag,
    hinv.started.trans hinv.cleared⟩
  intro hall t ht
  have hpre := (inv_of_reach (h.trans ht)).sent_isPrefix
  rw [← hall] at hpre
  exact ⟨hpre.eq_of_length_le (sent_isPrefix_of_reach ht).length_le,
    (over_of_reach ht (hinv.over_of_sent_all hall)).2⟩

/-- The timer fires once and the task draws the first frame. -/
def firstFrame : List Action := .fire :: List.replicate 12 .task

theorem display_stream_firstFrame : ∃ s, exec step start firstFrame = some s ∧
    s.sent = rows (trajectory 1).pattern ∧ s.sent <+: stream ∧ s.framesStarted ≤ s.fired := by
  have hrun : (exec step start firstFrame).map State.sent = some (rows (trajectory 1).pattern) := by
    decide
  rcases Option.map_eq_some_iff.mp hrun with ⟨s, hs, hsent⟩
  rcases display_stream ⟨firstFrame, hs⟩ with ⟨hpre, -, -, -, -, hframes⟩
  exact ⟨s, hs, hsent, hpre, hframes⟩

end Display
end EspLab
