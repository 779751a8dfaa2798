import EspLab.Display.Stream
import Mathlib.Data.Int.Notation

/-!
# Homework 3: the reported frame count

`frameCnt` counts the passes of the loop of `show_pattern`, not the frames it draws: a pass that
finds `update_flag` clear draws nothing and is counted all the same. So the last line of the log
is the number of frames exactly in the runs in which every poll of the flag finds it set.
-/

namespace EspLab
namespace Display

open Transition

/-- Every poll of the flag finds it set. -/
def Flagged (s : State) (a : Action) : Prop :=
  a = .task → s.pc = .testFlag → s.updateFlag = true

instance (s : State) (a : Action) : Decidable (Flagged s a) :=
  inferInstanceAs (Decidable (_ → _ → _))

/-- The pass has polled the flag, and drawn its frame if there is one. -/
def Pc.polled : Pc → ℕ
  | .sendRows _ | .logPos | .count => 1
  | _ => 0

/-- The passes that have drawn no frame. -/
def State.idlePasses (s : State) : ℤ := s.frameCnt + s.pc.polled - s.frames

/-- **Step lemma.** A poll that finds the flag clear is the only step that makes an idle pass. -/
lemma idlePasses_step {s s' : State} {a : Action} (h : step s a = some s') :
    (Flagged s a → s'.idlePasses = s.idlePasses) ∧
    (¬ Flagged s a → s.idlePasses < s'.idlePasses) := by
  cases a with
  | fire =>
    cases h
    exact ⟨fun _ => rfl, fun hbad => absurd (fun ha => by cases ha) hbad⟩
  | task =>
    cases showPattern_cases h with
    | unflagged hpc hflag =>
      apply And.intro
      · intro hok
        rw [hok rfl hpc] at hflag
        cases hflag
      · intro _
        simp only [State.idlePasses, hpc, Pc.polled]
        omega
    | flagged hpc hflag =>
      refine ⟨fun _ => ?_, fun hbad => absurd (fun _ _ => hflag) hbad⟩
      simp only [State.idlePasses, hpc, Pc.polled]
    | calculate hpc | count hpc =>
      -- the frame and its pass are counted together
      have hpoll : s.pc ≠ .testFlag := by simp [hpc]
      refine ⟨fun _ => ?_, fun hbad => absurd (fun _ ht => absurd ht hpoll) hbad⟩
      simp only [State.idlePasses, hpc, Pc.polled]
      omega
    | gameover hpc | loop hpc | clear hpc | sendRow _ hpc | sent hpc | logPos hpc
    | blankRow _ hpc | blanked hpc | logCount hpc =>
      have hpoll : s.pc ≠ .testFlag := by simp [hpc]
      refine ⟨fun _ => ?_, fun hbad => absurd (fun _ ht => absurd ht hpoll) hbad⟩
      simp only [State.idlePasses, sendCmd, hpc, Pc.polled]

/-- The count is printed once, when the task is done. -/
def Reported (s : State) : Prop :=
  ∀ n, .frameCount n ∈ s.log → s.pc = .deleted ∧ n = s.frameCnt

lemma reported_step {s s' : State} {a : Action} (h : Reported s) (hs : step s a = some s') :
    Reported s' := by
  cases a with
  | fire =>
    cases hs
    exact h
  | task =>
    have hlive : s.pc ≠ .deleted := by
      intro hpc
      have hnone : showPattern s = none := by rw [showPattern, hpc]
      cases hnone.symm.trans hs
    have hnew : ∀ n, .frameCount n ∉ s.log := fun n hn => hlive (h n hn).1
    cases showPattern_cases hs with
    | logCount hpc =>
      intro n hn
      rcases List.mem_append.mp hn with hold | hline
      · exact absurd hold (hnew n)
      · rcases List.mem_singleton.mp hline with ⟨⟩
        exact ⟨rfl, rfl⟩
    | logPos hpc =>
      intro n hn
      rcases List.mem_append.mp hn with hold | hline
      · exact absurd hold (hnew n)
      · cases List.mem_singleton.mp hline
    | gameover | loop | flagged | unflagged | clear | calculate | sendRow | sent | count
    | blankRow | blanked => exact fun n hn => absurd hn (hnew n)

lemma reported_of_reach {s : State} (h : Reach step start s) : Reported s :=
  h.invariant (fun _ _ _ => reported_step) fun _ hn => by cases hn

/-! ## The result -/

/-- **When the count is the number of frames.** When the final line has been printed, all frames
have been sent, and the number in it is the number of frames exactly if every poll of the flag
found it set. -/
theorem frame_count_iff (as : List Action) (s : State) (n : ℕ)
    (hs : exec step start as = some s) (hn : .frameCount n ∈ s.log) :
    s.sent = drawn s.frames ++ blanks ∧
    (n = s.frames ↔ Along step Flagged start as) := by
  obtain ⟨hpc, rfl⟩ := reported_of_reach ⟨as, hs⟩ n hn
  apply And.intro
  · have hsent := (inv_of_reach ⟨as, hs⟩).sent
    rw [hpc] at hsent
    exact hsent
  · have hidle : start.idlePasses ≤ s.idlePasses ∧
        (s.idlePasses = start.idlePasses ↔ Along step Flagged start as) :=
      along_iff_of_raised (fun _ _ _ h => (idlePasses_step h).1)
        (fun _ _ _ h => (idlePasses_step h).2) hs
    rw [← hidle.2]
    have hstart : start.idlePasses = 0 := rfl
    rw [hstart, State.idlePasses, hpc]
    show s.frameCnt = s.frames ↔ (s.frameCnt : ℤ) + (0 : ℕ) - s.frames = 0
    omega

/-- The timer fires and the task draws a frame. -/
def frameRun : List Action := .fire :: List.replicate 15 .task

/-- The timer fires before each poll until the game is over. -/
def onTimeRun : List Action := (List.replicate 20 frameRun).flatten ++ List.replicate 11 .task

theorem frame_count_iff_onTime : ∃ s, exec step start onTimeRun = some s ∧
    .frameCount 20 ∈ s.log ∧ s.sent = drawn s.frames ++ blanks ∧
    (20 = s.frames ↔ Along step Flagged start onTimeRun) := by
  have hrun : (exec step start onTimeRun).map (fun s => decide (.frameCount 20 ∈ s.log)) =
      some true := by decide +kernel
  obtain ⟨s, hs, hline⟩ := Option.map_eq_some_iff.mp hrun
  have hn : .frameCount 20 ∈ s.log := of_decide_eq_true hline
  exact ⟨s, hs, hn, frame_count_iff onTimeRun s 20 hs hn⟩

/-- The first poll comes before the timer has fired. -/
def earlyPollRun : List Action := List.replicate 4 .task ++ onTimeRun

/-- Twenty frames are drawn, but the final line says 21. -/
theorem early_poll_counted : ∃ s, exec step start earlyPollRun = some s ∧
    .frameCount 21 ∈ s.log ∧ s.frames = 20 := by
  have hrun : (exec step start earlyPollRun).map
      (fun s => (decide (.frameCount 21 ∈ s.log), s.frames)) = some (true, 20) := by decide +kernel
  obtain ⟨s, hs, hline⟩ := Option.map_eq_some_iff.mp hrun
  exact ⟨s, hs, of_decide_eq_true (congrArg Prod.fst hline), congrArg Prod.snd hline⟩

end Display
end EspLab
