import EspLab.Display.Ball
import EspLab.Display.Stream
import EspLab.Lib.Registers
import Mathlib.Data.Fintype.Prod
import Mathlib.Data.Finset.Card

/-!
# What the screen shows

The display behind `send_cmd` has a register for each address: eight of them are its rows, the
others are set up once by `spi_init`. It shows what the registers hold, also while a frame is
being sent. So there is a seam: above it the frame that is being sent, below it the one before.
-/

namespace EspLab
namespace Display

open Reflection Registers Transition

/-- The commands of `spi_init` -/
def spiInit : List Cmd := [(0x09, 0x00), (0x0A, 0x08), (0x0B, 0x07), (0x0C, 0x01), (0x0F, 0x00)]

/-- The register of a row. -/
def rowAddr (row : Fin 8) : UInt8 := .ofNat (row.val + 1)

/-- The registers of the display, from what they held at power-on. -/
def registers (r : UInt8 → UInt8) (s : State) : UInt8 → UInt8 := writes r (spiInit ++ s.sent)

/-- The pictures that follow each other: what the display held before, the frames of the game,
and the dark screen. -/
def picture (r : UInt8 → UInt8) : ℕ → Fin 8 → UInt8
  | 0 => fun row => r (rowAddr row)
  | k + 1 => if k < lastFrame then (trajectory (k + 1)).pattern else fun _ => 0

/-- The number of the picture that has been begun last. -/
def State.newest (s : State) : ℕ :=
  match s.pc with
  | .blankRows _ | .logCount | .deleted => lastFrame + 1
  | _ => s.frames

/-- The number of its rows that have been sent. -/
def State.seam (s : State) : ℕ :=
  match s.pc with
  | .sendRows row | .blankRows row => row
  | _ => 8

lemma rowAddr_injective : Function.Injective rowAddr := by decide

lemma rows_eq_scan (f : Fin 8 → UInt8) : rows f = scan rowAddr f := rfl

lemma rowAddr_not_mem_spiInit : ∀ row, rowAddr row ∉ spiInit.map Prod.fst := by decide

lemma writes_spiInit_rowAddr (r : UInt8 → UInt8) (row : Fin 8) :
    writes r spiInit (rowAddr row) = r (rowAddr row) := by
  refine writes_of_forall_ne fun w hw heq => ?_
  apply rowAddr_not_mem_spiInit row
  rw [← heq]
  exact List.mem_map_of_mem hw

lemma picture_succ {r : UInt8 → UInt8} {k : ℕ} (hk : k < lastFrame) :
    picture r (k + 1) = (trajectory (k + 1)).pattern := if_pos hk

lemma picture_dark {r : UInt8 → UInt8} : picture r (lastFrame + 1) = fun _ => 0 := by
  rw [picture, if_neg (Nat.lt_irrefl _)]

/-- Between two frames the rows are those of the last one sent. -/
lemma writes_drawn {r : UInt8 → UInt8} {k : ℕ} (hk : k ≤ lastFrame) (row : Fin 8) :
    writes r (spiInit ++ drawn k) (rowAddr row) = picture r k row := by
  cases k with
  | zero =>
    rw [show drawn 0 = [] from rfl, List.append_nil, writes_spiInit_rowAddr]
    rfl
  | succ k =>
    rw [drawn_succ, ← List.append_assoc, writes_append, rows_eq_scan,
      writes_scan rowAddr_injective, picture_succ hk]

/-- In the middle of a picture. -/
lemma writes_partial {r : UInt8 → UInt8} {k : ℕ} (hk : k ≤ lastFrame) (f : Fin 8 → UInt8)
    (m : ℕ) (row : Fin 8) :
    writes r (spiInit ++ (drawn k ++ (rows f).take m)) (rowAddr row)
      = if row.val < m then f row else picture r k row := by
  rw [← List.append_assoc, writes_append, rows_eq_scan, writes_take_scan rowAddr_injective,
    writes_drawn hk]

lemma Inv.registers_row {s : State} (h : Inv s) (r : UInt8 → UInt8) (row : Fin 8) :
    registers r s (rowAddr row)
      = if row.val < s.seam then picture r s.newest row else picture r (s.newest - 1) row := by
  have hrow := row.isLt
  have hframes := h.frames
  have hsent := h.sent
  have hpast := h.past
  unfold registers State.seam State.newest
  cases hpc : s.pc <;> rw [hpc] at hsent hpast <;> simp only [SentAt] at hsent <;> dsimp only
  case sendRows m =>
    obtain ⟨k, hk, hsent⟩ := hsent
    rw [hsent, writes_partial (by omega), hk, picture_succ (by omega), Nat.add_sub_cancel]
  case blankRows m =>
    rw [hsent, hpast trivial, blanks, writes_partial (Nat.le_refl _), picture_dark,
      Nat.add_sub_cancel]
  case logCount | deleted =>
    rw [hsent, hpast trivial, blanks, ← take_rows_all _ (Nat.le_refl 8),
      writes_partial (Nat.le_refl _), picture_dark, Nat.add_sub_cancel]
  -- between two frames the screen is complete
  all_goals rw [hsent, writes_drawn hframes, if_pos hrow]

/-- **The seam.** Whenever one looks, the rows above the seam are those of the newest picture and
the others those of the picture before it; so the screen shows a single picture but while one is
being sent. What `spi_init` set up stays as it is. -/
theorem screen_seam {s : State} (h : Reach step start s) (r : UInt8 → UInt8) :
    (∀ row : Fin 8, registers r s (rowAddr row)
      = if row.val < s.seam then picture r s.newest row else picture r (s.newest - 1) row) ∧
    ∀ addr, (∀ row, rowAddr row ≠ addr) → registers r s addr = writes r spiInit addr := by
  have hinv := inv_of_reach h
  refine ⟨hinv.registers_row r, fun addr haddr => ?_⟩
  rw [registers, writes_append]
  refine writes_of_forall_ne fun w hw => ?_
  -- whatever has been sent since is a write to one of the rows
  have hmem := hinv.sent_isPrefix.subset hw
  simp only [stream, drawn, blanks, rows_eq_scan, scan, List.mem_append, List.mem_flatMap,
    List.mem_map] at hmem
  rcases hmem with ⟨k, -, row, -, rfl⟩ | ⟨row, -, rfl⟩
  · exact haddr row
  · exact haddr row

/-- Four rows of the first frame have been sent. -/
theorem screen_seam_firstFrame : ∃ s, exec step start (.fire :: List.replicate 8 .task) = some s ∧
    (∀ row : Fin 8, registers (fun _ => 0) s (rowAddr row) = if row.val < s.seam
      then picture (fun _ => 0) s.newest row else picture (fun _ => 0) (s.newest - 1) row) ∧
    ∀ addr, (∀ row, rowAddr row ≠ addr) →
      registers (fun _ => 0) s addr = writes (fun _ => 0) spiInit addr := by
  have hrun : (exec step start (.fire :: List.replicate 8 .task)).map State.seam = some 4 := by
    decide
  rcases Option.map_eq_some_iff.mp hrun with ⟨s, hs, -⟩
  exact ⟨s, hs, screen_seam ⟨_, hs⟩ fun _ => 0⟩

/-! ## The ball -/

/-- The row and the column of the ball. -/
def ball (k : ℕ) : Fin 8 × Fin 8 :=
  (.ofNat 8 (7 - (trajectory k).posY.toNat), .ofNat 8 (trajectory k).posX.toNat)

/-- The LEDs that are lit, but for those of column 0. -/
def balls (regs : UInt8 → UInt8) : Finset (Fin 8 × Fin 8) :=
  Finset.univ.filter fun p => p.2 ≠ 0 ∧ (regs (rowAddr p.1)).toNat.testBit p.2 = true

lemma onPath_trajectory (k : ℕ) :
    OnPath 1 7 (Game.init.phaseX + k) (trajectory k).posX (trajectory k).velX ∧
    OnPath 0 7 (Game.init.phaseY + k) (trajectory k).posY (trajectory k).velY := by
  rw [trajectory_eq_iterate]
  exact onPath_iterate launch_init k

lemma ball_column_ne (k : ℕ) : (ball k).2 ≠ 0 := by
  have hx := (onPath_trajectory k).1.bounds (by decide)
  intro hzero
  have hval := congrArg Fin.val hzero
  change (trajectory k).posX.toNat % 8 = 0 at hval
  change 1 ≤ (trajectory k).posX.toNat ∧ (trajectory k).posX.toNat ≤ 7 at hx
  omega

lemma ball_row (k : ℕ) : ((ball k).1.val : ℤ) = 7 - (trajectory k).posY.toNat := by
  have hy := ((onPath_trajectory k).2.bounds (by decide)).2
  show (((7 - (trajectory k).posY.toNat) % 8 : ℕ) : ℤ) = _
  change (trajectory k).posY.toNat ≤ 7 at hy
  omega

/-- With each frame the ball goes to a neighbouring row. -/
lemma ball_moves (k : ℕ) : (ball (k + 1)).1.val = (ball k).1.val + 1 ∨
    (ball k).1.val = (ball (k + 1)).1.val + 1 := by
  have hrow := ball_row k
  have hrow' := ball_row (k + 1)
  have hpos := (onPath_trajectory k).2.pos
  have hpos' := (onPath_trajectory (k + 1)).2.pos
  have hsucc := reflect_succ (span_pos (show (0 : UInt8).toNat < (7 : UInt8).toNat by decide))
    (Game.init.phaseY + k)
  rw [Int.natCast_succ, ← Int.add_assoc, hsucc] at hpos'
  -- posY goes up or down by one, wherever the path turns
  split at hpos' <;> omega

/-- A frame: column 0 and the ball. -/
lemma testBit_pattern (k : ℕ) (row col : Fin 8) (hcol : col ≠ 0) :
    ((trajectory (k + 1)).pattern row).toNat.testBit col = true ↔ (row, col) = ball (k + 1) := by
  have hx := (onPath_trajectory (k + 1)).1.bounds (by decide)
  have hrow := ball_row (k + 1)
  have hpattern : (trajectory (k + 1)).pattern
      = rowPattern (trajectory (k + 1)).posX (trajectory (k + 1)).posY := rfl
  have hne : col.val ≠ 0 := fun hzero => hcol (Fin.ext hzero)
  have hball : (ball (k + 1)).2.val = (trajectory (k + 1)).posX.toNat := by
    show (trajectory (k + 1)).posX.toNat % 8 = _
    change 1 ≤ (trajectory (k + 1)).posX.toNat ∧ (trajectory (k + 1)).posX.toNat ≤ 7 at hx
    omega
  rw [hpattern, testBit_rowPattern hx, Prod.ext_iff, Fin.ext_iff, Fin.ext_iff, hball]
  apply Iff.intro
  · rintro (hzero | ⟨hr, hc⟩)
    · exact absurd hzero hne
    · refine ⟨?_, hc⟩
      show row.val = (ball (k + 1)).1.val
      omega
  · rintro ⟨hr, hc⟩
    change row.val = (ball (k + 1)).1.val at hr
    exact .inr ⟨by omega, hc⟩

/-- What is seen of a picture and of the one before it, on either side of a seam. -/
lemma balls_of_rows {regs : UInt8 → UInt8} {k m : ℕ}
    (hrows : ∀ row : Fin 8, regs (rowAddr row) = if row.val < m
      then (trajectory (k + 1 + 1)).pattern row else (trajectory (k + 1)).pattern row) :
    balls regs = (if (ball (k + 1 + 1)).1.val < m then {ball (k + 1 + 1)} else ∅) ∪
      (if m ≤ (ball (k + 1)).1.val then {ball (k + 1)} else ∅) := by
  ext ⟨row, col⟩
  have hcol := ball_column_ne (k + 1)
  have hcol' := ball_column_ne (k + 1 + 1)
  simp only [balls, Finset.mem_filter, Finset.mem_univ, true_and, hrows, Finset.mem_union]
  -- above the seam a row shows the newer frame, below it the older one
  by_cases hseam : row.val < m
  · rw [if_pos hseam]
    apply Iff.intro
    · rintro ⟨hne, hbit⟩
      have heq := (testBit_pattern (k + 1) row col hne).mp hbit
      rw [← heq, if_pos hseam]
      simp
    · rintro (hmem | hmem) <;> split at hmem <;> simp at hmem
      · rw [← hmem] at hcol'
        exact ⟨hcol', (testBit_pattern (k + 1) row col hcol').mpr hmem⟩
      · next hle =>
        rw [← hmem] at hle
        exact absurd hseam (Nat.not_lt_of_le hle)
  · rw [if_neg hseam]
    apply Iff.intro
    · rintro ⟨hne, hbit⟩
      have heq := (testBit_pattern k row col hne).mp hbit
      rw [← heq, if_pos (show m ≤ (row, col).1.val from Nat.le_of_not_lt hseam)]
      simp
    · rintro (hmem | hmem) <;> split at hmem <;> simp at hmem
      · next hlt =>
        rw [← hmem] at hlt
        exact absurd hlt hseam
      · rw [← hmem] at hcol
        exact ⟨hcol, (testBit_pattern k row col hcol).mpr hmem⟩

/-- **The ball while a frame is being sent.** The new ball is seen as soon as its row has been
sent and the old one until its row has been. So between two frames there is one ball; at one
place of the seam there is none, if the ball goes down, and there are two, if it goes up. -/
theorem screen_ball {s : State} (h : Reach step start s) (r : UInt8 → UInt8)
    (hfirst : 2 ≤ s.newest) (hlast : s.newest ≤ lastFrame) :
    balls (registers r s)
      = (if (ball s.newest).1.val < s.seam then {ball s.newest} else ∅) ∪
        (if s.seam ≤ (ball (s.newest - 1)).1.val then {ball (s.newest - 1)} else ∅) ∧
    (balls (registers r s)).card ≤ 2 ∧
    ((balls (registers r s)).card = 0 ↔
      s.seam = (ball s.newest).1.val ∧ s.seam = (ball (s.newest - 1)).1.val + 1) ∧
    ((balls (registers r s)).card = 2 ↔
      s.seam = (ball (s.newest - 1)).1.val ∧ s.seam = (ball s.newest).1.val + 1) := by
  obtain ⟨k, hk⟩ : ∃ k, s.newest = k + 1 + 1 := ⟨s.newest - 2, by omega⟩
  have hrows := (inv_of_reach h).registers_row r
  rw [hk, Nat.add_sub_cancel, picture_succ (by omega), picture_succ (by omega)] at hrows
  rw [hk, Nat.add_sub_cancel, balls_of_rows hrows]
  have hmoves := ball_moves (k + 1)
  have hne : ball (k + 1 + 1) ≠ ball (k + 1) := by
    intro heq
    rw [heq] at hmoves
    omega
  refine ⟨rfl, ?_⟩
  split <;> split
  · -- both rows are on the side where their ball is seen
    have hcard : ({ball (k + 1 + 1)} ∪ {ball (k + 1)} : Finset (Fin 8 × Fin 8)).card = 2 :=
      Finset.card_pair hne
    rw [hcard]
    omega
  · rw [Finset.union_empty, Finset.card_singleton]
    omega
  · rw [Finset.empty_union, Finset.card_singleton]
    omega
  · rw [Finset.union_empty, Finset.card_empty]
    omega

/-- The first frame and five rows of the second one: the old ball has gone, the new one has not
been sent. -/
def tornFrame : List Action := .fire :: List.replicate 15 .task ++ .fire :: List.replicate 9 .task

theorem screen_ball_torn : ∃ s, exec step start tornFrame = some s ∧
    (balls (registers (fun _ => 0) s)).card = 0 := by
  have hrun : (exec step start tornFrame).map (fun s => (s.newest, s.seam)) = some (2, 5) := by
    decide
  rcases Option.map_eq_some_iff.mp hrun with ⟨s, hs, hplace⟩
  obtain ⟨hnewest, hseam⟩ := Prod.mk.inj hplace
  obtain ⟨-, -, hnone, -⟩ := screen_ball ⟨tornFrame, hs⟩ (fun _ => 0) (by omega)
    (by rw [hnewest]; decide)
  refine ⟨s, hs, hnone.mpr ?_⟩
  rw [hseam, hnewest]
  decide

end Display
end EspLab
