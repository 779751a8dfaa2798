import EspLab.Lib.Blocks
import EspLab.Lib.Device
import Mathlib.Tactic.NormNum

/-!
# What an LED strip is for

The component `led_strip` keeps a strip of addressable LEDs behind one interface
(`led_strip_interface.h`): colours are put into memory by `set_pixel` and `set_pixel_rgbw`, and
`refresh` and `clear` send them out. This file says what that means without a buffer: a strip is
a list of LEDs, each with the colour it was given, or none since the strip was created. The
SPI and the RMT device are compared with it.
-/

namespace EspLab
namespace LedStrip

abbrev Byte := BitVec 8

/-- The bits of a byte as they are shifted out, the most significant one first. -/
def bitsMsb (b : Byte) : List Bool := (List.range 8).map b.getMsbD

theorem length_bitsMsb (b : Byte) : (bitsMsb b).length = 8 := rfl

/-- `uint32_t` -/
abbrev Word := BitVec 32

/-- `esp_err_t`: the codes the component returns itself, and those of the functions it calls. -/
inductive EspErr
  | ok
  | noMem
  | invalidArg
  | invalidState
  | notSupported
  | other (code : ℤ)
deriving DecidableEq

/-- `led_pixel_format_t` -/
inductive LedPixelFormat
  | grb
  | grbw
  | invalid
deriving DecidableEq

/-- `bytes_per_pixel`, as the constructors choose it for a valid format -/
def bytesPerPixel : LedPixelFormat → ℕ
  | .grbw => 4
  | _ => 3

/-- The colour of one LED. -/
structure Pixel where
  green : Byte
  red : Byte
  blue : Byte
  white : Byte
deriving DecidableEq

/-- The colour bytes of one LED in the order in which they are sent. -/
def Pixel.components (format : LedPixelFormat) (p : Pixel) : List Byte :=
  if format = .grbw then [p.green, p.red, p.blue, p.white] else [p.green, p.red, p.blue]

/-- All components zero: the LED is dark. -/
def Pixel.off : Pixel := ⟨0, 0, 0, 0⟩

/-- The calls of the interface. `δ` is what the driver below answers while a frame is sent. -/
inductive Call (δ : Type)
  | setPixel (index red green blue : Word)
  | setPixelRgbw (index red green blue white : Word)
  | refresh (driver : δ)
  | clear (driver : δ)
deriving DecidableEq

/-- The same call over another driver. -/
def Call.map {δ ε : Type} (f : δ → ε) : Call δ → Call ε
  | .setPixel index red green blue => .setPixel index red green blue
  | .setPixelRgbw index red green blue white => .setPixelRgbw index red green blue white
  | .refresh driver => .refresh (f driver)
  | .clear driver => .clear (f driver)

@[simp] theorem Call.map_map {δ ε ζ : Type} (f : δ → ε) (g : ε → ζ) (c : Call δ) :
    (c.map f).map g = c.map (g ∘ f) := by
  cases c <;> rfl

/-- The driver's part in a call, if it has one. -/
def Call.driver? {δ : Type} : Call δ → Option δ
  | .refresh driver => some driver
  | .clear driver => some driver
  | _ => none

theorem Call.map_congr {δ ε : Type} {f g : δ → ε} {c : Call δ}
    (h : ∀ driver ∈ c.driver?, f driver = g driver) : c.map f = c.map g := by
  cases c with
  | setPixel => rfl
  | setPixelRgbw => rfl
  | refresh driver => exact congrArg Call.refresh (h driver rfl)
  | clear driver => exact congrArg Call.clear (h driver rfl)

/-- What a call gives back, and the frame it handed to the driver, if it did. -/
structure Reply (φ : Type) where
  err : EspErr
  frame : Option φ
deriving DecidableEq

def Reply.map {φ ψ : Type} (f : φ → ψ) (r : Reply φ) : Reply ψ := ⟨r.err, r.frame.map f⟩

@[simp] theorem Reply.map_map {φ ψ χ : Type} (f : φ → ψ) (g : ψ → χ) (r : Reply φ) :
    (r.map f).map g = r.map (g ∘ f) := by
  simp [Reply.map]

theorem Reply.map_congr {φ ψ : Type} {f g : φ → ψ} {r : Reply φ}
    (h : ∀ frame ∈ r.frame, f frame = g frame) : r.map f = r.map g := by
  obtain ⟨err, _ | frame⟩ := r
  · rfl
  · exact congrArg (Reply.mk err) (congrArg some (h frame rfl))

/-- The end of sending a frame: the error returned, and whether the frame was handed over. -/
structure Outcome where
  err : EspErr
  sent : Bool
deriving DecidableEq

/-- A strip: the colour each LED has been given, `none` as long as it has been given none. -/
structure Strip where
  format : LedPixelFormat
  leds : List (Option Pixel)
deriving DecidableEq

namespace Strip

/-- A strip right after it has been created. -/
def fresh (format : LedPixelFormat) (maxLeds : ℕ) : Strip := ⟨format, List.replicate maxLeds none⟩

/-- Put a colour into memory. -/
def set (s : Strip) (index : Word) (p : Pixel) : Strip :=
  { s with leds := s.leds.set index.toNat (some p) }

/-- Every LED dark. -/
def dark (s : Strip) : Strip := { s with leds := s.leds.map fun _ => some .off }

/-- Hand the colours in memory to the driver. -/
def sendFrame (s : Strip) (o : Outcome) : Reply (List (Option Pixel)) :=
  ⟨o.err, if o.sent then some s.leds else none⟩

/-- What each call of the interface does. -/
def call (s : Strip) : Call Outcome → Option (Reply (List (Option Pixel)) × Strip)
  | .setPixel index red green blue =>
    if index.toNat < s.leds.length then
      some (⟨.ok, none⟩,
        s.set index ⟨green.truncate 8, red.truncate 8, blue.truncate 8, 0⟩)
    else some (⟨.invalidArg, none⟩, s)
  | .setPixelRgbw index red green blue white =>
    if index.toNat < s.leds.length ∧ bytesPerPixel s.format = 4 then
      some (⟨.ok, none⟩,
        s.set index ⟨green.truncate 8, red.truncate 8, blue.truncate 8, white.truncate 8⟩)
    else some (⟨.invalidArg, none⟩, s)
  | .refresh o => some (s.sendFrame o, s)
  | .clear o => some (s.dark.sendFrame o, s.dark)

/-- The memory of the strip is in reach of the device's 32-bit offsets and lengths. -/
def Fits (s : Strip) : Prop := s.leds.length * bytesPerPixel s.format * 24 < 2 ^ 32

instance (s : Strip) : Decidable s.Fits := inferInstanceAs (Decidable (_ < _))

@[simp] theorem set_format (s : Strip) (i : Word) (p : Pixel) : (s.set i p).format = s.format :=
  rfl

@[simp] theorem set_length (s : Strip) (i : Word) (p : Pixel) :
    (s.set i p).leds.length = s.leds.length := List.length_set

@[simp] theorem dark_format (s : Strip) : s.dark.format = s.format := rfl

@[simp] theorem dark_length (s : Strip) : s.dark.leds.length = s.leds.length := List.length_map _

/-- Every call is answered. -/
theorem exists_replies (s : Strip) (calls : List (Call Outcome)) :
    ∃ rs t, Device.replies call s calls = some (rs, t) := by
  have hcall : ∀ (s : Strip) (c : Call Outcome), True → ∃ r t, s.call c = some (r, t) ∧ True := by
    intro s c _
    cases c <;> rw [call]
    case setPixel => split <;> exact ⟨_, _, rfl, trivial⟩
    case setPixelRgbw => split <;> exact ⟨_, _, rfl, trivial⟩
    all_goals exact ⟨_, _, rfl, trivial⟩
  obtain ⟨rs, t, ht, -⟩ := Device.exists_replies (I := fun _ => True) hcall trivial calls
  exact ⟨rs, t, ht⟩

/-- The format and the number of LEDs never change. -/
theorem call_shape {s t : Strip} {c : Call Outcome} {r : Reply (List (Option Pixel))}
    (h : s.call c = some (r, t)) : t.format = s.format ∧ t.leds.length = s.leds.length := by
  cases c with
  | setPixel =>
    rw [call] at h
    split at h <;> cases h <;> simp
  | setPixelRgbw =>
    rw [call] at h
    split at h <;> cases h <;> simp
  | refresh =>
    cases h
    simp
  | clear =>
    cases h
    simp

/-- Every LED has been given a colour. -/
def Painted (s : Strip) : Prop := ∀ led ∈ s.leds, led ≠ none

instance (s : Strip) : Decidable s.Painted := inferInstanceAs (Decidable (∀ _ ∈ _, _))

theorem painted_dark (s : Strip) : s.dark.Painted := by
  intro led hled
  obtain ⟨x, -, rfl⟩ := List.mem_map.mp hled
  simp

theorem Painted.set {s : Strip} (h : s.Painted) (i : Word) (p : Pixel) : (s.set i p).Painted := by
  intro led hled
  rcases List.mem_or_eq_of_mem_set hled with hled | rfl
  · exact h led hled
  · simp

theorem Painted.call {s t : Strip} (h : s.Painted) {c : Call Outcome}
    {r : Reply (List (Option Pixel))} (hc : s.call c = some (r, t)) :
    t.Painted ∧ ∀ leds ∈ r.frame, ∀ led ∈ leds, led ≠ none := by
  cases c with
  | setPixel =>
    rw [Strip.call] at hc
    split at hc <;> cases hc
    · exact ⟨h.set _ _, by simp⟩
    · exact ⟨h, by simp⟩
  | setPixelRgbw =>
    rw [Strip.call] at hc
    split at hc <;> cases hc
    · exact ⟨h.set _ _, by simp⟩
    · exact ⟨h, by simp⟩
  | refresh o =>
    cases hc
    refine ⟨h, fun leds hleds => ?_⟩
    rw [sendFrame] at hleds
    split at hleds <;> cases hleds
    exact h
  | clear o =>
    cases hc
    refine ⟨s.painted_dark, fun leds hleds => ?_⟩
    rw [sendFrame] at hleds
    split at hleds <;> cases hleds
    exact s.painted_dark

/-- Once every LED has a colour, every LED of every later frame has one. -/
theorem Painted.replies {s t : Strip} (h : s.Painted) {calls : List (Call Outcome)}
    {rs : List (Reply (List (Option Pixel)))}
    (hc : Device.replies Strip.call s calls = some (rs, t)) :
    ∀ r ∈ rs, ∀ leds ∈ r.frame, ∀ led ∈ leds, led ≠ none := by
  induction calls generalizing s rs with
  | nil =>
    cases hc
    simp
  | cons c calls ih =>
    obtain ⟨r, u, qs, hr, hqs, rfl⟩ := Device.replies_cons_eq_some.mp hc
    obtain ⟨hu, hframe⟩ := h.call hr
    exact List.forall_mem_cons.mpr ⟨hframe, ih hu hqs⟩

end Strip

theorem bytesPerPixel_cases (format : LedPixelFormat) :
    bytesPerPixel format = 3 ∧ format ≠ .grbw ∨ bytesPerPixel format = 4 ∧ format = .grbw := by
  cases format <;> simp [bytesPerPixel]

@[simp] theorem Pixel.length_components (format : LedPixelFormat) (p : Pixel) :
    (p.components format).length = bytesPerPixel format := by
  cases format <;> rfl

theorem Pixel.components_off (format : LedPixelFormat) :
    Pixel.off.components format = List.replicate (bytesPerPixel format) 0 := by
  cases format <;> rfl

/-- The colour bytes of a dark strip: zeros, one for each byte of each LED. -/
theorem Strip.dark_components (s : Strip) :
    (s.leds.flatMap fun _ => Pixel.off.components s.format)
      = List.replicate (s.leds.length * bytesPerPixel s.format) 0 := by
  rw [Pixel.components_off]
  induction s.leds with
  | nil => simp
  | cons led leds ih =>
    rw [List.flatMap_cons, ih, ← List.replicate_add, List.length_cons, Nat.succ_mul, Nat.add_comm]

/-! ## The 32-bit products of the devices -/

theorem toNat_zeroExtend (b : Byte) : (b.zeroExtend 32).toNat = b.toNat :=
  BitVec.toNat_setWidth_of_le (by decide)

/-- No product of the device wraps around as long as the largest of them does not. -/
theorem toNat_mul_mul {a b c : Word} (h : a.toNat * b.toNat * c.toNat < 2 ^ 32) (hc : 0 < c.toNat) :
    (a * b).toNat = a.toNat * b.toNat ∧ (a * b * c).toNat = a.toNat * b.toNat * c.toNat := by
  have hab : a.toNat * b.toNat < 2 ^ 32 :=
    Nat.lt_of_le_of_lt (Nat.le_mul_of_pos_right _ hc) h
  have hmul : (a * b).toNat = a.toNat * b.toNat := by
    rw [BitVec.toNat_mul, Nat.mod_eq_of_lt hab]
  exact ⟨hmul, by rw [BitVec.toNat_mul, hmul, Nat.mod_eq_of_lt h]⟩

end LedStrip
end EspLab
