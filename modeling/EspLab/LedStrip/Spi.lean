import EspLab.LedStrip.Strip
import Mathlib.Tactic.Ring

/-!
# The SPI device

`led_strip_spi_dev.c` produces the pulses of the LED protocol with the MOSI line: each bit of a
colour becomes three bits on the line, `100` for a zero and `110` for a one, so that a colour
byte takes three bytes of `pixel_buf`. The functions below work on the bytes of the allocated
block from `pixel_buf` on; an access behind its end makes them `none`.
-/

namespace EspLab
namespace LedStrip

open Blocks Device

/-- `BIT(n)` in a byte -/
def bit (n : ℕ) : Byte := 1#8 <<< n

/-- `buf[i] |= v` -/
def orAt (buf : List Byte) (i : ℕ) (v : Byte) : Option (List Byte) :=
  buf[i]?.map fun b => buf.set i (b ||| v)

/-- `__led_strip_spi_bit(data, &buf[off])` -/
def ledStripSpiBit (data : Byte) (buf : List Byte) (off : ℕ) : Option (List Byte) := do
  let buf ← orAt buf (off + 2) (if data &&& bit 0 ≠ 0 then bit 2 ||| bit 1 else bit 2)
  let buf ← orAt buf (off + 2) (if data &&& bit 1 ≠ 0 then bit 5 ||| bit 4 else bit 5)
  let buf ← orAt buf (off + 2) (if data &&& bit 2 ≠ 0 then bit 7 else 0)
  let buf ← orAt buf (off + 1) (bit 0)
  let buf ← orAt buf (off + 1) (if data &&& bit 3 ≠ 0 then bit 3 ||| bit 2 else bit 3)
  let buf ← orAt buf (off + 1) (if data &&& bit 4 ≠ 0 then bit 6 ||| bit 5 else bit 6)
  let buf ← orAt buf (off + 0) (if data &&& bit 5 ≠ 0 then bit 1 ||| bit 0 else bit 1)
  let buf ← orAt buf (off + 0) (if data &&& bit 6 ≠ 0 then bit 4 ||| bit 3 else bit 4)
  orAt buf (off + 0) (if data &&& bit 7 ≠ 0 then bit 7 ||| bit 6 else bit 7)

/-- `memset(&buf[off], 0, n)` -/
def memsetZero (buf : List Byte) (off n : ℕ) : Option (List Byte) :=
  overwrite buf off (List.replicate n 0)

/-- `led_strip_spi_obj`, without the handles of the driver. `pixelBuf` is what the block holds
from `pixel_buf` on. -/
structure LedStripSpiObj where
  stripLen : Word
  bytesPerPixel : Byte
  pixelBuf : List Byte
deriving DecidableEq

/-- `led_strip_spi_set_pixel` -/
def ledStripSpiSetPixel (spiStrip : LedStripSpiObj) (index red green blue : Word) :
    Option (EspErr × LedStripSpiObj) :=
  if index < spiStrip.stripLen then do
    let bpp : Word := spiStrip.bytesPerPixel.zeroExtend 32
    let start := (index * bpp * 3).toNat
    let buf ← memsetZero spiStrip.pixelBuf start (bpp * 3).toNat
    let buf ← ledStripSpiBit (green.truncate 8) buf start
    let buf ← ledStripSpiBit (red.truncate 8) buf (start + 3)
    let buf ← ledStripSpiBit (blue.truncate 8) buf (start + 3 * 2)
    let buf ← if spiStrip.bytesPerPixel > 3 then ledStripSpiBit 0 buf (start + 3 * 3)
      else some buf
    return (.ok, { spiStrip with pixelBuf := buf })
  else some (.invalidArg, spiStrip)

/-- `led_strip_spi_set_pixel_rgbw` -/
def ledStripSpiSetPixelRgbw (spiStrip : LedStripSpiObj) (index red green blue white : Word) :
    Option (EspErr × LedStripSpiObj) :=
  if index < spiStrip.stripLen then
    if spiStrip.bytesPerPixel = 4 then do
      let bpp : Word := spiStrip.bytesPerPixel.zeroExtend 32
      let start := (index * bpp * 3).toNat
      let buf ← memsetZero spiStrip.pixelBuf start (bpp * 3).toNat
      let buf ← ledStripSpiBit (green.truncate 8) buf start
      let buf ← ledStripSpiBit (red.truncate 8) buf (start + 3)
      let buf ← ledStripSpiBit (blue.truncate 8) buf (start + 3 * 2)
      let buf ← ledStripSpiBit (white.truncate 8) buf (start + 3 * 3)
      return (.ok, { spiStrip with pixelBuf := buf })
    else some (.invalidArg, spiStrip)
  else some (.invalidArg, spiStrip)

/-- `led_strip_spi_refresh`: `length` bits of `pixel_buf` are handed to `spi_device_transmit`,
whose result `driver` is returned. -/
def ledStripSpiRefresh (spiStrip : LedStripSpiObj) (driver : EspErr) :
    Option (Reply (List Bool) × LedStripSpiObj) :=
  let length := (spiStrip.stripLen * spiStrip.bytesPerPixel.zeroExtend 32 * 24).toNat
  let txBuffer := spiStrip.pixelBuf.flatMap bitsMsb
  if length ≤ txBuffer.length then some (⟨driver, some (txBuffer.take length)⟩, spiStrip)
  else none

/-- The loop of `led_strip_spi_clear`, from `buf` at `off` on. -/
def clearLoop (buf : List Byte) (off : ℕ) : ℕ → Option (List Byte)
  | 0 => some buf
  | n + 1 => do
    let buf ← ledStripSpiBit 0 buf off
    clearLoop buf (off + 3) n

/-- `led_strip_spi_clear` -/
def ledStripSpiClear (spiStrip : LedStripSpiObj) (driver : EspErr) :
    Option (Reply (List Bool) × LedStripSpiObj) := do
  let bpp : Word := spiStrip.bytesPerPixel.zeroExtend 32
  let buf ← memsetZero spiStrip.pixelBuf 0 (spiStrip.stripLen * bpp * 3).toNat
  let buf ← clearLoop buf 0 (spiStrip.stripLen * bpp).toNat
  ledStripSpiRefresh { spiStrip with pixelBuf := buf } driver

/-- The interface of the SPI device. -/
def ledStripSpi (spiStrip : LedStripSpiObj) :
    Call EspErr → Option (Reply (List Bool) × LedStripSpiObj)
  | .setPixel index red green blue =>
    (ledStripSpiSetPixel spiStrip index red green blue).map fun r => (⟨r.1, none⟩, r.2)
  | .setPixelRgbw index red green blue white =>
    (ledStripSpiSetPixelRgbw spiStrip index red green blue white).map fun r => (⟨r.1, none⟩, r.2)
  | .refresh driver => ledStripSpiRefresh spiStrip driver
  | .clear driver => ledStripSpiClear spiStrip driver

/-! ## A colour byte on the line -/

theorem orAt_append (pre post : List Byte) (i : ℕ) (x v : Byte) (l r : List Byte)
    (h : l.length = i) : orAt (pre ++ (l ++ x :: r ++ post)) (pre.length + i) v
      = some (pre ++ (l ++ (x ||| v) :: r ++ post)) := by
  subst h
  simp [orAt]

/-- What `__led_strip_spi_bit` leaves in three zero bytes. -/
def spiWord (data : Byte) : List Byte := (ledStripSpiBit data [0, 0, 0] 0).getD []

/-- `__led_strip_spi_bit` touches its three bytes only. -/
theorem ledStripSpiBit_append (data : Byte) (pre post : List Byte) :
    ledStripSpiBit data (pre ++ ([0, 0, 0] ++ post)) pre.length
      = some (pre ++ (spiWord data ++ post)) := by
  have h2 : ∀ x y z v : Byte, orAt (pre ++ ([x, y, z] ++ post)) (pre.length + 2) v
      = some (pre ++ ([x, y, z ||| v] ++ post)) := fun x y z v =>
    orAt_append pre post 2 z v [x, y] [] rfl
  have h1 : ∀ x y z v : Byte, orAt (pre ++ ([x, y, z] ++ post)) (pre.length + 1) v
      = some (pre ++ ([x, y ||| v, z] ++ post)) := fun x y z v =>
    orAt_append pre post 1 y v [x] [z] rfl
  have h0 : ∀ x y z v : Byte, orAt (pre ++ ([x, y, z] ++ post)) (pre.length + 0) v
      = some (pre ++ ([x ||| v, y, z] ++ post)) := fun x y z v =>
    orAt_append pre post 0 x v [] [y, z] rfl
  simp only [ledStripSpiBit, h2, h1, h0, Option.bind_eq_bind, Option.bind_some]
  rfl

/-- `100` for a zero, `110` for a one. -/
def spiPulse (b : Bool) : List Bool := [true, b, false]

/-- The three bytes of a colour byte are the pulses of its bits, most significant bit first. -/
theorem bits_spiWord : ∀ data : Byte,
    (spiWord data).flatMap bitsMsb = (bitsMsb data).flatMap spiPulse := by decide +kernel

theorem length_spiWord : ∀ data : Byte, (spiWord data).length = 3 := by decide +kernel

/-- `__led_strip_spi_bit` for one colour byte after the other. -/
def ledStripSpiBits (buf : List Byte) (off : ℕ) : List Byte → Option (List Byte)
  | [] => some buf
  | data :: ds => do
    let buf ← ledStripSpiBit data buf off
    ledStripSpiBits buf (off + 3) ds

theorem ledStripSpiBits_append (ds pre post : List Byte) :
    ledStripSpiBits (pre ++ (List.replicate (ds.length * 3) 0 ++ post)) pre.length ds
      = some (pre ++ (ds.flatMap spiWord ++ post)) := by
  induction ds generalizing pre with
  | nil => rfl
  | cons data ds ih =>
    have hzero : List.replicate ((data :: ds).length * 3) (0 : Byte) ++ post
        = [0, 0, 0] ++ (List.replicate (ds.length * 3) 0 ++ post) := by
      rw [List.length_cons, Nat.succ_mul, Nat.add_comm, List.replicate_add, List.append_assoc]
      rfl
    have hlen : pre.length + 3 = (pre ++ spiWord data).length := by
      rw [List.length_append, length_spiWord]
    rw [hzero, ledStripSpiBits, ledStripSpiBit_append, Option.bind_eq_bind, Option.bind_some,
      ← List.append_assoc, hlen, ih]
    simp

/-- Zeroing the bytes of some colour bytes and then writing them is one write of their words. -/
theorem memsetZero_bind_bits (buf : List Byte) (off : ℕ) (ds : List Byte) :
    (memsetZero buf off (ds.length * 3)).bind (fun buf => ledStripSpiBits buf off ds)
      = overwrite buf off (ds.flatMap spiWord) := by
  have hlen : (ds.flatMap spiWord).length = ds.length * 3 :=
    length_flatMap_word length_spiWord ds
  by_cases h : off + ds.length * 3 ≤ buf.length
  · obtain ⟨pre, old, post, rfl, rfl, hold⟩ := exists_split h
    rw [memsetZero, overwrite_append _ _ _ _ (by rw [List.length_replicate, hold]),
      Option.bind_some, ledStripSpiBits_append, overwrite_append _ _ _ _ (by rw [hlen, hold])]
  · rw [memsetZero, overwrite_eq_none_iff.mpr, overwrite_eq_none_iff.mpr]
    · rfl
    · omega
    · rw [List.length_replicate]
      omega

theorem clearLoop_eq (buf : List Byte) (off n : ℕ) :
    clearLoop buf off n = ledStripSpiBits buf off (List.replicate n 0) := by
  induction n generalizing buf off with
  | zero => rfl
  | succ n ih =>
    rw [clearLoop, List.replicate_succ, ledStripSpiBits]
    exact congrArg _ (funext fun buf => ih buf (off + 3))

/-! ## The object and the strip it stands for -/

/-- The bytes of one LED in `pixel_buf`: zeros as `calloc` left them, or its colour bytes. -/
def spiBytes (format : LedPixelFormat) : Option Pixel → List Byte
  | none => List.replicate (bytesPerPixel format * 3) 0
  | some p => (p.components format).flatMap spiWord

/-- What one LED gets to see on the line: nothing but low, or the pulses of its colour. -/
def spiLine (format : LedPixelFormat) : Option Pixel → List Bool
  | none => List.replicate (bytesPerPixel format * 24) false
  | some p => ((p.components format).flatMap bitsMsb).flatMap spiPulse

theorem length_spiBytes (format : LedPixelFormat) (led : Option Pixel) :
    (spiBytes format led).length = bytesPerPixel format * 3 := by
  cases led with
  | none => exact List.length_replicate
  | some p =>
    rw [spiBytes, length_flatMap_word length_spiWord, Pixel.length_components]

theorem bits_spiBytes (format : LedPixelFormat) (led : Option Pixel) :
    (spiBytes format led).flatMap bitsMsb = spiLine format led := by
  cases led with
  | none =>
    have h : bitsMsb 0 = List.replicate 8 false := by decide
    rw [spiBytes, spiLine, List.flatMap_replicate, h, List.flatten_replicate_replicate]
    congr 1
    omega
  | some p =>
    rw [spiBytes, spiLine, List.flatMap_assoc, List.flatMap_assoc]
    exact List.flatMap_congr fun data _ => bits_spiWord data

/-- The object holds the strip: each LED's bytes in turn, and what else the block has. -/
structure SpiRepresents (o : LedStripSpiObj) (s : Strip) : Prop where
  stripLen : o.stripLen.toNat = s.leds.length
  pixelSize : o.bytesPerPixel.toNat = bytesPerPixel s.format
  pixelBuf : ∃ slack, o.pixelBuf = s.leds.flatMap (spiBytes s.format) ++ slack
  fits : s.Fits

namespace SpiRepresents

variable {o : LedStripSpiObj} {s : Strip}

/-- Where the bytes of an LED start. -/
theorem start_eq (h : SpiRepresents o s) {index : Word} (hi : index.toNat < s.leds.length) :
    (index * o.bytesPerPixel.zeroExtend 32 * 3).toNat
      = index.toNat * (bytesPerPixel s.format * 3) := by
  have hfits := h.fits
  unfold Strip.Fits at hfits
  have hle : index.toNat * bytesPerPixel s.format
      ≤ s.leds.length * bytesPerPixel s.format := Nat.mul_le_mul_right _ hi.le
  have hmul := toNat_mul_mul (a := index) (b := o.bytesPerPixel.zeroExtend 32) (c := 3) (by
    rw [toNat_zeroExtend, h.pixelSize, show (3 : Word).toNat = 3 from rfl]
    omega) (by decide)
  rw [hmul.2, toNat_zeroExtend, h.pixelSize, Nat.mul_assoc]
  rfl

/-- The sizes that `refresh` and `clear` compute. -/
theorem sizes_eq (h : SpiRepresents o s) :
    (o.stripLen * o.bytesPerPixel.zeroExtend 32).toNat
        = s.leds.length * bytesPerPixel s.format ∧
      (o.stripLen * o.bytesPerPixel.zeroExtend 32 * 3).toNat
        = s.leds.length * (bytesPerPixel s.format * 3) ∧
      (o.stripLen * o.bytesPerPixel.zeroExtend 32 * 24).toNat
        = s.leds.length * (bytesPerPixel s.format * 24) := by
  have hfits := h.fits
  unfold Strip.Fits at hfits
  have h24 := toNat_mul_mul (a := o.stripLen) (b := o.bytesPerPixel.zeroExtend 32) (c := 24) (by
    rw [toNat_zeroExtend, h.pixelSize, h.stripLen, show (24 : Word).toNat = 24 from rfl]
    exact hfits) (by decide)
  have h3 := toNat_mul_mul (a := o.stripLen) (b := o.bytesPerPixel.zeroExtend 32) (c := 3) (by
    rw [toNat_zeroExtend, h.pixelSize, h.stripLen, show (3 : Word).toNat = 3 from rfl]
    omega) (by decide)
  rw [h24.1, h24.2, h3.2, toNat_zeroExtend, h.pixelSize, h.stripLen, Nat.mul_assoc,
    Nat.mul_assoc]
  exact ⟨rfl, rfl, rfl⟩

/-- The bytes of a colour, written where the LED has its place. -/
theorem paint (h : SpiRepresents o s) {index : Word} (hi : index.toNat < s.leds.length)
    (p : Pixel) : ∃ buf, overwrite o.pixelBuf
        (index.toNat * (bytesPerPixel s.format * 3))
        ((p.components s.format).flatMap spiWord) = some buf ∧
      SpiRepresents { o with pixelBuf := buf } (s.set index p) := by
  obtain ⟨slack, hbuf⟩ := h.pixelBuf
  have hset := overwrite_flatMap (length_spiBytes s.format) s.leds hi (some p)
  refine ⟨_, by rw [hbuf]; exact overwrite_append_right hset slack, ?_⟩
  exact ⟨by simpa using h.stripLen, h.pixelSize, ⟨slack, rfl⟩, by
    simpa [Strip.Fits] using h.fits⟩

theorem refresh (h : SpiRepresents o s) (driver : EspErr) :
    ledStripSpiRefresh o driver
      = some (⟨driver, some (s.leds.flatMap (spiLine s.format))⟩, o) := by
  obtain ⟨slack, hbuf⟩ := h.pixelBuf
  have hline : (s.leds.flatMap (spiBytes s.format)).flatMap bitsMsb
      = s.leds.flatMap (spiLine s.format) := by
    rw [List.flatMap_assoc]
    exact List.flatMap_congr fun led _ => bits_spiBytes s.format led
  have hlen : (s.leds.flatMap (spiLine s.format)).length
      = s.leds.length * (bytesPerPixel s.format * 24) := by
    rw [← hline, length_flatMap_word length_bitsMsb,
      length_flatMap_word (length_spiBytes s.format)]
    ring
  -- what the block has behind the LEDs is not sent: the length counts their bits alone
  have htx : o.pixelBuf.flatMap bitsMsb
      = s.leds.flatMap (spiLine s.format) ++ slack.flatMap bitsMsb := by
    rw [hbuf, List.flatMap_append, hline]
  simp only [ledStripSpiRefresh, h.sizes_eq.2.2, htx, ← hlen, List.take_left]
  exact if_pos (by simp)

theorem lt_stripLen_iff (h : SpiRepresents o s) (index : Word) :
    index < o.stripLen ↔ index.toNat < s.leds.length := by
  rw [BitVec.lt_def, h.stripLen]

/-- The size that `memset` is given covers the colour bytes of one LED. -/
theorem size_eq (h : SpiRepresents o s) (p : Pixel) :
    (o.bytesPerPixel.zeroExtend 32 * 3 : Word).toNat = (p.components s.format).length * 3 := by
  rw [BitVec.toNat_mul, toNat_zeroExtend, h.pixelSize, Pixel.length_components]
  rcases bytesPerPixel_cases s.format with ⟨hb, -⟩ | ⟨hb, -⟩ <;> rw [hb] <;> rfl

/-- The part of `set_pixel` and `set_pixel_rgbw` that writes: `memset` and then the colour bytes
one after the other. -/
theorem write (h : SpiRepresents o s) {index : Word} (hi : index.toNat < s.leds.length)
    (p : Pixel) : ∃ buf,
      ((memsetZero o.pixelBuf (index * o.bytesPerPixel.zeroExtend 32 * 3).toNat
          (o.bytesPerPixel.zeroExtend 32 * 3 : Word).toNat).bind fun buf =>
        ledStripSpiBits buf (index * o.bytesPerPixel.zeroExtend 32 * 3).toNat
          (p.components s.format)) = some buf ∧
      SpiRepresents { o with pixelBuf := buf } (s.set index p) := by
  rw [h.start_eq hi, h.size_eq p, memsetZero_bind_bits]
  exact h.paint hi p

end SpiRepresents

/-- The part of `set_pixel` and `set_pixel_rgbw` behind their checks, by the colour bytes. -/
def spiStore (o : LedStripSpiObj) (index : Word) (components : List Byte) :
    Option (EspErr × LedStripSpiObj) :=
  ((memsetZero o.pixelBuf (index * o.bytesPerPixel.zeroExtend 32 * 3).toNat
      (o.bytesPerPixel.zeroExtend 32 * 3 : Word).toNat).bind fun buf =>
    ledStripSpiBits buf (index * o.bytesPerPixel.zeroExtend 32 * 3).toNat components).map
  fun buf => (.ok, { o with pixelBuf := buf })

theorem ledStripSpiSetPixel_eq {o : LedStripSpiObj} {format : LedPixelFormat}
    (hb : o.bytesPerPixel.toNat = bytesPerPixel format) (index red green blue : Word) :
    ledStripSpiSetPixel o index red green blue =
      if index < o.stripLen then
        spiStore o index
          (Pixel.components format ⟨green.truncate 8, red.truncate 8, blue.truncate 8, 0⟩)
      else some (.invalidArg, o) := by
  have hgt : o.bytesPerPixel > 3 ↔ format = .grbw := by
    rw [gt_iff_lt, BitVec.lt_def, hb]
    cases format <;> decide
  rw [ledStripSpiSetPixel, spiStore]
  -- the fourth byte is written for a format with a white channel only
  by_cases hf : format = .grbw
  · simp only [hgt, Pixel.components, if_pos hf, ledStripSpiBits, Option.map_bind,
      Option.bind_eq_bind, Option.pure_def, Function.comp_def, Option.map_some, Nat.reduceMul,
      Nat.add_assoc, Nat.reduceAdd]
  · simp only [hgt, Pixel.components, if_neg hf, ledStripSpiBits, Option.map_bind,
      Option.bind_eq_bind, Option.pure_def, Function.comp_def, Option.map_some, Nat.reduceMul,
      Nat.add_assoc, Nat.reduceAdd, Option.bind_some]

theorem ledStripSpiSetPixelRgbw_eq {o : LedStripSpiObj} {format : LedPixelFormat}
    (hb : o.bytesPerPixel.toNat = bytesPerPixel format) (index red green blue white : Word) :
    ledStripSpiSetPixelRgbw o index red green blue white =
      if index < o.stripLen ∧ bytesPerPixel format = 4 then
        spiStore o index (Pixel.components format
          ⟨green.truncate 8, red.truncate 8, blue.truncate 8, white.truncate 8⟩)
      else some (.invalidArg, o) := by
  have hfour : o.bytesPerPixel = 4 ↔ bytesPerPixel format = 4 := by
    rw [← hb, BitVec.toNat_eq]
    rfl
  rw [ledStripSpiSetPixelRgbw, spiStore, ite_and]
  rcases bytesPerPixel_cases format with ⟨h3, hf⟩ | ⟨h4, hf⟩
  · have hne : ¬ bytesPerPixel format = 4 := by
      rw [h3]
      decide
    rw [if_neg (mt hfour.mp hne), if_neg hne]
  · rw [if_pos (hfour.mpr h4)]
    simp only [h4, Pixel.components, if_pos hf, ledStripSpiBits, Option.map_bind,
      Option.bind_eq_bind, Option.pure_def, Function.comp_def, Option.map_some, Nat.reduceMul,
      Nat.add_assoc, Nat.reduceAdd, if_true]

namespace SpiRepresents

variable {o : LedStripSpiObj} {s : Strip}

theorem store (h : SpiRepresents o s) {index : Word} (hi : index.toNat < s.leds.length)
    (p : Pixel) : ∃ o', spiStore o index (p.components s.format) = some (.ok, o') ∧
      SpiRepresents o' (s.set index p) := by
  obtain ⟨buf, hbuf, hrep⟩ := h.write hi p
  refine ⟨_, ?_, hrep⟩
  rw [spiStore, hbuf, Option.map_some]

theorem clear (h : SpiRepresents o s) (driver : EspErr) :
    ∃ o', ledStripSpiClear o driver
      = some (⟨driver, some (s.dark.leds.flatMap (spiLine s.format))⟩, o') ∧
      SpiRepresents o' s.dark := by
  obtain ⟨hn, hn3, -⟩ := h.sizes_eq
  obtain ⟨slack, hbuf⟩ := h.pixelBuf
  -- the colour byte 0 is no zero on the line, so `memset` alone would not turn the LEDs off
  have hdark : (List.replicate (s.leds.length * bytesPerPixel s.format) 0).flatMap spiWord
      = s.dark.leds.flatMap (spiBytes s.format) := by
    rw [← s.dark_components, List.flatMap_assoc, Strip.dark, List.flatMap_map]
    rfl
  have hlen : (s.dark.leds.flatMap (spiBytes s.format)).length
      = (s.leds.flatMap (spiBytes s.format)).length := by
    rw [length_flatMap_word (length_spiBytes s.format),
      length_flatMap_word (length_spiBytes s.format), Strip.dark_length]
  have hwrite : (memsetZero o.pixelBuf 0
        (s.leds.length * (bytesPerPixel s.format * 3))).bind (fun buf =>
          clearLoop buf 0 (s.leds.length * bytesPerPixel s.format))
      = some (s.dark.leds.flatMap (spiBytes s.format) ++ slack) := by
    have hbits := memsetZero_bind_bits o.pixelBuf 0
      (List.replicate (s.leds.length * bytesPerPixel s.format) 0)
    rw [List.length_replicate, Nat.mul_assoc, hdark] at hbits
    simp only [clearLoop_eq]
    rw [hbits, hbuf]
    exact overwrite_append [] _ slack _ hlen
  have hrep : SpiRepresents
      { o with pixelBuf := s.dark.leds.flatMap (spiBytes s.format) ++ slack } s.dark :=
    ⟨by simpa using h.stripLen, h.pixelSize, ⟨slack, rfl⟩, by
      simpa [Strip.Fits] using h.fits⟩
  refine ⟨_, ?_, hrep⟩
  have hsend := hrep.refresh driver
  rw [Strip.dark_format] at hsend
  rw [← hsend]
  simp only [ledStripSpiClear, hn, hn3, Option.bind_eq_bind]
  rw [← Option.bind_assoc, hwrite, Option.bind_some]

end SpiRepresents

/-! ## Whole sequences of calls -/

/-- What `spi_device_transmit` answers is what the call returns; it is always asked. -/
def spiOutcome (driver : EspErr) : Outcome := ⟨driver, true⟩

/-- One call on the object is the same call on the strip. -/
theorem SpiRepresents.call {o : LedStripSpiObj} {s : Strip} (h : SpiRepresents o s)
    (c : Call EspErr) {r : Reply (List (Option Pixel))} {s' : Strip}
    (hc : s.call (c.map spiOutcome) = some (r, s')) :
    ∃ o', ledStripSpi o c = some (r.map (List.flatMap (spiLine s.format)), o') ∧
      SpiRepresents o' s' := by
  cases c with
  | setPixel index red green blue =>
    have heq := ledStripSpiSetPixel_eq h.pixelSize index red green blue
    rw [Call.map, Strip.call] at hc
    -- the check of the source, `index < strip_len`, is the bound of the strip
    by_cases hi : index.toNat < s.leds.length
    · obtain ⟨o', ho', hrep⟩ := h.store hi
        ⟨green.truncate 8, red.truncate 8, blue.truncate 8, 0⟩
      rw [if_pos hi] at hc
      cases hc
      rw [if_pos ((h.lt_stripLen_iff index).mpr hi), ho'] at heq
      exact ⟨o', by rw [ledStripSpi, heq]; rfl, hrep⟩
    · rw [if_neg hi] at hc
      cases hc
      rw [if_neg (mt (h.lt_stripLen_iff index).mp hi)] at heq
      exact ⟨o, by rw [ledStripSpi, heq]; rfl, h⟩
  | setPixelRgbw index red green blue white =>
    have heq := ledStripSpiSetPixelRgbw_eq h.pixelSize index red green blue white
    simp only [h.lt_stripLen_iff index] at heq
    rw [Call.map, Strip.call] at hc
    by_cases hi : index.toNat < s.leds.length ∧ bytesPerPixel s.format = 4
    · obtain ⟨o', ho', hrep⟩ := h.store hi.1
        ⟨green.truncate 8, red.truncate 8, blue.truncate 8, white.truncate 8⟩
      rw [if_pos hi] at hc
      cases hc
      rw [if_pos hi, ho'] at heq
      exact ⟨o', by rw [ledStripSpi, heq]; rfl, hrep⟩
    · rw [if_neg hi] at hc
      cases hc
      rw [if_neg hi] at heq
      exact ⟨o, by rw [ledStripSpi, heq]; rfl, h⟩
  | refresh driver =>
    cases hc
    exact ⟨o, h.refresh driver, h⟩
  | clear driver =>
    cases hc
    exact h.clear driver

/-- The format is part of what a call keeps. -/
theorem SpiRepresents.call_of_format {format : LedPixelFormat} (o : LedStripSpiObj) (s : Strip)
    (c : Call EspErr) (r : Reply (List (Option Pixel))) (s' : Strip)
    (h : SpiRepresents o s ∧ s.format = format) (hc : s.call (c.map spiOutcome) = some (r, s')) :
    ∃ o', ledStripSpi o c = some (r.map (List.flatMap (spiLine format)), o') ∧
      (SpiRepresents o' s' ∧ s'.format = format) := by
  obtain ⟨o', ho', hrep⟩ := h.1.call c hc
  rw [h.2] at ho'
  exact ⟨o', ho', hrep, (Strip.call_shape hc).1.trans h.2⟩

/-- So is any sequence of calls: none of them leaves the block, each returns what the strip
says, and each frame handed to `spi_device_transmit` is the line of the strip's LEDs. -/
theorem SpiRepresents.replies {o : LedStripSpiObj} {s s' : Strip} (h : SpiRepresents o s)
    {calls : List (Call EspErr)} {rs : List (Reply (List (Option Pixel)))}
    (hc : Device.replies Strip.call s (calls.map (Call.map spiOutcome)) = some (rs, s')) :
    ∃ o', Device.replies ledStripSpi o calls
        = some (rs.map (Reply.map (List.flatMap (spiLine s.format))), o') ∧
      SpiRepresents o' s' := by
  obtain ⟨o', ho', hrep, -⟩ := replies_simulate SpiRepresents.call_of_format ⟨h, rfl⟩ hc
  exact ⟨o', ho', hrep⟩

end LedStrip
end EspLab
