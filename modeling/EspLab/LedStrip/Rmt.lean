import EspLab.LedStrip.Strip

/-!
# The RMT device

`led_strip_rmt_dev.c` keeps the colour bytes themselves in `pixel_buf` and hands them to the RMT
peripheral, which is enabled for each frame and disabled after it. What the four functions of the
RMT driver answer while a frame is sent is an input of the call.
-/

namespace EspLab
namespace LedStrip

open Blocks Device

/-- `buf[i] = v` -/
def store (buf : List Byte) (i : ℕ) (v : Byte) : Option (List Byte) :=
  if i < buf.length then some (buf.set i v) else none

/-- The answers of the RMT driver while a frame is sent. -/
structure RmtDriver where
  /-- `rmt_enable` -/
  enable : EspErr
  /-- `rmt_transmit` -/
  transmit : EspErr
  /-- `rmt_tx_wait_all_done` -/
  waitAllDone : EspErr
  /-- `rmt_disable` -/
  disable : EspErr
deriving DecidableEq

/-- `led_strip_rmt_obj`, with the state of its channel in place of the handles. -/
structure LedStripRmtObj where
  stripLen : Word
  bytesPerPixel : Byte
  pixelBuf : List Byte
  enabled : Bool
deriving DecidableEq

/-- `led_strip_rmt_set_pixel` -/
def ledStripRmtSetPixel (rmtStrip : LedStripRmtObj) (index red green blue : Word) :
    Option (EspErr × LedStripRmtObj) :=
  if index < rmtStrip.stripLen then do
    let start := (index * rmtStrip.bytesPerPixel.zeroExtend 32).toNat
    let buf ← store rmtStrip.pixelBuf (start + 0) ((green &&& 0xFF).truncate 8)
    let buf ← store buf (start + 1) ((red &&& 0xFF).truncate 8)
    let buf ← store buf (start + 2) ((blue &&& 0xFF).truncate 8)
    let buf ← if rmtStrip.bytesPerPixel > 3 then store buf (start + 3) 0 else some buf
    return (.ok, { rmtStrip with pixelBuf := buf })
  else some (.invalidArg, rmtStrip)

/-- `led_strip_rmt_set_pixel_rgbw` -/
def ledStripRmtSetPixelRgbw (rmtStrip : LedStripRmtObj) (index red green blue white : Word) :
    Option (EspErr × LedStripRmtObj) :=
  if index < rmtStrip.stripLen then
    if rmtStrip.bytesPerPixel = 4 then do
      let start := (index * 4).toNat
      let buf ← store rmtStrip.pixelBuf start ((green &&& 0xFF).truncate 8)
      let buf ← store buf (start + 1) ((red &&& 0xFF).truncate 8)
      let buf ← store buf (start + 2) ((blue &&& 0xFF).truncate 8)
      let buf ← store buf (start + 3) ((white &&& 0xFF).truncate 8)
      return (.ok, { rmtStrip with pixelBuf := buf })
    else some (.invalidArg, rmtStrip)
  else some (.invalidArg, rmtStrip)

/-- `led_strip_rmt_refresh`: the frame is what `rmt_transmit` is given. -/
def ledStripRmtRefresh (rmtStrip : LedStripRmtObj) (driver : RmtDriver) :
    Option (Reply (List Byte) × LedStripRmtObj) :=
  if driver.enable ≠ .ok then some (⟨driver.enable, none⟩, rmtStrip)
  else
    let rmtStrip := { rmtStrip with enabled := true }
    let size := (rmtStrip.stripLen * rmtStrip.bytesPerPixel.zeroExtend 32).toNat
    if size ≤ rmtStrip.pixelBuf.length then
      let payload := rmtStrip.pixelBuf.take size
      if driver.transmit ≠ .ok then some (⟨driver.transmit, some payload⟩, rmtStrip)
      else if driver.waitAllDone ≠ .ok then some (⟨driver.waitAllDone, some payload⟩, rmtStrip)
      else if driver.disable ≠ .ok then some (⟨driver.disable, some payload⟩, rmtStrip)
      else some (⟨.ok, some payload⟩, { rmtStrip with enabled := false })
    else none

/-- `led_strip_rmt_clear` -/
def ledStripRmtClear (rmtStrip : LedStripRmtObj) (driver : RmtDriver) :
    Option (Reply (List Byte) × LedStripRmtObj) := do
  let size := (rmtStrip.stripLen * rmtStrip.bytesPerPixel.zeroExtend 32).toNat
  let buf ← overwrite rmtStrip.pixelBuf 0 (List.replicate size 0)
  ledStripRmtRefresh { rmtStrip with pixelBuf := buf } driver

/-- The interface of the RMT device. -/
def ledStripRmt (rmtStrip : LedStripRmtObj) :
    Call RmtDriver → Option (Reply (List Byte) × LedStripRmtObj)
  | .setPixel index red green blue =>
    (ledStripRmtSetPixel rmtStrip index red green blue).map fun r => (⟨r.1, none⟩, r.2)
  | .setPixelRgbw index red green blue white =>
    (ledStripRmtSetPixelRgbw rmtStrip index red green blue white).map fun r => (⟨r.1, none⟩, r.2)
  | .refresh driver => ledStripRmtRefresh rmtStrip driver
  | .clear driver => ledStripRmtClear rmtStrip driver

/-! ## Writing a pixel -/

theorem store_eq_overwrite (buf : List Byte) (i : ℕ) (v : Byte) :
    store buf i v = overwrite buf i [v] := by
  rw [store]
  by_cases h : i < buf.length
  · rw [if_pos h, eq_comm, overwrite_eq_some_iff, List.set_eq_take_append_cons_drop, if_pos h]
    exact ⟨h, by simp⟩
  · rw [if_neg h, eq_comm, overwrite_eq_none_iff, List.length_singleton]
    omega

theorem truncate_and_ff (x : Word) : ((x &&& 0xFF).truncate 8 : Byte) = x.truncate 8 := by
  apply BitVec.eq_of_toNat_eq
  rw [BitVec.toNat_setWidth, BitVec.toNat_setWidth, BitVec.toNat_and,
    show (0xFF : Word).toNat = 2 ^ 8 - 1 from rfl, Nat.and_two_pow_sub_one_eq_mod, Nat.mod_mod]

/-- The part of `set_pixel` and `set_pixel_rgbw` behind their checks, by the colour bytes. -/
def rmtStore (o : LedStripRmtObj) (index : Word) (components : List Byte) :
    Option (EspErr × LedStripRmtObj) :=
  (overwrite o.pixelBuf (index * o.bytesPerPixel.zeroExtend 32).toNat components).map
    fun buf => (.ok, { o with pixelBuf := buf })

theorem store_three (buf : List Byte) (off : ℕ) (x y z : Byte) :
    ((store buf off x).bind fun buf => (store buf (off + 1) y).bind fun buf =>
      store buf (off + 2) z) = overwrite buf off [x, y, z] := by
  simp only [store_eq_overwrite]
  have hyz : ∀ buf, ((overwrite buf (off + 1) [y]).bind fun buf => overwrite buf (off + 2) [z])
      = overwrite buf (off + 1) [y, z] := fun buf => overwrite_bind_append buf [y] [z] (off + 1)
  simp only [hyz]
  exact overwrite_bind_append buf [x] [y, z] off

theorem store_four (buf : List Byte) (off : ℕ) (x y z w : Byte) :
    ((store buf off x).bind fun buf => (store buf (off + 1) y).bind fun buf =>
      (store buf (off + 2) z).bind fun buf => store buf (off + 3) w)
        = overwrite buf off [x, y, z, w] := by
  show _ = overwrite buf off ([x, y, z] ++ [w])
  rw [← overwrite_bind_append, ← store_three]
  simp only [Option.bind_assoc, store_eq_overwrite]
  rfl

theorem ledStripRmtSetPixel_eq {o : LedStripRmtObj} {format : LedPixelFormat}
    (hb : o.bytesPerPixel.toNat = bytesPerPixel format) (index red green blue : Word) :
    ledStripRmtSetPixel o index red green blue =
      if index < o.stripLen then
        rmtStore o index
          (Pixel.components format ⟨green.truncate 8, red.truncate 8, blue.truncate 8, 0⟩)
      else some (.invalidArg, o) := by
  have hgt : o.bytesPerPixel > 3 ↔ format = .grbw := by
    rw [gt_iff_lt, BitVec.lt_def, hb]
    cases format <;> decide
  rw [ledStripRmtSetPixel, rmtStore]
  by_cases hf : format = .grbw
  · simp only [hgt, Pixel.components, if_pos hf, ← store_four, Option.map_eq_bind,
      Option.bind_assoc, Option.bind_eq_bind, Option.pure_def, Function.comp_def,
      truncate_and_ff, Nat.add_zero]
  · simp only [hgt, Pixel.components, if_neg hf, ← store_three, Option.map_eq_bind,
      Option.bind_assoc, Option.bind_eq_bind, Option.pure_def, Function.comp_def,
      truncate_and_ff, Nat.add_zero, Option.bind_some]

theorem ledStripRmtSetPixelRgbw_eq {o : LedStripRmtObj} {format : LedPixelFormat}
    (hb : o.bytesPerPixel.toNat = bytesPerPixel format) (index red green blue white : Word) :
    ledStripRmtSetPixelRgbw o index red green blue white =
      if index < o.stripLen ∧ bytesPerPixel format = 4 then
        rmtStore o index (Pixel.components format
          ⟨green.truncate 8, red.truncate 8, blue.truncate 8, white.truncate 8⟩)
      else some (.invalidArg, o) := by
  have hfour : o.bytesPerPixel = 4 ↔ bytesPerPixel format = 4 := by
    rw [← hb, BitVec.toNat_eq]
    rfl
  rw [ledStripRmtSetPixelRgbw, rmtStore, ite_and]
  rcases bytesPerPixel_cases format with ⟨h3, hf⟩ | ⟨h4, hf⟩
  · have hne : ¬ bytesPerPixel format = 4 := by
      rw [h3]
      decide
    rw [if_neg (mt hfour.mp hne), if_neg hne]
  · have hext : (o.bytesPerPixel.zeroExtend 32 : Word) = 4 := by
      rw [hfour.mpr h4]
      rfl
    rw [if_pos (hfour.mpr h4), hext]
    simp only [h4, Pixel.components, if_pos hf, ← store_four, Option.map_eq_bind,
      Option.bind_assoc, Option.bind_eq_bind, Option.pure_def, Function.comp_def,
      truncate_and_ff, if_true]

/-! ## The object and the strip it stands for -/

/-- The bytes of one LED in `pixel_buf`: an LED without a colour is as dark as one set dark. -/
def rmtBytes (format : LedPixelFormat) (led : Option Pixel) : List Byte :=
  (led.getD .off).components format

theorem length_rmtBytes (format : LedPixelFormat) (led : Option Pixel) :
    (rmtBytes format led).length = bytesPerPixel format := Pixel.length_components format _

/-- The object holds the strip: each LED's bytes in turn, and what else the block has. -/
structure RmtRepresents (o : LedStripRmtObj) (s : Strip) : Prop where
  stripLen : o.stripLen.toNat = s.leds.length
  pixelSize : o.bytesPerPixel.toNat = bytesPerPixel s.format
  pixelBuf : ∃ slack, o.pixelBuf = s.leds.flatMap (rmtBytes s.format) ++ slack
  fits : s.Fits

namespace RmtRepresents

variable {o : LedStripRmtObj} {s : Strip}

theorem lt_stripLen_iff (h : RmtRepresents o s) (index : Word) :
    index < o.stripLen ↔ index.toNat < s.leds.length := by
  rw [BitVec.lt_def, h.stripLen]

/-- Where the bytes of an LED start, or all of them end. -/
theorem offset_eq (h : RmtRepresents o s) {n : Word} (hn : n.toNat ≤ s.leds.length) :
    (n * o.bytesPerPixel.zeroExtend 32).toNat = n.toNat * bytesPerPixel s.format := by
  have hfits := h.fits
  unfold Strip.Fits at hfits
  have hle : n.toNat * bytesPerPixel s.format ≤ s.leds.length * bytesPerPixel s.format :=
    Nat.mul_le_mul_right _ hn
  rw [BitVec.toNat_mul, toNat_zeroExtend, h.pixelSize, Nat.mod_eq_of_lt (by omega)]

/-- The state of the channel is no part of what the object holds. -/
theorem withEnabled (h : RmtRepresents o s) (b : Bool) :
    RmtRepresents { o with enabled := b } s := ⟨h.stripLen, h.pixelSize, h.pixelBuf, h.fits⟩

theorem store (h : RmtRepresents o s) {index : Word} (hi : index.toNat < s.leds.length)
    (p : Pixel) : ∃ o', rmtStore o index (p.components s.format) = some (.ok, o') ∧
      RmtRepresents o' (s.set index p) := by
  obtain ⟨slack, hbuf⟩ := h.pixelBuf
  have hset := overwrite_flatMap (length_rmtBytes s.format) s.leds hi (some p)
  refine ⟨{ o with pixelBuf := (s.leds.set index.toNat (some p)).flatMap (rmtBytes s.format)
    ++ slack }, ?_, by simpa using h.stripLen, h.pixelSize, ⟨slack, rfl⟩, by
    simpa [Strip.Fits] using h.fits⟩
  rw [rmtStore, h.offset_eq hi.le, hbuf]
  exact congrArg _ (overwrite_append_right hset slack)

end RmtRepresents

/-! ## Sending a frame -/

/-- How the four answers of the driver end a frame: the first error is returned, and the frame
was handed over if the channel could be enabled. -/
def rmtOutcome (driver : RmtDriver) : Outcome :=
  if driver.enable ≠ .ok then ⟨driver.enable, false⟩
  else if driver.transmit ≠ .ok then ⟨driver.transmit, true⟩
  else if driver.waitAllDone ≠ .ok then ⟨driver.waitAllDone, true⟩
  else ⟨driver.disable, true⟩

/-- The channel after a frame: disabled again if every answer was `ESP_OK`. -/
def enabledAfter (enabled : Bool) (driver : RmtDriver) : Bool :=
  if driver.enable ≠ .ok then enabled else (rmtOutcome driver).err ≠ .ok

namespace RmtRepresents

variable {o : LedStripRmtObj} {s : Strip}

/-- The bytes that are handed over: those of the LEDs. -/
theorem payload (h : RmtRepresents o s) :
    (o.stripLen * o.bytesPerPixel.zeroExtend 32).toNat ≤ o.pixelBuf.length ∧
    o.pixelBuf.take (o.stripLen * o.bytesPerPixel.zeroExtend 32).toNat
      = s.leds.flatMap (rmtBytes s.format) := by
  obtain ⟨slack, hbuf⟩ := h.pixelBuf
  have hsize : (o.stripLen * o.bytesPerPixel.zeroExtend 32).toNat
      = (s.leds.flatMap (rmtBytes s.format)).length := by
    rw [h.offset_eq h.stripLen.le, h.stripLen, length_flatMap_word (length_rmtBytes s.format)]
  rw [hsize, hbuf, List.take_left, List.length_append]
  exact ⟨by omega, rfl⟩

/-- All LEDs are dark when their bytes are zero. -/
theorem memset (h : RmtRepresents o s) :
    ∃ buf, overwrite o.pixelBuf 0
        (List.replicate (o.stripLen * o.bytesPerPixel.zeroExtend 32).toNat 0) = some buf ∧
      RmtRepresents { o with pixelBuf := buf } s.dark := by
  obtain ⟨slack, hbuf⟩ := h.pixelBuf
  have hdark : List.replicate (s.leds.length * bytesPerPixel s.format) 0
      = s.dark.leds.flatMap (rmtBytes s.format) := by
    rw [← s.dark_components, Strip.dark, List.flatMap_map]
    rfl
  have hlen : (s.dark.leds.flatMap (rmtBytes s.format)).length
      = (s.leds.flatMap (rmtBytes s.format)).length := by
    rw [length_flatMap_word (length_rmtBytes s.format),
      length_flatMap_word (length_rmtBytes s.format), Strip.dark_length]
  refine ⟨s.dark.leds.flatMap (rmtBytes s.format) ++ slack, ?_, ?_⟩
  · rw [h.offset_eq h.stripLen.le, h.stripLen, hdark, hbuf]
    exact overwrite_append [] _ slack _ hlen
  · exact ⟨by simpa using h.stripLen, h.pixelSize, ⟨slack, rfl⟩, by
      simpa [Strip.Fits] using h.fits⟩

theorem refresh (h : RmtRepresents o s) (driver : RmtDriver) :
    ledStripRmtRefresh o driver
      = some ((s.sendFrame (rmtOutcome driver)).map (List.flatMap (rmtBytes s.format)),
        { o with enabled := enabledAfter o.enabled driver }) := by
  obtain ⟨hin, htake⟩ := h.payload
  unfold ledStripRmtRefresh
  simp only [htake, if_pos hin, rmtOutcome, enabledAfter]
  -- one case for each call of the driver that may end the frame
  clear hin htake
  split_ifs <;> simp_all [Strip.sendFrame, Reply.map]

theorem clear (h : RmtRepresents o s) (driver : RmtDriver) :
    ∃ o', ledStripRmtClear o driver
        = some ((s.dark.sendFrame (rmtOutcome driver)).map (List.flatMap (rmtBytes s.format)), o') ∧
      RmtRepresents o' s.dark := by
  obtain ⟨buf, hwrite, hrep⟩ := h.memset
  have hsend := hrep.refresh driver
  rw [Strip.dark_format] at hsend
  refine ⟨_, ?_, hrep.withEnabled (enabledAfter o.enabled driver)⟩
  rw [ledStripRmtClear, hwrite]
  exact hsend

/-- One call on the object is the same call on the strip. -/
theorem call (h : RmtRepresents o s) (c : Call RmtDriver)
    {r : Reply (List (Option Pixel))} {s' : Strip}
    (hc : s.call (c.map rmtOutcome) = some (r, s')) :
    ∃ o', ledStripRmt o c = some (r.map (List.flatMap (rmtBytes s.format)), o') ∧
      RmtRepresents o' s' := by
  cases c with
  | setPixel index red green blue =>
    have heq := ledStripRmtSetPixel_eq h.pixelSize index red green blue
    rw [Call.map, Strip.call] at hc
    by_cases hi : index.toNat < s.leds.length
    · obtain ⟨o', ho', hrep⟩ := h.store hi
        ⟨green.truncate 8, red.truncate 8, blue.truncate 8, 0⟩
      rw [if_pos hi] at hc
      cases hc
      rw [if_pos ((h.lt_stripLen_iff index).mpr hi), ho'] at heq
      exact ⟨o', by rw [ledStripRmt, heq]; rfl, hrep⟩
    · rw [if_neg hi] at hc
      cases hc
      rw [if_neg (mt (h.lt_stripLen_iff index).mp hi)] at heq
      exact ⟨o, by rw [ledStripRmt, heq]; rfl, h⟩
  | setPixelRgbw index red green blue white =>
    have heq := ledStripRmtSetPixelRgbw_eq h.pixelSize index red green blue white
    simp only [h.lt_stripLen_iff index] at heq
    rw [Call.map, Strip.call] at hc
    by_cases hi : index.toNat < s.leds.length ∧ bytesPerPixel s.format = 4
    · obtain ⟨o', ho', hrep⟩ := h.store hi.1
        ⟨green.truncate 8, red.truncate 8, blue.truncate 8, white.truncate 8⟩
      rw [if_pos hi] at hc
      cases hc
      rw [if_pos hi, ho'] at heq
      exact ⟨o', by rw [ledStripRmt, heq]; rfl, hrep⟩
    · rw [if_neg hi] at hc
      cases hc
      rw [if_neg hi] at heq
      exact ⟨o, by rw [ledStripRmt, heq]; rfl, h⟩
  | refresh driver =>
    cases hc
    exact ⟨_, h.refresh driver, h.withEnabled _⟩
  | clear driver =>
    cases hc
    exact h.clear driver

/-- The format is part of what a call keeps. -/
theorem call_of_format {format : LedPixelFormat} (o : LedStripRmtObj) (s : Strip)
    (c : Call RmtDriver) (r : Reply (List (Option Pixel))) (s' : Strip)
    (h : RmtRepresents o s ∧ s.format = format) (hc : s.call (c.map rmtOutcome) = some (r, s')) :
    ∃ o', ledStripRmt o c = some (r.map (List.flatMap (rmtBytes format)), o') ∧
      (RmtRepresents o' s' ∧ s'.format = format) := by
  obtain ⟨o', ho', hrep⟩ := h.1.call c hc
  rw [h.2] at ho'
  exact ⟨o', ho', hrep, (Strip.call_shape hc).1.trans h.2⟩

/-- So is any sequence of calls. -/
theorem replies {s' : Strip} (h : RmtRepresents o s) {calls : List (Call RmtDriver)}
    {rs : List (Reply (List (Option Pixel)))}
    (hc : Device.replies Strip.call s (calls.map (Call.map rmtOutcome)) = some (rs, s')) :
    ∃ o', Device.replies ledStripRmt o calls
        = some (rs.map (Reply.map (List.flatMap (rmtBytes s.format))), o') ∧
      RmtRepresents o' s' := by
  obtain ⟨o', ho', hrep, -⟩ := replies_simulate call_of_format ⟨h, rfl⟩ hc
  exact ⟨o', ho', hrep⟩

end RmtRepresents

/-! ## A channel left enabled

`rmt_enable` refuses a channel that is enabled already. As `refresh` returns at the first error,
an error behind `rmt_enable` leaves the channel enabled. -/

end LedStrip
end EspLab
