import EspLab.LedStrip.Construct

/-!
# When the block is large enough

The sizes and offsets of the SPI device are products of 32 bits. The block that
`led_strip_new_spi_device` allocates is as large as what is later written to it exactly as long as
its size does not wrap around; beyond that some call writes behind its end.
-/

namespace EspLab
namespace LedStrip

open Blocks Device

/-- The object has room for its LEDs. -/
structure HasRoom (format : LedPixelFormat) (o : LedStripSpiObj) : Prop where
  pixelSize : o.bytesPerPixel.toNat = bytesPerPixel format
  noWrap : o.stripLen.toNat * (bytesPerPixel format * 3) < 2 ^ 32
  room : o.stripLen.toNat * (bytesPerPixel format * 3) ≤ o.pixelBuf.length

section Offsets

variable {format : LedPixelFormat} {o : LedStripSpiObj}

theorem toNat_start (hb : o.bytesPerPixel.toNat = bytesPerPixel format) {n : Word}
    (hn : n.toNat * (bytesPerPixel format * 3) < 2 ^ 32) :
    (n * o.bytesPerPixel.zeroExtend 32 * 3).toNat = n.toNat * (bytesPerPixel format * 3) := by
  have hmul := toNat_mul_mul (a := n) (b := o.bytesPerPixel.zeroExtend 32) (c := 3) (by
    rw [toNat_zeroExtend, hb, show (3 : Word).toNat = 3 from rfl, Nat.mul_assoc]
    exact hn) (by decide)
  rw [hmul.2, toNat_zeroExtend, hb, Nat.mul_assoc]
  rfl

theorem toNat_size (hb : o.bytesPerPixel.toNat = bytesPerPixel format) :
    (o.bytesPerPixel.zeroExtend 32 * 3 : Word).toNat = bytesPerPixel format * 3 := by
  rw [BitVec.toNat_mul, toNat_zeroExtend, hb]
  rcases bytesPerPixel_cases format with ⟨hb, -⟩ | ⟨hb, -⟩ <;> rw [hb] <;> rfl

/-- Writing a colour is one write of its words at the place of the LED. -/
theorem spiStore_eq (hb : o.bytesPerPixel.toNat = bytesPerPixel format) {index : Word}
    (hn : index.toNat * (bytesPerPixel format * 3) < 2 ^ 32) (p : Pixel) :
    spiStore o index (p.components format)
      = (overwrite o.pixelBuf (index.toNat * (bytesPerPixel format * 3))
          ((p.components format).flatMap spiWord)).map
        fun buf => (.ok, { o with pixelBuf := buf }) := by
  have hstore := memsetZero_bind_bits o.pixelBuf (index.toNat * (bytesPerPixel format * 3))
    (p.components format)
  rw [Pixel.length_components] at hstore
  rw [spiStore, toNat_start hb hn, toNat_size hb, hstore]

theorem length_words (format : LedPixelFormat) (p : Pixel) :
    ((p.components format).flatMap spiWord).length = bytesPerPixel format * 3 := by
  rw [length_flatMap_word length_spiWord, Pixel.length_components]

/-- An LED whose place is not in the block cannot be set. -/
theorem setPixel_out_of_block (hb : o.bytesPerPixel.toNat = bytesPerPixel format) {index : Word}
    (hi : index < o.stripLen) (hn : index.toNat * (bytesPerPixel format * 3) < 2 ^ 32)
    (hout : o.pixelBuf.length < (index.toNat + 1) * (bytesPerPixel format * 3))
    (red green blue : Word) : ledStripSpi o (.setPixel index red green blue) = none := by
  rw [ledStripSpi, ledStripSpiSetPixel_eq hb, if_pos hi, spiStore_eq hb hn,
    overwrite_eq_none_iff.mpr]
  · rfl
  · rw [length_words, ← Nat.succ_mul]
    exact hout

end Offsets

namespace HasRoom

variable {format : LedPixelFormat} {o : LedStripSpiObj}

/-- A buffer of the same length will do. -/
theorem withBuf (h : HasRoom format o) {buf : List Byte} (hlen : buf.length = o.pixelBuf.length) :
    HasRoom format { o with pixelBuf := buf } := ⟨h.pixelSize, h.noWrap, by
  rw [hlen]
  exact h.room⟩

theorem noWrap_of_le (h : HasRoom format o) {n : Word} (hn : n.toNat ≤ o.stripLen.toNat) :
    n.toNat * (bytesPerPixel format * 3) < 2 ^ 32 :=
  Nat.lt_of_le_of_lt (Nat.mul_le_mul_right _ hn) h.noWrap

theorem store (h : HasRoom format o) {index : Word} (hi : index < o.stripLen) (p : Pixel) :
    ∃ r o', spiStore o index (p.components format) = some (r, o') ∧ HasRoom format o' := by
  rw [BitVec.lt_def] at hi
  have hin : index.toNat * (bytesPerPixel format * 3) + bytesPerPixel format * 3
      ≤ o.pixelBuf.length := by
    refine Nat.le_trans ?_ h.room
    rw [← Nat.succ_mul]
    exact Nat.mul_le_mul_right _ hi
  rw [spiStore_eq h.pixelSize (h.noWrap_of_le (Nat.le_of_lt hi))]
  rcases hbuf : overwrite o.pixelBuf (index.toNat * (bytesPerPixel format * 3))
    ((p.components format).flatMap spiWord) with _ | buf
  · rw [overwrite_eq_none_iff, length_words] at hbuf
    omega
  · exact ⟨.ok, { o with pixelBuf := buf }, rfl, h.withBuf (length_overwrite hbuf)⟩

theorem refresh (h : HasRoom format o) (driver : EspErr) :
    ∃ r, ledStripSpiRefresh o driver = some (r, o) := by
  have hbits : (o.pixelBuf.flatMap bitsMsb).length = o.pixelBuf.length * 8 :=
    length_flatMap_word length_bitsMsb _
  have hlength : (o.stripLen * o.bytesPerPixel.zeroExtend 32 * 24).toNat
      ≤ o.stripLen.toNat * (bytesPerPixel format * 3) * 8 := by
    rw [BitVec.toNat_mul, BitVec.toNat_mul, toNat_zeroExtend, h.pixelSize,
      show (24 : Word).toNat = 3 * 8 from rfl]
    -- a product that wraps around only becomes smaller, so what is sent is in the block anyway
    calc o.stripLen.toNat * bytesPerPixel format % 2 ^ 32 * (3 * 8) % 2 ^ 32
        ≤ o.stripLen.toNat * bytesPerPixel format % 2 ^ 32 * (3 * 8) := Nat.mod_le _ _
      _ ≤ o.stripLen.toNat * bytesPerPixel format * (3 * 8) :=
        Nat.mul_le_mul_right _ (Nat.mod_le _ _)
      _ = o.stripLen.toNat * (bytesPerPixel format * 3) * 8 := by ring
  have hroom := h.room
  exact ⟨_, if_pos (by rw [hbits]; omega)⟩

theorem clear (h : HasRoom format o) (driver : EspErr) :
    ∃ r o', ledStripSpiClear o driver = some (r, o') ∧ HasRoom format o' := by
  have hprod : (o.stripLen * o.bytesPerPixel.zeroExtend 32).toNat
      = o.stripLen.toNat * bytesPerPixel format := by
    have hnoWrap := h.noWrap
    rw [BitVec.toNat_mul, toNat_zeroExtend, h.pixelSize, Nat.mod_eq_of_lt]
    rw [← Nat.mul_assoc] at hnoWrap
    omega
  have hbits := memsetZero_bind_bits o.pixelBuf 0
    (List.replicate (o.stripLen.toNat * bytesPerPixel format) 0)
  have hlen : ((List.replicate (o.stripLen.toNat * bytesPerPixel format) 0).flatMap
      spiWord).length = o.stripLen.toNat * (bytesPerPixel format * 3) := by
    rw [length_flatMap_word length_spiWord, List.length_replicate, Nat.mul_assoc]
  rcases hbuf : overwrite o.pixelBuf 0 ((List.replicate
    (o.stripLen.toNat * bytesPerPixel format) 0).flatMap spiWord) with _ | buf
  · have hroom := h.room
    rw [overwrite_eq_none_iff, hlen] at hbuf
    omega
  · have hbuf' := h.withBuf (length_overwrite hbuf)
    obtain ⟨r, hr⟩ := hbuf'.refresh driver
    refine ⟨r, _, ?_, hbuf'⟩
    rw [List.length_replicate, Nat.mul_assoc, hbuf] at hbits
    simp only [ledStripSpiClear, toNat_start h.pixelSize h.noWrap, hprod, Option.bind_eq_bind,
      clearLoop_eq]
    rw [← Option.bind_assoc, hbits, Option.bind_some, hr]

/-- No call leaves the block. -/
theorem call (h : HasRoom format o) (c : Call EspErr) :
    ∃ r o', ledStripSpi o c = some (r, o') ∧ HasRoom format o' := by
  cases c with
  | setPixel index red green blue =>
    rw [ledStripSpi, ledStripSpiSetPixel_eq h.pixelSize]
    by_cases hi : index < o.stripLen
    · obtain ⟨r, o', hr, ho'⟩ := h.store hi
        ⟨green.truncate 8, red.truncate 8, blue.truncate 8, 0⟩
      rw [if_pos hi, hr]
      exact ⟨_, _, rfl, ho'⟩
    · rw [if_neg hi]
      exact ⟨_, _, rfl, h⟩
  | setPixelRgbw index red green blue white =>
    rw [ledStripSpi, ledStripSpiSetPixelRgbw_eq h.pixelSize]
    by_cases hi : index < o.stripLen ∧ bytesPerPixel format = 4
    · obtain ⟨r, o', hr, ho'⟩ := h.store hi.1
        ⟨green.truncate 8, red.truncate 8, blue.truncate 8, white.truncate 8⟩
      rw [if_pos hi, hr]
      exact ⟨_, _, rfl, ho'⟩
    · rw [if_neg hi]
      exact ⟨_, _, rfl, h⟩
  | refresh driver =>
    obtain ⟨r, hr⟩ := h.refresh driver
    exact ⟨r, o, hr, h⟩
  | clear driver => exact h.clear driver

theorem replies (h : HasRoom format o) (calls : List (Call EspErr)) :
    Device.replies ledStripSpi o calls ≠ none := by
  obtain ⟨rs, t, ht, -⟩ := Device.exists_replies (fun _ c h => h.call c) h calls
  rw [ht]
  simp

end HasRoom

/-- Where the size has wrapped around, some LED has its place behind the block. -/
theorem exists_index_out {m size n b : ℕ} (hsize : size < m) (hwrap : m ≤ size + n * b) :
    ∃ i < n, i * b < m ∧ (size + n * b) % m < (i + 1) * b := by
  have hb : 0 < b := by
    rcases Nat.eq_zero_or_pos b with rfl | hb
    · omega
    · exact hb
  -- the offsets themselves wrap around or they do not
  by_cases hn : n * b < m
  · have hpos : 0 < n := by
      rcases Nat.eq_zero_or_pos n with rfl | hn
      · omega
      · exact hn
    have hmod : (size + n * b) % m = size + n * b - m := by
      rw [Nat.mod_eq_sub_mod hwrap, Nat.mod_eq_of_lt (by omega)]
    refine ⟨n - 1, by omega, Nat.lt_of_le_of_lt (Nat.mul_le_mul_right _ (by omega)) hn, ?_⟩
    rw [hmod, Nat.sub_add_cancel hpos]
    omega
  -- the last LED whose offset has not wrapped around
  · have hmod : (size + n * b) % m < m := Nat.mod_lt _ (by omega)
    have hdiv := Nat.div_add_mod (m - 1) b
    have hrem := Nat.mod_lt (m - 1) hb
    rw [Nat.mul_comm] at hdiv
    refine ⟨(m - 1) / b, ?_, by omega, ?_⟩
    · refine Nat.lt_of_mul_lt_mul_right (a := b) ?_
      omega
    · rw [Nat.succ_mul]
      omega

/-- A strip can be created and then every sequence of calls stays inside its block, exactly if
the number of bytes asked of `calloc` does not wrap around. -/
theorem spi_memory_safe_iff {layout : Layout} {c : LedStripConfig} {env : SpiEnv} (spiHost : ℕ)
    (hf : c.ledPixelFormat ≠ .invalid) (henv : env.Succeeds) :
    (∃ o res, ledStripNewSpiDevice layout (some c) (some spiHost) true env
        = some (.ok, some o, res) ∧ ∀ calls, Device.replies ledStripSpi o calls ≠ none) ↔
      layout.size + c.maxLeds.toNat * (bytesPerPixel c.ledPixelFormat * 3) < 2 ^ 32 := by
  have hsize := spiAllocSize_eq layout c
  have hle := layout.offset_le
  have hlt := layout.size_lt
  have hb := toNat_pixelSize c.ledPixelFormat
  rw [spi_new_ok spiHost hf henv]
  apply Iff.intro
  · rintro ⟨o, res, hnew, hsafe⟩
    by_contra hwrap
    split at hnew
    · cases hnew
    · simp only [Option.some.injEq, Prod.mk.injEq, true_and] at hnew
      obtain ⟨rfl, -⟩ := hnew
      obtain ⟨i, hi, hmul, hout⟩ := exists_index_out hlt (Nat.le_of_not_lt hwrap)
      have hindex : (BitVec.ofNat 32 i).toNat = i := by
        rw [BitVec.toNat_ofNat, Nat.mod_eq_of_lt (Nat.lt_trans hi c.maxLeds.isLt)]
      have hset : BitVec.ofNat 32 i < c.maxLeds := by
        rw [BitVec.lt_def, hindex]
        exact hi
      rw [← hindex] at hmul hout
      -- a single call on that LED writes behind the block
      apply hsafe [.setPixel (BitVec.ofNat 32 i) 0 0 0]
      rw [Device.replies, setPixel_out_of_block hb hset hmul]
      · rfl
      · rw [List.length_replicate]
        omega
  · intro hfit
    rw [Nat.mod_eq_of_lt hfit] at hsize
    have hroom : HasRoom c.ledPixelFormat ⟨c.maxLeds, pixelSize c.ledPixelFormat,
        List.replicate (spiAllocSize layout c - layout.offset) 0⟩ := by
      refine ⟨hb, ?_, ?_⟩
      · show c.maxLeds.toNat * (bytesPerPixel c.ledPixelFormat * 3) < 2 ^ 32
        omega
      · show c.maxLeds.toNat * (bytesPerPixel c.ledPixelFormat * 3) ≤ _
        rw [List.length_replicate]
        omega
    rw [if_neg (by omega)]
    exact ⟨_, _, rfl, hroom.replies⟩

/-- With 1431655765 LEDs of three bytes the request wraps around. -/
theorem spi_memory_safe_iff_wrapped :
    (∃ o res, ledStripNewSpiDevice targetLayout (some ⟨1431655765, .grb, .ws2812⟩) (some 1) true
        ⟨true, .ok, .ok, 2500⟩ = some (.ok, some o, res) ∧
      ∀ calls, Device.replies ledStripSpi o calls ≠ none) ↔
    targetLayout.size + (1431655765 : Word).toNat * (bytesPerPixel .grb * 3) < 2 ^ 32 :=
  spi_memory_safe_iff 1 (by decide) (by decide)

end LedStrip
end EspLab
