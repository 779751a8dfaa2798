import EspLab.LedStrip.Rmt
import EspLab.LedStrip.Spi

/-!
# Creating and deleting a strip

The constructors `led_strip_new_spi_device`, `led_strip_new_rmt_device` and
`rmt_new_led_strip_encoder` acquire one thing after the other and on an error go to a label that
gives back what there is. What the allocator and the drivers answer is an input. `Resources` keeps
book of what is held and of what was given back although it was not held.
-/

namespace EspLab
namespace LedStrip

open Blocks Device

/-- What a constructor can hold. -/
inductive Resource
  | strip
  | spiBus
  | spiDevice
  | rmtChannel
  | encoder
  | bytesEncoder
  | copyEncoder
deriving DecidableEq

/-- What is held, and what was given back without being held. -/
structure Resources where
  held : List Resource
  stray : List Resource
deriving DecidableEq

namespace Resources

def none : Resources := ⟨[], []⟩

def acquire (res : Resources) (r : Resource) : Resources := { res with held := r :: res.held }

def release (res : Resources) (r : Resource) : Resources :=
  if r ∈ res.held then { res with held := res.held.erase r }
  else { res with stray := r :: res.stray }

end Resources

/-- `led_model_t` -/
inductive LedModel
  | ws2812
  | sk6812
  | invalid
deriving DecidableEq

/-- `led_strip_config_t`, as far as the constructors read it themselves -/
structure LedStripConfig where
  maxLeds : Word
  ledPixelFormat : LedPixelFormat
  ledModel : LedModel
deriving DecidableEq

/-- Size of a strip object without its flexible array, and where the array begins. -/
structure Layout where
  size : ℕ
  offset : ℕ
  offset_le : offset ≤ size
  size_lt : size < 2 ^ 32

/-- The layout of either object where pointers and `uint32_t` have four bytes. -/
def targetLayout : Layout := ⟨36, 33, by decide, by decide⟩

/-- The number of bytes that `calloc` is asked for, in the 32 bits of `size_t` -/
def allocSize (layout : Layout) (maxLeds : Word) (bytesPerLed : Word) : ℕ :=
  (BitVec.ofNat 32 layout.size + maxLeds * bytesPerLed).toNat

/-- `bytes_per_pixel`, as the constructors choose it -/
def pixelSize (format : LedPixelFormat) : Byte := if format = .grbw then 4 else 3

theorem toNat_pixelSize (format : LedPixelFormat) :
    (pixelSize format).toNat = bytesPerPixel format := by
  cases format <;> rfl

/-- The request is the size of the object only as long as it does not wrap around. -/
theorem allocSize_eq (layout : Layout) (maxLeds bytesPerLed : Word) :
    allocSize layout maxLeds bytesPerLed
      = (layout.size + maxLeds.toNat * bytesPerLed.toNat) % 2 ^ 32 := by
  rw [allocSize, BitVec.toNat_add, BitVec.toNat_mul, BitVec.toNat_ofNat, ← Nat.add_mod]

/-! ## The SPI device -/

/-- What is answered while an SPI strip is created. -/
structure SpiEnv where
  calloc : Bool
  busInitialize : EspErr
  addDevice : EspErr
  /-- `clock_resolution_khz` -/
  actualFreq : ℤ
deriving DecidableEq

/-- Label `err` of `led_strip_new_spi_device`, with the object allocated -/
def spiErr (spiHost : ℕ) (spiDevice : Bool) (res : Resources) : Resources :=
  let res := if spiDevice then res.release .spiDevice else res
  let res := if spiHost ≠ 0 then res.release .spiBus else res
  res.release .strip

/-- `led_strip_new_spi_device`: the error code, the object and the resources. The bus number of
`spi_config` is `spiBus`; `none` is a write behind the end of the block. -/
def ledStripNewSpiDevice (layout : Layout) (ledConfig : Option LedStripConfig)
    (spiBus : Option ℕ) (retStrip : Bool) (env : SpiEnv) :
    Option (EspErr × Option LedStripSpiObj × Resources) :=
  match ledConfig, spiBus, retStrip with
  | some ledConfig, some spiHost, true =>
    if ledConfig.ledPixelFormat = .invalid then some (.invalidArg, none, .none)
    else
      let bytesPerPixel := pixelSize ledConfig.ledPixelFormat
      let size := allocSize layout ledConfig.maxLeds (bytesPerPixel.zeroExtend 32 * 3)
      if ¬ env.calloc then some (.noMem, none, .none)
      else if size < layout.size then none
      else
        let res := Resources.none.acquire .strip
        if env.busInitialize ≠ .ok then some (env.busInitialize, none, spiErr spiHost false res)
        else
          let res := res.acquire .spiBus
          if env.addDevice ≠ .ok then some (env.addDevice, none, spiErr spiHost false res)
          else
            let res := res.acquire .spiDevice
            if ¬ (env.actualFreq < 2800 ∧ env.actualFreq > 2200) then
              some (.notSupported, none, spiErr spiHost true res)
            else
              some (.ok, some ⟨ledConfig.maxLeds, bytesPerPixel,
                List.replicate (size - layout.offset) 0⟩, res)
  | _, _, _ => some (.invalidArg, none, .none)

/-- `led_strip_spi_del` -/
def ledStripSpiDel (removeDevice busFree : EspErr) (res : Resources) : EspErr × Resources :=
  if removeDevice ≠ .ok then (removeDevice, res)
  else
    let res := res.release .spiDevice
    if busFree ≠ .ok then (busFree, res)
    else (.ok, (res.release .spiBus).release .strip)

/-- Nothing fails while an SPI strip is created. -/
def SpiEnv.Succeeds (env : SpiEnv) : Prop :=
  env.calloc = true ∧ env.busInitialize = .ok ∧ env.addDevice = .ok ∧
    env.actualFreq < 2800 ∧ env.actualFreq > 2200

instance (env : SpiEnv) : Decidable env.Succeeds :=
  inferInstanceAs (Decidable (_ ∧ _ ∧ _ ∧ _ ∧ _))

/-- The block of an SPI strip, in bytes -/
def spiAllocSize (layout : Layout) (c : LedStripConfig) : ℕ :=
  allocSize layout c.maxLeds ((pixelSize c.ledPixelFormat).zeroExtend 32 * 3)

theorem spiAllocSize_eq (layout : Layout) (c : LedStripConfig) :
    spiAllocSize layout c
      = (layout.size + c.maxLeds.toNat * (bytesPerPixel c.ledPixelFormat * 3)) % 2 ^ 32 := by
  rw [spiAllocSize, allocSize_eq]
  cases c.ledPixelFormat <;> rfl

/-- The strip that the constructor makes if nothing fails. -/
theorem spi_new_ok {layout : Layout} {c : LedStripConfig} {env : SpiEnv} (spiHost : ℕ)
    (hf : c.ledPixelFormat ≠ .invalid) (henv : env.Succeeds) :
    ledStripNewSpiDevice layout (some c) (some spiHost) true env =
      if spiAllocSize layout c < layout.size then none
      else some (.ok, some ⟨c.maxLeds, pixelSize c.ledPixelFormat,
        List.replicate (spiAllocSize layout c - layout.offset) 0⟩,
        ⟨[.spiDevice, .spiBus, .strip], []⟩) := by
  obtain ⟨hc, hb, ha, hfreq⟩ := henv
  simp only [ledStripNewSpiDevice, spiAllocSize, hf, hc, hb, ha, hfreq, ne_eq, not_true_eq_false,
    if_false, and_self]
  rfl

/-- The constructor got as far as allocating the object. -/
def SpiAllocated (ledConfig : Option LedStripConfig) (spiBus : Option ℕ) (retStrip : Bool)
    (env : SpiEnv) : Prop :=
  (∃ c ∈ ledConfig, c.ledPixelFormat ≠ .invalid) ∧ spiBus ≠ none ∧ retStrip = true ∧
    env.calloc = true

instance (ledConfig : Option LedStripConfig) (spiBus : Option ℕ) (retStrip : Bool)
    (env : SpiEnv) : Decidable (SpiAllocated ledConfig spiBus retStrip env) :=
  inferInstanceAs (Decidable (_ ∧ _ ∧ _ ∧ _))

theorem spiErr_none (spiHost : ℕ) :
    spiErr spiHost false (Resources.none.acquire .strip)
      = ⟨[], if spiHost = 0 then [] else [.spiBus]⟩ := by
  by_cases h : spiHost = 0 <;> simp [spiErr, h] <;> decide

theorem spiErr_bus (spiHost : ℕ) :
    spiErr spiHost false ((Resources.none.acquire .strip).acquire .spiBus)
      = ⟨if spiHost = 0 then [.spiBus] else [], []⟩ := by
  by_cases h : spiHost = 0 <;> simp [spiErr, h] <;> decide

theorem spiErr_device (spiHost : ℕ) :
    spiErr spiHost true (((Resources.none.acquire .strip).acquire .spiBus).acquire .spiDevice)
      = ⟨if spiHost = 0 then [.spiBus] else [], []⟩ := by
  by_cases h : spiHost = 0 <;> simp [spiErr, h] <;> decide

/-- What is held after the SPI constructor: everything if it succeeds, and then deleting the
strip gives all of it back. If it fails, the bus stays behind on host 0; and on any other host a
bus that the constructor could not initialise is given back all the same. -/
theorem spi_new_resources {layout : Layout} {ledConfig : Option LedStripConfig}
    {spiBus : Option ℕ} {retStrip : Bool} {env : SpiEnv} {ret : EspErr}
    {strip : Option LedStripSpiObj} {res : Resources}
    (h : ledStripNewSpiDevice layout ledConfig spiBus retStrip env = some (ret, strip, res)) :
    (ret = .ok ↔ strip ≠ none) ∧
    (ret = .ok → res = ⟨[.spiDevice, .spiBus, .strip], []⟩ ∧
      ledStripSpiDel .ok .ok res = (.ok, .none)) ∧
    (ret ≠ .ok → res.held = (if SpiAllocated ledConfig spiBus retStrip env ∧
        env.busInitialize = .ok ∧ spiBus = some 0 then [.spiBus] else []) ∧
      res.stray = (if SpiAllocated ledConfig spiBus retStrip env ∧
        env.busInitialize ≠ .ok ∧ spiBus ≠ some 0 then [.spiBus] else [])) := by
  unfold ledStripNewSpiDevice at h
  split at h
  · rename_i c host
    dsimp only at h
    split_ifs at h with hf hc hs hb ha hr <;> simp only [Option.some.injEq, Prod.mk.injEq] at h <;>
      obtain ⟨rfl, rfl, rfl⟩ := h
    · simp [SpiAllocated, hf, Resources.none]
    · simp [SpiAllocated, hf, hc, hb, spiErr_none]
    · simp [SpiAllocated, hf, hc, not_not.mp hb, ha, spiErr_bus]
    · simp only [ne_eq, reduceCtorEq, not_false_eq_true, not_true_eq_false, false_implies,
        and_true, true_and, true_implies]
      decide
    · simp [SpiAllocated, hf, hc, not_not.mp hb, spiErr_device]
    · simp [SpiAllocated, hc, Resources.none]
  -- a null pointer, and nothing has been allocated yet
  · rename_i hnot
    have hna : ¬ SpiAllocated ledConfig spiBus retStrip env := by
      rintro ⟨⟨c, hc, -⟩, hb, hr, -⟩
      obtain ⟨host, hhost⟩ := Option.ne_none_iff_exists'.mp hb
      exact hnot c host hc hhost hr
    simp only [Option.some.injEq, Prod.mk.injEq] at h
    obtain ⟨rfl, rfl, rfl⟩ := h
    simp [hna, Resources.none]

/-- A bus that could not be initialised is given back. -/
theorem spi_new_resources_busInUse :
    ((EspErr.invalidState = .ok ↔ (none : Option LedStripSpiObj) ≠ none) ∧
    (EspErr.invalidState = .ok → (⟨[], [.spiBus]⟩ : Resources)
        = ⟨[.spiDevice, .spiBus, .strip], []⟩ ∧
      ledStripSpiDel .ok .ok ⟨[], [.spiBus]⟩ = (.ok, .none)) ∧
    (EspErr.invalidState ≠ .ok → [] = (if SpiAllocated (some ⟨1, .grb, .ws2812⟩) (some 1) true
          ⟨true, .invalidState, .ok, 2500⟩ ∧ EspErr.invalidState = .ok ∧ some 1 = some 0
        then [Resource.spiBus] else []) ∧
      [Resource.spiBus] = (if SpiAllocated (some ⟨1, .grb, .ws2812⟩) (some 1) true
          ⟨true, .invalidState, .ok, 2500⟩ ∧ EspErr.invalidState ≠ .ok ∧ some 1 ≠ some 0
        then [Resource.spiBus] else []))) := by
  have hnew : ledStripNewSpiDevice targetLayout (some ⟨1, .grb, .ws2812⟩) (some 1) true
      ⟨true, .invalidState, .ok, 2500⟩
      = some (.invalidState, none, ⟨[], [.spiBus]⟩) := rfl
  exact spi_new_resources hnew

/-! ## The RMT device -/

/-- What is answered while the encoder is created. -/
structure EncoderEnv where
  calloc : Bool
  newBytesEncoder : EspErr
  newCopyEncoder : EspErr
deriving DecidableEq

/-- What is answered while an RMT strip is created. -/
structure RmtEnv where
  calloc : Bool
  newTxChannel : EspErr
  encoder : EncoderEnv
deriving DecidableEq

/-- `rmt_new_led_strip_encoder`: the error code and the resources. The pointers it checks are
never null where the constructor of the strip calls it. -/
def rmtNewLedStripEncoder (ledModel : LedModel) (env : EncoderEnv) (res : Resources) :
    EspErr × Resources :=
  if ledModel = .invalid then (.invalidArg, res)
  else if ¬ env.calloc then (.noMem, res)
  else
    let res := res.acquire .encoder
    if env.newBytesEncoder ≠ .ok then (env.newBytesEncoder, res.release .encoder)
    else
      let res := res.acquire .bytesEncoder
      if env.newCopyEncoder ≠ .ok then
        (env.newCopyEncoder, (res.release .bytesEncoder).release .encoder)
      else (.ok, res.acquire .copyEncoder)

/-- `rmt_del_led_strip_encoder` -/
def rmtDelLedStripEncoder (res : Resources) : Resources :=
  ((res.release .bytesEncoder).release .copyEncoder).release .encoder

/-- `led_strip_new_rmt_device`: the error code, the object and the resources. `rmtConfig` says
whether the pointer is not null. -/
def ledStripNewRmtDevice (layout : Layout) (ledConfig : Option LedStripConfig)
    (rmtConfig retStrip : Bool) (env : RmtEnv) :
    Option (EspErr × Option LedStripRmtObj × Resources) :=
  match ledConfig, rmtConfig, retStrip with
  | some ledConfig, true, true =>
    if ledConfig.ledPixelFormat = .invalid then some (.invalidArg, none, .none)
    else
      let bytesPerPixel := pixelSize ledConfig.ledPixelFormat
      let size := allocSize layout ledConfig.maxLeds (bytesPerPixel.zeroExtend 32)
      if ¬ env.calloc then some (.noMem, none, .none)
      else if size < layout.size then none
      else
        let res := Resources.none.acquire .strip
        if env.newTxChannel ≠ .ok then some (env.newTxChannel, none, res.release .strip)
        else
          let res := res.acquire .rmtChannel
          let (ret, res) := rmtNewLedStripEncoder ledConfig.ledModel env.encoder res
          if ret ≠ .ok then some (ret, none, (res.release .rmtChannel).release .strip)
          else
            some (.ok, some ⟨ledConfig.maxLeds, bytesPerPixel,
              List.replicate (size - layout.offset) 0, false⟩, res)
  | _, _, _ => some (.invalidArg, none, .none)

/-- `led_strip_rmt_del`; `rmt_del_encoder` calls the function above and cannot fail. -/
def ledStripRmtDel (delChannel : EspErr) (res : Resources) : EspErr × Resources :=
  if delChannel ≠ .ok then (delChannel, res)
  else (.ok, (rmtDelLedStripEncoder (res.release .rmtChannel)).release .strip)

/-- The resources of an RMT strip. -/
def rmtHeld : Resources :=
  ⟨[.copyEncoder, .bytesEncoder, .encoder, .rmtChannel, .strip], []⟩

theorem rmtNewLedStripEncoder_resources (ledModel : LedModel) (env : EncoderEnv) :
    rmtNewLedStripEncoder ledModel env ((Resources.none.acquire .strip).acquire .rmtChannel)
        = (.ok, rmtHeld) ∨
    ∃ ret, ret ≠ .ok ∧ rmtNewLedStripEncoder ledModel env
        ((Resources.none.acquire .strip).acquire .rmtChannel)
      = (ret, (Resources.none.acquire .strip).acquire .rmtChannel) := by
  unfold rmtNewLedStripEncoder
  split_ifs with hm hc hb hy
  · exact .inr ⟨_, by decide, rfl⟩
  · exact .inr ⟨_, hb, rfl⟩
  · exact .inr ⟨_, hy, rfl⟩
  · exact .inl rfl
  · exact .inr ⟨_, by decide, rfl⟩

/-- The RMT constructor is all or nothing: whatever fails, nothing is held and nothing was given
back that was not held; if it succeeds the strip holds everything, on a disabled channel, and
deleting it gives everything back. -/
theorem rmt_new_resources {layout : Layout} {ledConfig : Option LedStripConfig}
    {rmtConfig retStrip : Bool} {env : RmtEnv} {ret : EspErr} {strip : Option LedStripRmtObj}
    {res : Resources}
    (h : ledStripNewRmtDevice layout ledConfig rmtConfig retStrip env = some (ret, strip, res)) :
    (ret ≠ .ok → strip = none ∧ res = .none) ∧
    (ret = .ok → res = rmtHeld ∧ ledStripRmtDel .ok res = (.ok, .none) ∧
      ∃ o ∈ strip, o.enabled = false) := by
  unfold ledStripNewRmtDevice at h
  split at h
  · rename_i c
    dsimp only at h
    -- one case for each way out, in the order `calloc`, channel, encoder, success, format
    split_ifs at h with hf hc hs ht he <;> simp only [Option.some.injEq, Prod.mk.injEq] at h <;>
      obtain ⟨rfl, rfl, rfl⟩ := h
    · simp
    · exact ⟨fun _ => ⟨rfl, by decide⟩, fun hok => absurd hok ht⟩
    · refine ⟨fun _ => ⟨rfl, ?_⟩, fun hok => absurd hok he⟩
      -- what the encoder had acquired it has given back itself
      rcases rmtNewLedStripEncoder_resources c.ledModel env.encoder with hok | ⟨e, -, hret⟩
      · rw [hok] at he
        exact absurd rfl he
      · rw [hret]
        rfl
    · refine ⟨fun hne => absurd rfl hne, fun _ => ?_⟩
      rcases rmtNewLedStripEncoder_resources c.ledModel env.encoder with hok | ⟨e, hne, hret⟩
      · rw [hok]
        exact ⟨rfl, by decide, _, rfl, rfl⟩
      · rw [hret] at he
        exact absurd hne he
    · simp
  · simp only [Option.some.injEq, Prod.mk.injEq] at h
    obtain ⟨rfl, rfl, rfl⟩ := h
    simp

/-- Without memory for the second encoder everything is given back. -/
theorem rmt_new_resources_noCopyEncoder :
    (EspErr.noMem ≠ .ok → (none : Option LedStripRmtObj) = none ∧
      (⟨[], []⟩ : Resources) = .none) ∧
    (EspErr.noMem = .ok → (⟨[], []⟩ : Resources) = rmtHeld ∧
      ledStripRmtDel .ok ⟨[], []⟩ = (.ok, .none) ∧
      ∃ o ∈ (none : Option LedStripRmtObj), o.enabled = false) := by
  have hnew : ledStripNewRmtDevice targetLayout (some ⟨1, .grb, .ws2812⟩) true true
      ⟨true, .ok, true, .ok, .noMem⟩ = some (.noMem, none, ⟨[], []⟩) := rfl
  exact rmt_new_resources hnew

end LedStrip
end EspLab
