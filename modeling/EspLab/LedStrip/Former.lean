import EspLab.LedStrip.Backends

/-!
# The former RMT driver and several strips

`led_strip_rmt_dev_idf4.c` serves the former RMT driver. It keeps colour bytes as the current
device does, but the durations of the symbols are not part of a strip: they stand in four static
variables, which every creation of a strip writes. So several strips keep their colours apart and
share one timing, that of the strip created last.

The conversion from nanoseconds to ticks is in floating point and is a parameter.
-/

namespace EspLab
namespace LedStrip

open Blocks Device

/-! ## The device -/

/-- The durations of the two symbols: `WS2812_T0H_NS` and its like, or the ticks they make -/
structure Durations (α : Type) where
  t0h : α
  t0l : α
  t1h : α
  t1l : α
deriving DecidableEq

def Durations.map {α β : Type} (f : α → β) (d : Durations α) : Durations β :=
  ⟨f d.t0h, f d.t0l, f d.t1h, f d.t1l⟩

/-- `WS2812_T0H_NS`, `WS2812_T0L_NS`, `WS2812_T1H_NS`, `WS2812_T1L_NS` -/
def ws2812Ns : Durations ℕ := ⟨300, 900, 900, 300⟩

/-- `SK6812_T0H_NS`, `SK6812_T0L_NS`, `SK6812_T1H_NS`, `SK6812_T1L_NS` -/
def sk6812Ns : Durations ℕ := ⟨300, 900, 600, 600⟩

/-- `led_t0h_ticks`, `led_t0l_ticks`, `led_t1h_ticks`, `led_t1l_ticks` -/
abbrev Ticks := Durations Word

namespace Durations

/-- `bit0` of `ws2812_rmt_adapter` -/
def bit0 (ticks : Ticks) : RmtSymbolWord :=
  ⟨ticks.t0h.truncate 15, true, ticks.t0l.truncate 15, false⟩

/-- `bit1` of `ws2812_rmt_adapter` -/
def bit1 (ticks : Ticks) : RmtSymbolWord :=
  ⟨ticks.t1h.truncate 15, true, ticks.t1l.truncate 15, false⟩

end Durations

/-- What the former driver does with a frame: the answer of `rmt_write_sample`, and how many items
it wants in each round. An error means that nothing is translated. -/
structure WriteSample where
  err : EspErr
  wanted : List ℕ
deriving DecidableEq

/-- `led_strip_rmt_obj` of the former driver -/
structure LedStripRmtObjIdf4 where
  stripLen : Word
  bytesPerPixel : Byte
  buffer : List Byte
deriving DecidableEq

/-- What is answered while a strip of the former driver is created. -/
structure FormerEnv where
  calloc : Bool
  rmtConfig : EspErr
  rmtDriverInstall : EspErr
  /-- `counter_clk_hz` -/
  counterClkHz : Word
deriving DecidableEq

section System

-- `(uint32_t)(ratio * ns)`, from `counter_clk_hz` and the nanoseconds
variable (nsToTicks : Word → ℕ → Word)

/-- `led_strip_new_rmt_device` of the former driver: the error code, the object, the static
variables and the resources. `withDma` is the flag of `dev_config`, if the pointer is not null.
`none` is a failed assertion or an allocation too small. -/
def ledStripNewRmtDeviceIdf4 (layout : Layout) (ledConfig : Option LedStripConfig)
    (withDma : Option Bool) (retStrip : Bool) (env : FormerEnv) (ticks : Ticks) :
    Option (EspErr × Option LedStripRmtObjIdf4 × Ticks × Resources) :=
  match ledConfig, withDma, retStrip with
  | some ledConfig, some withDma, true =>
    if ledConfig.ledPixelFormat = .invalid then some (.invalidArg, none, ticks, .none)
    else if withDma then some (.notSupported, none, ticks, .none)
    else
      let bytesPerPixel := pixelSize ledConfig.ledPixelFormat
      let size := allocSize layout ledConfig.maxLeds (bytesPerPixel.zeroExtend 32)
      if ¬ env.calloc then some (.noMem, none, ticks, .none)
      else
        let res := Resources.none.acquire .strip
        if env.rmtConfig ≠ .ok then some (env.rmtConfig, none, ticks, res.release .strip)
        else if env.rmtDriverInstall ≠ .ok then
          some (env.rmtDriverInstall, none, ticks, res.release .strip)
        else
          let res := res.acquire .rmtChannel
          let o := LedStripRmtObjIdf4.mk ledConfig.maxLeds bytesPerPixel
            (List.replicate (size - layout.offset) 0)
          if size < layout.size then none
          else
            match ledConfig.ledModel with
            | .ws2812 => some (.ok, some o, ws2812Ns.map (nsToTicks env.counterClkHz), res)
            | .sk6812 => some (.ok, some o, sk6812Ns.map (nsToTicks env.counterClkHz), res)
            | .invalid => none
  | _, _, _ => some (.invalidArg, none, ticks, .none)

/-- `led_strip_rmt_del` of the former driver -/
def ledStripRmtDelIdf4 (driverUninstall : EspErr) (res : Resources) : EspErr × Resources :=
  if driverUninstall ≠ .ok then (driverUninstall, res)
  else (.ok, (res.release .rmtChannel).release .strip)

/-- The constructor is all or nothing, and a deleted strip has given everything back. -/
theorem former_new_resources {layout : Layout} {ledConfig : Option LedStripConfig}
    {withDma : Option Bool} {retStrip : Bool} {env : FormerEnv} {ticks ticks' : Ticks}
    {ret : EspErr} {strip : Option LedStripRmtObjIdf4} {res : Resources}
    (h : ledStripNewRmtDeviceIdf4 nsToTicks layout ledConfig withDma retStrip env ticks
      = some (ret, strip, ticks', res)) :
    (ret ≠ .ok → strip = none ∧ ticks' = ticks ∧ res = .none) ∧
    (ret = .ok → strip ≠ none ∧ ledStripRmtDelIdf4 .ok res = (.ok, .none)) := by
  unfold ledStripNewRmtDeviceIdf4 at h
  split at h
  · dsimp only at h
    split_ifs at h with hf hd hc hr hi hs
    case neg =>
      -- all answers are good: both models return the strip, and a third one is the assertion
      split at h <;> simp only [Option.some.injEq, Prod.mk.injEq, reduceCtorEq] at h
      all_goals
        obtain ⟨rfl, rfl, rfl, rfl⟩ := h
        exact ⟨fun hne => absurd rfl hne, fun _ => ⟨by simp, by decide⟩⟩
    -- every other way out gives back what was acquired before it
    all_goals
      simp only [Option.some.injEq, Prod.mk.injEq] at h
      obtain ⟨rfl, rfl, rfl, rfl⟩ := h
      refine ⟨fun _ => ⟨rfl, rfl, by decide⟩, fun hok => ?_⟩
      simp_all
  · simp only [Option.some.injEq, Prod.mk.injEq] at h
    obtain ⟨rfl, rfl, rfl, rfl⟩ := h
    simp

/-- The static variables and the strips created so far. -/
structure FormerSystem where
  ticks : Ticks
  strips : List LedStripRmtObjIdf4
deriving DecidableEq

/-- What an application asks for: another strip, or a call on one it has. -/
inductive Request
  | new (ledConfig : LedStripConfig) (env : FormerEnv)
  | call (handle : ℕ) (c : Call WriteSample)
deriving DecidableEq

/-- Before the first strip. -/
def FormerSystem.start : FormerSystem := ⟨⟨0, 0, 0, 0⟩, []⟩

end System

/-! ## What several strips are to do -/

/-- The items of a frame in the rounds of the driver. -/
def formerFrame (ticks : Ticks) (format : LedPixelFormat) (wanted : List ℕ)
    (leds : List (Option Pixel)) : List RmtSymbolWord :=
  ((leds.flatMap (rmtBytes format)).take (wanted.map roundBytes).sum).flatMap
    (byteSymbols ticks.bit0 ticks.bit1)

/-- What `rmt_write_sample` answers is what the call returns. -/
def formerOutcome (driver : WriteSample) : Outcome := ⟨driver.err, driver.err = .ok⟩

/-- A call on a strip whose frames have the timing `ticks`; there is no `set_pixel_rgbw`. -/
def Strip.formerCall (ticks : Ticks) (s : Strip) (c : Call WriteSample) :
    Option (Reply (List RmtSymbolWord) × Strip) :=
  match c with
  | .setPixelRgbw .. => none
  | c => (s.call (c.map formerOutcome)).map fun r =>
      (r.1.map (formerFrame ticks s.format ((c.driver?.map WriteSample.wanted).getD [])), r.2)

/-- The strips an application has, each with the timing it was created for. -/
abbrev Strips := List (Ticks × Strip)

/-- The timing of the strip created last. -/
def Strips.newest (strips : Strips) : Ticks := (strips.getLast?.map Prod.fst).getD ⟨0, 0, 0, 0⟩

/-- The timing of a strip with this model. -/
def timing (nsToTicks : Word → ℕ → Word) (ledModel : LedModel) (clk : Word) : Ticks :=
  (if ledModel = .sk6812 then sk6812Ns else ws2812Ns).map (nsToTicks clk)

/-- A configuration that the device has memory for. -/
def Sound (layout : Layout) (c : LedStripConfig) : Prop :=
  c.ledPixelFormat ≠ .invalid ∧ c.ledModel ≠ .invalid ∧
    layout.size + c.maxLeds.toNat * bytesPerPixel c.ledPixelFormat < 2 ^ 32 ∧
    (Strip.fresh c.ledPixelFormat c.maxLeds.toNat).Fits

instance (layout : Layout) (c : LedStripConfig) : Decidable (Sound layout c) :=
  inferInstanceAs (Decidable (_ ∧ _ ∧ _ ∧ _))

/-- The first error while a strip is created, if there is one. -/
def FormerEnv.result (env : FormerEnv) : EspErr :=
  if ¬ env.calloc then .noMem else if env.rmtConfig ≠ .ok then env.rmtConfig
  else env.rmtDriverInstall

/-- What several strips on the former driver are to do: each keeps its own colours, and the frames
of all of them have the timing of the strip created last. -/
def Strips.step (nsToTicks : Word → ℕ → Word) (layout : Layout) (strips : Strips) :
    Request → Option (Reply (List RmtSymbolWord) × Strips)
  | .new c env =>
    if Sound layout c then
      some (⟨env.result, none⟩, if env.result = .ok then
        strips ++ [(timing nsToTicks c.ledModel env.counterClkHz,
          Strip.fresh c.ledPixelFormat c.maxLeds.toNat)] else strips)
    else none
  | .call handle c => do
    let (own, s) ← strips[handle]?
    let (r, s) ← s.formerCall strips.newest c
    return (r, strips.set handle (own, s))

/-! ## The device does it -/

section Refines

variable {o : LedStripRmtObjIdf4} {s : Strip} {ticks : Ticks}

variable {nsToTicks : Word → ℕ → Word} {layout : Layout}

end Refines

end LedStrip
end EspLab
