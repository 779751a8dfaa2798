import EspLab.Lib.Resumable
import EspLab.LedStrip.Rmt

/-!
# From colour bytes to symbols

Between `rmt_transmit` and the line stands an encoder. `led_strip_rmt_encoder.c` has the one of
the current driver, `rmt_encode_led_strip`: it lets the driver's bytes encoder write the symbols
of the colour bytes and then its copy encoder the reset code, and is called again whenever the
channel has memory. `led_strip_rmt_dev_idf4.c` has the one of the former driver,
`ws2812_rmt_adapter`, which translates some bytes at a time.

The two encoders of the driver are parameters of the model, and so are the symbols of a zero and
of a one, whose durations the constructor computes from the timing of the LED model.
-/

namespace EspLab
namespace LedStrip

open Resumable

/-- `rmt_symbol_word_t`, `rmt_item32_t`: two levels and how long each of them lasts -/
structure RmtSymbolWord where
  duration0 : BitVec 15
  level0 : Bool
  duration1 : BitVec 15
  level1 : Bool
deriving DecidableEq

/-- `rmt_led_strip_encoder_t` -/
structure RmtLedStripEncoder (σ τ : Type) where
  bytesEncoder : σ
  copyEncoder : τ
  state : ℕ
  resetCode : RmtSymbolWord
deriving DecidableEq

section Encode

variable {σ τ : Type} (bytesEncode : List Byte → Encoder σ RmtSymbolWord)
  (copyEncode : List RmtSymbolWord → Encoder τ RmtSymbolWord)

/-- `case 1` of `rmt_encode_led_strip`: the reset code, behind the symbols `encoded` -/
def encodeReset (encoded : List RmtSymbolWord) (ledEncoder : RmtLedStripEncoder σ τ)
    (free : ℕ) : Session RmtSymbolWord × RmtLedStripEncoder σ τ :=
  let (session, copyEncoder) := copyEncode [ledEncoder.resetCode] ledEncoder.copyEncoder free
  let ledEncoder := { ledEncoder with copyEncoder := copyEncoder }
  (⟨encoded ++ session.symbols, session.complete, session.memFull⟩,
    if session.complete then { ledEncoder with state := 0 } else ledEncoder)

/-- `rmt_encode_led_strip` -/
def rmtEncodeLedStrip (primaryData : List Byte) : Encoder (RmtLedStripEncoder σ τ) RmtSymbolWord :=
  fun ledEncoder free =>
    match ledEncoder.state with
    | 0 =>
      let (session, bytesEncoder) := bytesEncode primaryData ledEncoder.bytesEncoder free
      let ledEncoder := { ledEncoder with bytesEncoder := bytesEncoder }
      let ledEncoder := if session.complete then { ledEncoder with state := 1 } else ledEncoder
      -- yield if there's no free space
      if session.memFull then (⟨session.symbols, false, true⟩, ledEncoder)
      else encodeReset copyEncode session.symbols ledEncoder (free - session.symbols.length)
    | 1 => encodeReset copyEncode [] ledEncoder free
    | _ => (⟨[], false, false⟩, ledEncoder)

end Encode

/-! ## The symbols of a frame -/

section Frames

variable {σ τ : Type} {bytesEncode : List Byte → Encoder σ RmtSymbolWord}
  {copyEncode : List RmtSymbolWord → Encoder τ RmtSymbolWord}

/-- The encoder object with its `state` 0 or 1. -/
def encoderOf (resetCode : RmtSymbolWord) (x : σ × τ × Bool) : RmtLedStripEncoder σ τ :=
  ⟨x.1, x.2.1, if x.2.2 then 1 else 0, resetCode⟩

/-- It is one encoder after the other. -/
theorem rmtEncodeLedStrip_eq (primaryData : List Byte) (resetCode : RmtSymbolWord)
    (x : σ × τ × Bool) (free : ℕ) :
    rmtEncodeLedStrip bytesEncode copyEncode primaryData (encoderOf resetCode x) free
      = ((andThen (bytesEncode primaryData) (copyEncode [resetCode]) x free).1,
        encoderOf resetCode (andThen (bytesEncode primaryData) (copyEncode [resetCode]) x free).2)
    := by
  obtain ⟨s, t, _ | _⟩ := x
  · simp only [rmtEncodeLedStrip, encoderOf, encodeReset, andThen, Bool.false_eq_true, if_false]
    split_ifs <;> simp_all
  · simp only [rmtEncodeLedStrip, encoderOf, encodeReset, andThen, if_true, List.nil_append]
    split_ifs <;> simp_all

/-- The symbols of a byte, the most significant bit first. -/
def byteSymbols (bit0 bit1 : RmtSymbolWord) (b : Byte) : List RmtSymbolWord :=
  (bitsMsb b).map fun x => if x then bit1 else bit0

theorem length_byteSymbols (bit0 bit1 : RmtSymbolWord) (b : Byte) :
    (byteSymbols bit0 bit1 b).length = 8 := rfl

/-- The symbols of a frame: those of its bytes and the reset code. -/
def frameSymbols (bit0 bit1 resetCode : RmtSymbolWord) (payload : List Byte) :
    List RmtSymbolWord := payload.flatMap (byteSymbols bit0 bit1) ++ [resetCode]

theorem length_frameSymbols (bit0 bit1 resetCode : RmtSymbolWord) (payload : List Byte) :
    (frameSymbols bit0 bit1 resetCode payload).length = payload.length * 8 + 1 := by
  rw [frameSymbols, List.length_append,
    Blocks.length_flatMap_word (length_byteSymbols bit0 bit1), List.length_singleton]

theorem resumes_rmtEncodeLedStrip {bit0 bit1 resetCode : RmtSymbolWord} {s₀ : σ} {t₀ : τ}
    {payload : List Byte} {restB : σ → List RmtSymbolWord → Prop}
    {restC : τ → List RmtSymbolWord → Prop}
    (hB : Resumes (bytesEncode payload) s₀ (payload.flatMap (byteSymbols bit0 bit1)) restB)
    (hC : Resumes (copyEncode [resetCode]) t₀ [resetCode] restC) :
    Resumes (rmtEncodeLedStrip bytesEncode copyEncode payload) ⟨s₀, t₀, 0, resetCode⟩
      (frameSymbols bit0 bit1 resetCode payload) fun e l =>
        ∃ x, e = encoderOf resetCode x ∧ restAndThen s₀ [resetCode] restB restC x l :=
  (hB.andThen hC (by simp)).embed (rmtEncodeLedStrip_eq payload resetCode)

/-- A frame in any rounds of memory: the channel gets the bits of the bytes and then one reset
code, cut off where the memory ends; the encoder says that it is complete exactly in the round
in which the reset code has been written, and is then ready for the next frame. -/
theorem rmt_frame_written {bit0 bit1 resetCode : RmtSymbolWord} {s₀ : σ} {t₀ : τ}
    {payload : List Byte} {restB : σ → List RmtSymbolWord → Prop}
    {restC : τ → List RmtSymbolWord → Prop}
    (hB : Resumes (bytesEncode payload) s₀ (payload.flatMap (byteSymbols bit0 bit1)) restB)
    (hC : Resumes (copyEncode [resetCode]) t₀ [resetCode] restC) (frees : List ℕ) :
    (drive (rmtEncodeLedStrip bytesEncode copyEncode payload) ⟨s₀, t₀, 0, resetCode⟩ frees).1
        = (frameSymbols bit0 bit1 resetCode payload).take frees.sum ∧
    ((drive (rmtEncodeLedStrip bytesEncode copyEncode payload)
        ⟨s₀, t₀, 0, resetCode⟩ frees).2.2 = true ↔ payload.length * 8 + 1 ≤ frees.sum) ∧
    ((drive (rmtEncodeLedStrip bytesEncode copyEncode payload)
        ⟨s₀, t₀, 0, resetCode⟩ frees).2.2 = true →
      (drive (rmtEncodeLedStrip bytesEncode copyEncode payload)
        ⟨s₀, t₀, 0, resetCode⟩ frees).2.1 = ⟨s₀, t₀, 0, resetCode⟩) := by
  have h := resumes_rmtEncodeLedStrip hB hC
  rw [← length_frameSymbols bit0 bit1 resetCode payload]
  exact h.drive h.begin_ (by simp [frameSymbols]) frees

/-- One byte into a memory of four symbols that becomes free three times. -/
theorem rmt_frame_written_oneByte :
    (drive (rmtEncodeLedStrip
        (fun data => counting (data.flatMap (byteSymbols ⟨3, true, 9, false⟩ ⟨9, true, 3, false⟩)))
        counting [0xA5]) ⟨0, 0, 0, ⟨1400, false, 1400, false⟩⟩ [4, 4, 4]).1
      = (frameSymbols ⟨3, true, 9, false⟩ ⟨9, true, 3, false⟩ ⟨1400, false, 1400, false⟩
          [0xA5]).take [4, 4, 4].sum ∧
    ((drive (rmtEncodeLedStrip
        (fun data => counting (data.flatMap (byteSymbols ⟨3, true, 9, false⟩ ⟨9, true, 3, false⟩)))
        counting [0xA5]) ⟨0, 0, 0, ⟨1400, false, 1400, false⟩⟩ [4, 4, 4]).2.2 = true ↔
      [(0xA5 : Byte)].length * 8 + 1 ≤ [4, 4, 4].sum) ∧
    ((drive (rmtEncodeLedStrip
        (fun data => counting (data.flatMap (byteSymbols ⟨3, true, 9, false⟩ ⟨9, true, 3, false⟩)))
        counting [0xA5]) ⟨0, 0, 0, ⟨1400, false, 1400, false⟩⟩ [4, 4, 4]).2.2 = true →
      (drive (rmtEncodeLedStrip
        (fun data => counting (data.flatMap (byteSymbols ⟨3, true, 9, false⟩ ⟨9, true, 3, false⟩)))
        counting [0xA5]) ⟨0, 0, 0, ⟨1400, false, 1400, false⟩⟩ [4, 4, 4]).2.1
      = ⟨0, 0, 0, ⟨1400, false, 1400, false⟩⟩) :=
  rmt_frame_written (resumes_counting (List.cons_ne_nil _ _))
    (resumes_counting (List.cons_ne_nil _ _)) [4, 4, 4]

end Frames

/-! ## The former driver -/

section Adapter

variable (bit0 bit1 : RmtSymbolWord)

variable {bit0 bit1}

/-- How many bytes a round translates: as many as bring the items to what is wanted. -/
def roundBytes (wantedNum : ℕ) : ℕ := (wantedNum + 7) / 8

end Adapter

end LedStrip
end EspLab
