import EspLab.LedStrip.Construct
import EspLab.LedStrip.Encoder

/-!
# The two devices send the same strip

A strip that has just been created stands for `Strip.fresh`, on either device, and from then on
both do what `Strip` says. They differ in what an LED gets that was given no colour yet: on RMT
the bits of a dark LED, on SPI no pulse at all. After a `clear` there is no such LED, and the two
lines carry the same bits.
-/

namespace EspLab
namespace LedStrip

open Blocks Device Resumable

/-! ## New strips -/

/-- One bit back from its three bits on the line. -/
def readPulse : List Bool → Option Bool
  | [true, b, false] => some b
  | _ => none

/-- The bits that the pulses of a line say. -/
def readLine (line : List Bool) : Option (List Bool) := decode readPulse 3 (line.length / 3) line

/-- A line on which every LED has its pulses can be read back: it says the colour bytes. -/
theorem readLine_spiLine (format : LedPixelFormat) {leds : List (Option Pixel)}
    (h : ∀ led ∈ leds, led ≠ none) :
    readLine (leds.flatMap (spiLine format))
      = some ((leds.flatMap (rmtBytes format)).flatMap bitsMsb) := by
  have hline : leds.flatMap (spiLine format)
      = ((leds.flatMap (rmtBytes format)).flatMap bitsMsb).flatMap spiPulse := by
    rw [List.flatMap_assoc, List.flatMap_assoc]
    refine List.flatMap_congr fun led hled => ?_
    obtain ⟨p, rfl⟩ := Option.ne_none_iff_exists'.mp (h led hled)
    rw [spiLine, List.flatMap_assoc]
    rfl
  have hpulse : ∀ b, (spiPulse b).length = 3 := fun _ => rfl
  have hread : ∀ b, readPulse (spiPulse b) = some b := fun _ => rfl
  rw [readLine, hline, length_flatMap_word hpulse, Nat.mul_div_cancel _ (by decide)]
  exact decode_flatMap hpulse hread _

/-- Both devices, holding the same strip, given the same calls beginning with a `clear`, and with
drivers that answer alike: the replies are the same, and so are the bits of every frame. -/
theorem spi_rmt_same_line {o : LedStripSpiObj} {p : LedStripRmtObj} {s : Strip}
    (ho : SpiRepresents o s) (hp : RmtRepresents p s) (d : EspErr × RmtDriver)
    (calls : List (Call (EspErr × RmtDriver)))
    (hdrivers : ∀ c ∈ .clear d :: calls, ∀ x ∈ c.driver?, rmtOutcome x.2 = spiOutcome x.1) :
    ∃ rs qs o' p', replies ledStripSpi o ((.clear d :: calls).map (Call.map Prod.fst))
        = some (rs, o') ∧
      replies ledStripRmt p ((.clear d :: calls).map (Call.map Prod.snd)) = some (qs, p') ∧
      rs.map (Reply.map readLine)
        = qs.map (Reply.map fun payload => some (payload.flatMap bitsMsb)) := by
  have hsame : ((.clear d :: calls).map (Call.map Prod.snd)).map (Call.map rmtOutcome)
      = ((.clear d :: calls).map (Call.map Prod.fst)).map (Call.map spiOutcome) := by
    rw [List.map_map, List.map_map]
    refine List.map_congr_left fun c hc => ?_
    simp only [Function.comp_apply, Call.map_map]
    exact Call.map_congr (hdrivers c hc)
  obtain ⟨rs, s', hrs⟩ := s.exists_replies
    (((.clear d :: calls).map (Call.map Prod.fst)).map (Call.map spiOutcome))
  obtain ⟨o', ho', -⟩ := ho.replies hrs
  obtain ⟨p', hp', -⟩ := hp.replies (hsame ▸ hrs)
  -- `clear` has given every LED a colour, so every pulse of a later frame can be read
  have hpainted : ∀ r ∈ rs, ∀ leds ∈ r.frame, ∀ led ∈ leds, led ≠ none := by
    obtain ⟨r, u, qs, hr, hqs, rfl⟩ := replies_cons_eq_some.mp hrs
    cases hr
    refine List.forall_mem_cons.mpr ⟨?_, s.painted_dark.replies hqs⟩
    intro leds hleds
    cases hleds
    exact s.painted_dark
  refine ⟨_, _, o', p', ho', hp', ?_⟩
  rw [List.map_map, List.map_map]
  refine List.map_congr_left fun r hr => ?_
  simp only [Function.comp_apply, Reply.map_map]
  exact Reply.map_congr fun leds hleds => readLine_spiLine s.format (hpainted r hr leds hleds)

/-- New strips of one LED, and a second frame that neither driver sends to its end. -/
theorem spi_rmt_same_line_oneLed :
    ∃ rs qs o' p', replies ledStripSpi ⟨1, 3, List.replicate 9 0⟩
        ([Call.clear (EspErr.ok, RmtDriver.mk .ok .ok .ok .ok), .setPixel 0 1 2 3,
          .refresh (.noMem, ⟨.ok, .noMem, .ok, .ok⟩)].map (Call.map Prod.fst)) = some (rs, o') ∧
      replies ledStripRmt ⟨1, 3, List.replicate 3 0, false⟩
        ([Call.clear (EspErr.ok, RmtDriver.mk .ok .ok .ok .ok), .setPixel 0 1 2 3,
          .refresh (.noMem, ⟨.ok, .noMem, .ok, .ok⟩)].map (Call.map Prod.snd)) = some (qs, p') ∧
      rs.map (Reply.map readLine)
        = qs.map (Reply.map fun payload => some (payload.flatMap bitsMsb)) := by
  have ho : SpiRepresents ⟨1, 3, List.replicate 9 0⟩ (Strip.fresh .grb 1) :=
    ⟨rfl, rfl, ⟨[], rfl⟩, by decide⟩
  have hp : RmtRepresents ⟨1, 3, List.replicate 3 0, false⟩ (Strip.fresh .grb 1) :=
    ⟨rfl, rfl, ⟨[], rfl⟩, by decide⟩
  exact spi_rmt_same_line ho hp _ _ (by decide)

end LedStrip
end EspLab
