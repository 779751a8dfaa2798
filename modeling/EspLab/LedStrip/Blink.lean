import EspLab.LedStrip.Backends

/-!
# The blink example

`blink_example_main.c` with an addressable LED: `configure_led` creates a strip of one LED and
clears it, and the loop of `app_main` logs, sends a frame and toggles `s_led_state`. The results
of the calls of the strip are ignored, so that the loop goes on whatever the driver answers.
-/

namespace EspLab
namespace LedStrip

open Device

section Loop

variable {σ δ φ : Type} (device : σ → Call δ → Option (Reply φ × σ))

end Loop

section Rounds

variable {σ δ φ : Type} {device : σ → Call δ → Option (Reply φ × σ)} {R : σ → Strip → Prop}
  {f : List (Option Pixel) → φ} {g : δ → Outcome}

end Rounds

end LedStrip
end EspLab
