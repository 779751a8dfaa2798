import EspLab.Lib.RoundedDivision
import EspLab.LedStrip.Rmt
import EspLab.LedStrip.Spi
import Mathlib.Tactic.Linarith
import Mathlib.Data.Rat.Cast.Order
import Mathlib.Algebra.Order.Field.Rat

/-!
# Colours by hue, saturation and value

`led_strip_set_pixel_hsv` of `led_strip_api.c` computes the three components in integers but for
one division by `255.0f`. The ideal colour is the usual one: with `k = n + hue / 60` on a circle of
length six, a component is `value * (1 - saturation * max 0 (min k (4 - k) 1))`, where `n` is 5
for red, 3 for green and 1 for blue.
-/

namespace EspLab
namespace LedStrip

open RoundedDivision

section Bounds

variable {v s d : ℕ}

namespace Rounded

variable {v s d m a : ℤ}

end Rounded

end Bounds

end LedStrip
end EspLab
