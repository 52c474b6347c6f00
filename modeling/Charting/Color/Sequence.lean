import Charting.Color
import Charting.Scalar.Double

namespace Charting

namespace Color

variable {α : Type} [Scalar α]

def roundBase (index : Nat) : Nat :=
  3 * Nat.pow 2 (index / 3).log2

-- The first three hues cut the circle in three. Each later round cuts every gap left so far in the middle, and goes
-- round the thirds of the circle, so that neighbours in the sequence are far apart.
def sequenceHue (index : Nat) : α :=
  if index < 3 then 120 * Scalar.ofNat index
  else
    let base := roundBase index
    let i := index - base
    180 / Scalar.ofNat base + Scalar.ofNat (i / 3) * (360 / Scalar.ofNat base) + Scalar.ofNat (i % 3) * 120

def sequence (index : Nat) : Color :=
  let hue : Float := Double.remainder (sequenceHue index) 360.0
  let saturation : Float := 80.0 + 20.0 * (Float.ofNat (index / 4)).cos
  let lightness : Float := 50.0 + 30.0 * (Float.ofNat (index / 3)).sin
  ofHsl ⟨hue.toFloat32, saturation.toFloat32, lightness.toFloat32, 1.0⟩

end Color

end Charting
