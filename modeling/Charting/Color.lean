import Charting.Numeral

namespace Charting

structure Color where
  red : Float32
  green : Float32
  blue : Float32
  alpha : Float32
deriving DecidableEq

structure Hsl where
  hue : Float32
  saturation : Float32
  lightness : Float32
  alpha : Float32

namespace Color

def component (byte : UInt8) : Float32 :=
  byte.toFloat32 * (1.0 / 255.0)

def byte (component : Float32) : UInt8 :=
  (component * 255.0 + 0.5).toUInt8

def ofBytes (red green blue alpha : UInt8) : Color :=
  ⟨component red, component green, component blue, component alpha⟩

def rgb (red green blue : UInt8) : Color :=
  ofBytes red green blue 255

def black : Color :=
  ⟨0.0, 0.0, 0.0, 1.0⟩

def white : Color :=
  ⟨1.0, 1.0, 1.0, 1.0⟩

def withAlpha (color : Color) (alpha : Float32) : Color :=
  { color with alpha }

def bytes (color : Color) : List UInt8 :=
  [byte color.red, byte color.green, byte color.blue, byte color.alpha]

def hex (color : Color) : String :=
  String.ofList ('#' :: [color.red, color.green, color.blue].flatMap (fun c => Numeral.hexByte (byte c).toNat))

def ofHsl (c : Hsl) : Color :=
  let saturation := c.saturation * 0.01
  let lightness := c.lightness * 0.01
  let amplitude := saturation * least lightness (1.0 - lightness)
  let channel (offset : Float32) : Float32 :=
    let x := offset + c.hue * (1.0 / 30.0)
    let k := x - 12.0 * (x * (1.0 / 12.0)).floor
    lightness - amplitude * clamped (least (k - 3.0) (9.0 - k))
  ⟨channel 0.0, channel 8.0, channel 4.0, c.alpha⟩
where
  least (a b : Float32) : Float32 := if b < a then b else a
  clamped (a : Float32) : Float32 := if a < -1.0 then -1.0 else if 1.0 < a then 1.0 else a

def toHsl (c : Color) : Hsl :=
  let highest := greater (greater c.red c.green) c.blue
  let lowest := lesser (lesser c.red c.green) c.blue
  let lightness := 0.5 * (lowest + highest)
  let spread := highest - lowest
  if 1e-6 < spread then
    let room := lesser lightness (1.0 - lightness)
    let saturation := if 1e-6 < room.abs then (highest - lightness) / room else 0.0
    let sixth :=
      if highest == c.red then (c.green - c.blue) / spread
      else if highest == c.green then (c.blue - c.red) / spread + 2.0
      else (c.red - c.green) / spread + 4.0
    let hue := sixth * 60.0
    let (hue, saturation) := if saturation < 0.0 then (hue + 180.0, saturation.abs) else (hue, saturation)
    ⟨hue - 360.0 * (hue * (1.0 / 360.0)).floor, saturation * 100.0, lightness * 100.0, c.alpha⟩
  else ⟨0.0, 0.0, lightness * 100.0, c.alpha⟩
where
  greater (a b : Float32) : Float32 := if a < b then b else a
  lesser (a b : Float32) : Float32 := if b < a then b else a

def hint (c : Color) : Color :=
  let hsl := c.toHsl
  ofHsl ⟨if hsl.hue.isFinite then hsl.hue else 0.0, hsl.saturation / 2.0, (hsl.lightness + 100.0) / 2.0, hsl.alpha⟩

end Color

end Charting
