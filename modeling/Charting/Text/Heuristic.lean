import Charting.Text

namespace Charting

structure Heuristic where

namespace Heuristic

variable {α : Type} [Scalar α]

def glyphWidth (style : TextStyle α) : α :=
  0.6 * style.size

def metrics (text : String) (style : TextStyle α) : TextMetrics α where
  advance := 0.6 * style.size * Scalar.ofNat text.length
  ascent := 0.8 * style.size
  descent := 0.2 * style.size
  leading := 0

def hit (text : String) (style : TextStyle α) (x : α) : TextHit :=
  let count := text.length
  let glyph := glyphWidth style
  if x < 0 ∨ glyph ≤ 0 then ⟨0, false⟩
  else
    let index := min (Scalar.toNat (Scalar.floor (x / glyph))) count
    ⟨index, index < count⟩

instance : TextMeasurer α Heuristic where
  measure text style := pure (metrics text style)
  hit text style x := pure (hit text style x)

end Heuristic

end Charting
