import Charting.View

namespace Charting

structure LegendRow (α : Type) where
  swatch : Rect α
  textOrigin : Point α

namespace Legend

variable {α : Type} [Scalar α]

def row (v : View α) (set : Nat) : LegendRow α :=
  let legend := v.layout.legend
  let font := v.layout.font
  let lineHeight := font.lineHeight
  let y := legend.y0 + Scalar.ofNat set * lineHeight
  let size := 0.7 * font.ascent
  let x := legend.x0 + lineHeight - 0.9 * font.ascent + 4
  let swatchTop := y + font.ascent - size
  { swatch := ⟨x, swatchTop, x + size, swatchTop + size⟩
    textOrigin := ⟨legend.x0 + lineHeight + 6, y⟩ }

def fits (v : View α) (set : Nat) : Bool :=
  !decide (v.layout.legend.y1 < (row v set).textOrigin.y + v.layout.font.lineHeight)

def paintedRows (v : View α) : List Nat :=
  (List.range v.data.length).takeWhile (fits v)

def ring (swatch : Rect α) : Path α :=
  Path.ofRect (swatch.inflate 3.5) ++ Path.ofRect (swatch.inflate 1.5)

def paintRow (v : View α) (set : Nat) : Picture α :=
  let r := row v set
  let mark := if v.isHotSet set then [.fillPath (ring r.swatch) .evenOdd (v.hint set)] else []
  mark ++ [.fillRect r.swatch (v.color set),
    .text (v.run (v.label set) r.textOrigin v.config.textColor)]

def paint (v : View α) : Picture α :=
  (paintedRows v).flatMap (paintRow v)

-- The data set whose row is under a point. Left of the label the whole row counts; over the label the measurer
-- says where its text ends.
def hitTest {M : Type} [TextMeasurer α M] (v : View α) (p : Point α) : StateM M (Option HotItem) := do
  let legend := v.layout.legend
  let lineHeight := v.layout.font.lineHeight
  if !legend.contains p || decide (lineHeight ≤ 0) then return none
  let set := Scalar.toNat (Scalar.floor ((p.y - legend.y0) / lineHeight))
  if v.data.length ≤ set then return none
  let r := row v set
  if p.x < r.textOrigin.x then return some (.whole set)
  let found ← TextMeasurer.hit (v.label set) v.config.textStyle (p.x - r.textOrigin.x)
  return if found.inside then some (.whole set) else none

end Legend

end Charting
