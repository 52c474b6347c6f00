import Charting.Grid.Range
import Charting.View

namespace Charting

structure GridLabel (α : Type) where
  text : String
  position : Point α
  anchor : TextAnchor
  baseline : TextBaseline
  angle : α

structure Grid (α : Type) where
  horizontal : GridAxis α
  vertical : GridAxis α
  core : Rect α
  swapped : Bool
  labels : List (GridLabel α)
  names : List (GridLabel α)

structure GridSide where
  selector : AxisSelector
  range : AxisRange

structure GridSides where
  horizontal : GridSide
  vertical : GridSide

structure LabelExtents (α : Type) where
  horizontal : α
  vertical : α

variable {α : Type} [Scalar α]

namespace GridSides

def ofView (v : View α) (kind : Kind) : GridSides :=
  let (primary, secondary) := AxisRange.ofValues kind v.primary v.secondary v.values
  if kind.isSwapped then ⟨⟨.secondary, secondary⟩, ⟨.primary, primary⟩⟩
  else ⟨⟨.primary, primary⟩, ⟨.secondary, secondary⟩⟩

end GridSides

namespace LabelExtents

-- The least and the last label alone are measured, because no label is longer than the longer one of these. Their width
-- has a character added to it, and is no less than a number of characters.
def measureSide {M : Type} [TextMeasurer α M] (v : View α) (side : GridSide) (leastChars : α) : StateM M α := do
  let charWidth := v.layout.font.charWidth
  let first ← v.textWidth (v.format side.selector side.range.min)
  let last ← v.textWidth (v.format side.selector side.range.last)
  return Scalar.max (Scalar.max (leastChars * charWidth) (first + charWidth)) (last + charWidth)

def measure {M : Type} [TextMeasurer α M] (v : View α) (sides : GridSides) : StateM M (LabelExtents α) := do
  let horizontal ← measureSide v sides.horizontal 3
  let vertical ← measureSide v sides.vertical 6
  return { horizontal, vertical := vertical + Scalar.halfUp v.layout.font.charWidth }

end LabelExtents

namespace Grid

def nameExtent (v : View α) (selector : AxisSelector) : α :=
  if (v.axis selector).shownName.isSome then v.layout.font.lineHeight else 0

def unsnappedCore (v : View α) (sides : GridSides) (extents : LabelExtents α) : Rect α :=
  let body := v.layout.body
  let lineHeight := v.layout.font.lineHeight
  let x0 := body.x0 + nameExtent v sides.vertical.selector + extents.vertical
  let y0 := body.y0 + Scalar.halfUp lineHeight
  let x1 := body.x1 - Scalar.halfDown extents.horizontal
  let y1 := body.y1 - Scalar.halfUp (3 * lineHeight) - nameExtent v sides.horizontal.selector
  ⟨x0, y0, Scalar.max x1 (x0 + 1), Scalar.max y1 (y0 + 1)⟩

def step (span labelExtent pixels : α) : Int :=
  let raw := Scalar.toInt (Scalar.ceil (span * labelExtent / Scalar.max pixels 1))
  max (Nice.roundWide .up raw) 1

-- The part of an extent in which a step is a whole number of pixels; none if a step is below a pixel.
def snappedExtent (extent span : α) (delta : Int) : Option α :=
  let exact := extent * Scalar.ofInt delta / span
  let whole := Scalar.floor exact
  if 1 ≤ whole then some (extent / exact * whole) else none

def snapHorizontal (core : Rect α) (span : α) (delta : Int) : Rect α :=
  match snappedExtent core.width span delta with
  | some width =>
    let x0 := Scalar.round (core.x0 + (core.width - width) / 2)
    { core with x0, x1 := x0 + width }
  | none => core

def snapVertical (core : Rect α) (span : α) (delta : Int) : Rect α :=
  match snappedExtent core.height span delta with
  | some height =>
    let y1 := Scalar.round (core.y0 + (core.height - height) / 2 + height)
    { core with y0 := y1 - height, y1 }
  | none => core

-- The last value up to `min` that is shown as a multiple of a step.
def baseValue (axis : Axis) (min delta : Int) : Int :=
  Int.fdiv (axis.displayed min) delta * delta - axis.offset.toInt

def axisBetween (v : View α) (side : GridSide) (orientation : Orientation) (delta : Int) (start stop : α) :
    GridAxis α where
  selector := side.selector
  kind := side.range.kind
  orientation := orientation
  min := side.range.min
  max := side.range.max
  base := baseValue (v.axis side.selector) side.range.min delta
  delta := delta
  scale := ⟨Scalar.ofInt side.range.min, Scalar.ofInt side.range.max, start, stop⟩

def horizontalLabels (v : View α) (axis : GridAxis α) (core : Rect α) : List (GridLabel α) :=
  axis.ticks.map fun value =>
    { text := v.format axis.selector value
      position := ⟨axis.labelPosition value, core.y1 + Scalar.halfUp v.layout.font.lineHeight⟩
      anchor := .middle
      baseline := .hanging
      angle := 0 }

def verticalLabels (v : View α) (axis : GridAxis α) (core : Rect α) : List (GridLabel α) :=
  axis.ticks.map fun value =>
    { text := v.format axis.selector value
      position := ⟨core.x0 - Scalar.halfUp v.layout.font.charWidth, axis.labelPosition value⟩
      anchor := .stop
      baseline := .middle
      angle := 0 }

def nameLabel (v : View α) (selector : AxisSelector) (position : Point α) (angle : α) : List (GridLabel α) :=
  (v.axis selector).shownName.toList.map fun text =>
    { text, position, anchor := .middle, baseline := .hanging, angle }

def arrange (v : View α) (kind : Kind) (extents : LabelExtents α) : Grid α :=
  let sides := GridSides.ofView v kind
  let body := v.layout.body
  let lineHeight := v.layout.font.lineHeight
  let core := unsnappedCore v sides extents
  let spanH : α := sides.horizontal.range.span
  let spanV : α := sides.vertical.range.span
  let deltaH := step spanH extents.horizontal core.width
  let deltaV := step spanV (1.5 * lineHeight) core.height
  let core := snapVertical (snapHorizontal core spanH deltaH) spanV deltaV
  let horizontal := axisBetween v sides.horizontal .horizontal deltaH core.x0 core.x1
  -- Places of bars run from top to bottom, everything else grows upwards.
  let vertical :=
    if kind.isSwapped then axisBetween v sides.vertical .vertical deltaV core.y0 core.y1
    else axisBetween v sides.vertical .vertical deltaV core.y1 core.y0
  { horizontal, vertical, core
    swapped := kind.isSwapped
    labels := horizontalLabels v horizontal core ++ verticalLabels v vertical core
    names := nameLabel v sides.horizontal.selector ⟨core.center.x, body.y1 - lineHeight⟩ 0
      ++ nameLabel v sides.vertical.selector ⟨body.x0, core.center.y⟩ (-90) }

def layOut {M : Type} [TextMeasurer α M] (v : View α) (kind : Kind) : StateM M (Grid α) := do
  return arrange v kind (← LabelExtents.measure v (GridSides.ofView v kind))

def primary (g : Grid α) : GridAxis α :=
  if g.swapped then g.vertical else g.horizontal

def secondary (g : Grid α) : GridAxis α :=
  if g.swapped then g.horizontal else g.vertical

def point (g : Grid α) (primary secondary : α) : Point α :=
  if g.swapped then ⟨g.horizontal.map secondary, g.vertical.map primary⟩
  else ⟨g.horizontal.map primary, g.vertical.map secondary⟩

def unmapPrimary (g : Grid α) (p : Point α) : α :=
  if g.swapped then g.vertical.unmap p.y else g.horizontal.unmap p.x

def unmapSecondary (g : Grid α) (p : Point α) : α :=
  if g.swapped then g.horizontal.unmap p.x else g.vertical.unmap p.y

-- The values with a line across the core. The line at zero is drawn apart, and room that belongs to a place has
-- no line in it.
def lineValues (axis : GridAxis α) : List Int :=
  match axis.kind with
  | .category => []
  | _ => axis.ticks.filter (· != 0)

def verticalLine (g : Grid α) (value : α) (color : Color) : DrawCall α :=
  let x := g.horizontal.map value
  .line ⟨x, g.core.y0⟩ ⟨x, g.core.y1⟩ 1 color

def horizontalLine (g : Grid α) (value : α) (color : Color) : DrawCall α :=
  let y := g.vertical.map value
  .line ⟨g.core.x0, y⟩ ⟨g.core.x1, y⟩ 1 color

def labelRun (v : View α) (label : GridLabel α) : TextRun α where
  text := label.text
  position := label.position
  anchor := label.anchor
  baseline := label.baseline
  angle := label.angle
  style := v.config.textStyle
  color := v.config.textColor

def paint (g : Grid α) (v : View α) : Picture α :=
  (lineValues g.horizontal).map (fun value => g.verticalLine (Scalar.ofInt value) v.config.gridlineColor)
    ++ (lineValues g.vertical).map (fun value => g.horizontalLine (Scalar.ofInt value) v.config.gridlineColor)
    ++ [g.verticalLine 0 v.config.axisColor, g.horizontalLine 0 v.config.axisColor]
    ++ (g.labels ++ g.names).map (fun label => .text (labelRun v label))

end Grid

end Charting
