import Charting.Plot
import Charting.Text.Heuristic
import Charting.Text.MeasureCache
import Charting.Tooltip

namespace Charting

-- The numbers a program measures in, and the kinds of objects it lends to its charts. Each object is a value with a
-- state, which nothing but the calls made by the chart changes.
structure Host where
  Length : Type
  Source : Type
  Measurer : Type
  Tooltip : Type
  Printer : Type
  Surface : Type
  Service : Type
  [scalar : Scalar Length]
  [circular : Circular Length]
  [supplier : Supplier Source]
  [measurer : TextMeasurer Length Measurer]
  [bubble : Bubble Length Tooltip]
  [printer : RenderTarget Length Printer]
  [surfaces : SurfaceService Length Surface Service]

attribute [instance] Host.scalar Host.circular Host.supplier Host.measurer Host.bubble Host.printer
  Host.surfaces

inductive ChartMeasurer (α M : Type) where
  | standard (cache : MeasureCache α Heuristic)
  | lent (measurer : M)

namespace ChartMeasurer

variable {α M : Type} [Scalar α]

def cacheCapacity : Nat :=
  256

def initial : ChartMeasurer α M :=
  .standard (.wrap {} cacheCapacity)

variable [TextMeasurer α M]

instance : TextMeasurer α (ChartMeasurer α M) where
  measure text style
    | .standard cache =>
      let (metrics, cache) := TextMeasurer.measure text style cache
      (metrics, .standard cache)
    | .lent m =>
      let (metrics, m) := TextMeasurer.measure text style m
      (metrics, .lent m)
  hit text style x
    | .standard cache =>
      let (found, cache) := TextMeasurer.hit text style x cache
      (found, .standard cache)
    | .lent m =>
      let (found, m) := TextMeasurer.hit text style x m
      (found, .lent m)

end ChartMeasurer

structure Chart (H : Host) where
  data : List DataSet := []
  primary : Axis := {}
  secondary : Axis := {}
  style : ChartStyle
  config : Config H.Length
  title : String := ""
  size : Size H.Length
  enabled : Bool := true
  redraw : Bool := true
  hot : Option HotItem := none
  pointer : Option (Point H.Length) := none
  tooltip : TooltipSlot H.Length H.Tooltip
  -- Whether the tooltip was last told to show itself.
  tooltipShown : Bool := false
  supplier : Option H.Source := none
  measurer : ChartMeasurer H.Length H.Measurer := .initial
  service : H.Service
  surface : Option H.Surface := none
  dirty : Option (Rect H.Length) := none
  deadline : Option Nat := none

namespace Chart

variable {H : Host}

def ownTooltip (style : ChartStyle) : TooltipSlot H.Length H.Tooltip :=
  if style.tooltips then .tracking .hidden else .empty

def withConfig (service : H.Service) (style : ChartStyle) (config : Config H.Length) : Chart H where
  style := style
  config := config
  size := Size.zero
  tooltip := ownTooltip style
  service := service

def new (service : H.Service) (style : ChartStyle) : Chart H :=
  withConfig service style .standard

def viewRect (c : Chart H) : Rect H.Length :=
  Rect.ofSize c.size

def measuring {β : Type} (m : StateM (ChartMeasurer H.Length H.Measurer) β) (c : Chart H) : β × Chart H :=
  let (result, measurer) := m c.measurer
  (result, { c with measurer })

def layOut (c : Chart H) : Layout H.Length × Chart H :=
  let (font, c) := c.measuring (FontMetrics.measure c.config.textStyle)
  (Layout.arrange c.size font (!c.title.isEmpty), c)

-- All that painting and hit testing look at, brought together. The font is measured first, and then values are
-- asked for.
def view (c : Chart H) : View H.Length × Chart H :=
  let (layout, c) := c.layOut
  let (values, supplier) := Values.collect c.data c.supplier
  ({ data := c.data, values, primary := c.primary, secondary := c.secondary, hot := c.hot, layout,
     config := c.config },
   { c with supplier })

def hitTest (p : Point H.Length) (c : Chart H) : Option HotItem × Chart H :=
  let (v, c) := c.view
  c.measuring (v.hitTest c.style.kind p)

def grid (c : Chart H) : Option (Grid H.Length) × Chart H :=
  if c.style.kind.hasGrid then
    let (v, c) := c.view
    let (grid, c) := c.measuring (Grid.layOut v c.style.kind)
    (some grid, c)
  else (none, c)

def picture (c : Chart H) : Picture H.Length × Chart H :=
  let (v, c) := c.view
  c.measuring (v.paint c.style.kind c.title)

end Chart

end Charting
