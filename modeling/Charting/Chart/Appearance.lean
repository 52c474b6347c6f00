import Charting.Chart.Change

namespace Charting

namespace Chart

variable {H : Host}

-- The tooltip slot under a new style: a tooltip of the chart's own comes and goes with the style, a lent one
-- stays.
def slotFor (style : ChartStyle) (slot : TooltipSlot H.Length H.Tooltip) : TooltipSlot H.Length H.Tooltip :=
  match slot, style.tooltips with
  | .empty, true => .tracking .hidden
  | .tracking _, false => .empty
  | slot, _ => slot

def setStyle (style : ChartStyle) (c : Chart H) : Chart H :=
  let tooltipShown :=
    match c.tooltip, style.tooltips with
    | .tracking _, false => false
    | _, _ => c.tooltipShown
  { c with style, tooltip := slotFor style c.tooltip, tooltipShown }.changed

def setConfig (config : Config H.Length) (c : Chart H) : Chart H :=
  { c with config }.changed

def setTitle (title : String) (c : Chart H) : Chart H :=
  { c with title }.changed

def setTextStyle (textStyle : TextStyle H.Length) (c : Chart H) : Chart H :=
  { c with config := { c.config with textStyle } }.changed

def setMeasurer (measurer : H.Measurer) (c : Chart H) : Chart H :=
  { c with measurer := .lent measurer }.changed

def setEnabled (enabled : Bool) (c : Chart H) : Chart H :=
  { c with enabled }.changed

def setRedraw (redraw : Bool) (c : Chart H) : Chart H :=
  { c with redraw }.invalidate

-- Lends a tooltip to the chart and gives the one lent before back, hidden. Without one the chart falls back to
-- what its style asks for.
def setTooltip (tooltip : Option H.Tooltip) (c : Chart H) : Option H.Tooltip × Chart H :=
  let c := c.hideTooltip
  let next :=
    match tooltip with
    | some t => .external t
    | none => ownTooltip c.style
  (c.tooltip.external?, { c with tooltip := next }.updateTooltip)

end Chart

end Charting
