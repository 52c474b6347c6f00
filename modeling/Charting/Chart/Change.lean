import Charting.Chart

namespace Charting

namespace Chart

variable {H : Host}

def tooltipPadding {α : Type} [Scalar α] : α :=
  4

def bubbleSize {α : Type} [Scalar α] (m : TextMetrics α) : Size α :=
  ⟨m.advance + 2 * tooltipPadding, m.lineHeight + 2 * tooltipPadding⟩

def invalidateRect (rect : Rect H.Length) (c : Chart H) : Chart H :=
  if c.redraw then { c with dirty := some (c.dirty.elim rect (·.union rect)) } else c

def invalidate (c : Chart H) : Chart H :=
  c.invalidateRect c.viewRect

def tooltipContent (hot : HotItem) (c : Chart H) : Option (String × Size H.Length) × Chart H :=
  let (v, c) := c.view
  match v.tooltipText c.style.kind hot with
  | none => (none, c)
  | some text =>
    let (metrics, c) := c.measuring (TextMeasurer.measure text c.config.textStyle)
    (some (text, bubbleSize metrics), c)

def moveTooltip (p : Point H.Length) (c : Chart H) : Chart H :=
  { c with tooltip := c.tooltip.follow p }

def showTooltip (text : String) (bubble : Size H.Length) (c : Chart H) : Chart H :=
  let tooltip := (c.tooltip.setBubble bubble).setText text
  let tooltip := if c.tooltipShown then tooltip else tooltip.activate true
  let c := { c with tooltip, tooltipShown := true }
  match c.pointer with
  | some p => c.moveTooltip p
  | none => c

def hideTooltip (c : Chart H) : Chart H :=
  let tooltip := if c.tooltipShown then c.tooltip.activate false else c.tooltip
  { c with tooltip, tooltipShown := false }

def updateTooltip (c : Chart H) : Chart H :=
  match c.tooltip with
  | .empty => c
  | _ =>
    let (content, c) :=
      match c.hot with
      | some hot => c.tooltipContent hot
      | none => (none, c)
    match content with
    | some (text, bubble) => if text.isEmpty then c.hideTooltip else c.showTooltip text bubble
    | none => c.hideTooltip

def findHot (c : Chart H) : Chart H :=
  let (hot, c) :=
    match c.pointer with
    | some p => if c.enabled then c.hitTest p else (none, c)
    | none => (none, c)
  { c with hot }.updateTooltip

def changed (c : Chart H) : Chart H :=
  c.findHot.invalidate

def dropSurface (c : Chart H) : Chart H :=
  { c with surface := none, deadline := none }

end Chart

end Charting
