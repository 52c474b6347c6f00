import Charting.Chart.Change

namespace Charting

namespace Chart

variable {H : Host}

-- The pointer is at a point of the view. The tooltip follows it even where the item stays the same.
def pointerMove (p : Point H.Length) (c : Chart H) : Chart H :=
  let c := { c with pointer := some p }
  if c.enabled then
    let (hot, c) := c.hitTest p
    let c := if hot = c.hot then c else { c with hot }.updateTooltip.invalidate
    if c.tooltipShown then c.moveTooltip p else c
  else c

def pointerLeave (c : Chart H) : Chart H :=
  let c := { c with pointer := none }
  if c.enabled && c.hot.isSome then { c with hot := none }.updateTooltip.invalidate else c

end Chart

end Charting
