import Charting.Chart.Change

namespace Charting

namespace Chart

variable {H : Host}

def resize (size : Size H.Length) (c : Chart H) : Chart H :=
  if size.equal c.size then c else { c with size }.dropSurface.changed

def displayChanged (c : Chart H) : Chart H :=
  c.dropSurface.invalidate

def onTimer (now : Nat) (c : Chart H) : Bool × Chart H :=
  match c.deadline with
  | some deadline => if deadline ≤ now then (c.surface.isSome, c.dropSurface) else (false, c)
  | none => (false, c)

def paintOn (now : Nat) (surface : H.Surface) (c : Chart H) : Chart H :=
  let (picture, c) := c.picture
  let state := SurfaceService.begin (α := H.Length) (surface, c.service)
  let (_, state) := SurfaceService.clear c.viewRect c.config.background state
  let state := picture.drawOnSurface state
  let (presented, (surface, service)) := SurfaceService.present (α := H.Length) state
  match presented with
  | .error .surfaceLost => { c with service, surface := none, deadline := none, dirty := some c.viewRect }
  | _ => { c with service, surface := some surface, deadline := some (now + c.config.idleTimeout), dirty := none }

-- Paints the view. Without a surface nothing is painted, and the view stays dirty.
def paint (now : Nat) (c : Chart H) : Chart H :=
  if c.redraw then
    match c.surface with
    | some surface => c.paintOn now surface
    | none =>
      match SurfaceService.create (S := H.Surface) c.size c.service with
      | (.ok surface, service) => { c with service }.paintOn now surface
      | (.error _, service) => { c with service }
  else { c with dirty := none }

def print (target : H.Printer) (c : Chart H) : H.Printer × Chart H :=
  let (picture, c) := c.picture
  (Picture.drawOn (.fillRect c.viewRect c.config.background :: picture) target, c)

end Chart

end Charting
