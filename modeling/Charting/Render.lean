import Charting.Color
import Charting.Path
import Charting.Text

namespace Charting

inductive TextAnchor where
  | start
  | middle
  | stop
deriving DecidableEq

inductive TextBaseline where
  | hanging
  | middle
  | alphabetic
deriving DecidableEq

structure TextRun (α : Type) where
  text : String
  position : Point α
  anchor : TextAnchor
  baseline : TextBaseline
  angle : α
  style : TextStyle α
  color : Color

inductive FillRule where
  | nonZero
  | evenOdd
deriving DecidableEq

inductive DrawCall (α : Type) where
  | fillRect (rect : Rect α) (color : Color)
  | fillCircle (center : Point α) (radius : α) (color : Color)
  | line (start stop : Point α) (width : α) (color : Color)
  | fillPath (path : Path α) (rule : FillRule) (color : Color)
  | strokePath (path : Path α) (width : α) (color : Color)
  | text (run : TextRun α)

abbrev Picture (α : Type) := List (DrawCall α)

def DrawCall.outlined {α : Type} [Scalar α] [Circular α] : DrawCall α → DrawCall α
  | .fillRect rect color => .fillPath (Path.ofRect rect) .nonZero color
  | .fillCircle center radius color => .fillPath (Path.circle center radius) .nonZero color
  | .line start stop width color => .strokePath (Path.polyline [start, stop]) width color
  | .fillPath path rule color => .fillPath path rule color
  | .strokePath path width color => .strokePath path width color
  | .text run => .text run

-- What a drawing target can fail with. Only the loss of a surface changes the course of a chart; any other
-- failure leaves out one element of a picture.
inductive RenderError where
  | geometry
  | brush
  | textLayout
  | surfaceLost
  | backend (text : String)
deriving DecidableEq

def RenderError.message : RenderError → String
  | .geometry => "geometry creation failed"
  | .brush => "brush creation failed"
  | .textLayout => "text layout creation failed"
  | .surfaceLost => "drawing surface lost"
  | .backend text => "render backend error: " ++ text

abbrev Drawn := Except RenderError Unit

class RenderTarget (α P : Type) where
  draw : DrawCall α → StateM P Drawn

-- A call that fails is left out, and has no influence on those that follow.
def Picture.drawOn {α P : Type} [RenderTarget α P] : Picture α → P → P
  | [], target => target
  | call :: rest, target => drawOn rest (RenderTarget.draw call target).2

-- Makes surfaces for the screen. A picture is drawn between `begin` and `present`; `present` tells whether
-- the surface is still there.
class SurfaceService (α S F : Type) where
  create : Size α → F → Except RenderError S × F
  begin : S × F → S × F
  clear : Rect α → Color → S × F → Drawn × (S × F)
  draw : DrawCall α → S × F → Drawn × (S × F)
  present : S × F → Drawn × (S × F)

def Picture.drawOnSurface {α S F : Type} [SurfaceService α S F] : Picture α → S × F → S × F
  | [], state => state
  | call :: rest, state => drawOnSurface rest (SurfaceService.draw call state).2

end Charting
