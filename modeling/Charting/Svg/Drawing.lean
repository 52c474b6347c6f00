import Charting.Scalar.Decimal
import Charting.Svg

namespace Charting

namespace SvgElement

def pointText (p : Point Float) : String :=
  Double.text p.x ++ "," ++ Double.text p.y

def pathElementText : PathElement Float → String
  | .move p => "M" ++ pointText p
  | .line p => "L" ++ pointText p
  | .curve p q r => "C" ++ pointText p ++ " " ++ pointText q ++ " " ++ pointText r
  | .close => "Z"

def pathText (path : Path Float) : String :=
  " ".intercalate (path.map pathElementText)

def paintAttributes (name : String) (color : Color) : List SvgAttribute :=
  let alpha := Color.byte color.alpha
  ⟨name, color.hex⟩ ::
    if alpha = 255 then [] else [⟨name ++ "-opacity", Double.text (alpha.toFloat / 255.0)⟩]

def ofFill (path : Path Float) (rule : FillRule) (color : Color) : SvgElement :=
  .shape "path" (⟨"d", pathText path⟩ :: paintAttributes "fill" color
    ++ if rule = .evenOdd then [⟨"fill-rule", "evenodd"⟩] else [])

def ofStroke (path : Path Float) (width : Float) (color : Color) : SvgElement :=
  .shape "path" ([⟨"d", pathText path⟩, ⟨"fill", "none"⟩] ++ paintAttributes "stroke" color
    ++ [⟨"stroke-width", Double.text width⟩])

def ofRect (rect : Rect Float) (color : Color) : SvgElement :=
  .shape "rect" ([⟨"x", Double.text rect.x0⟩, ⟨"y", Double.text rect.y0⟩, ⟨"width", Double.text rect.width⟩,
    ⟨"height", Double.text rect.height⟩] ++ paintAttributes "fill" color)

def baselineName : TextBaseline → String
  | .hanging => "hanging"
  | .middle => "middle"
  | .alphabetic => "alphabetic"

def anchorName : TextAnchor → String
  | .start => "start"
  | .middle => "middle"
  | .stop => "end"

def turnAttributes (run : TextRun Float) : List SvgAttribute :=
  if run.angle == 0.0 then []
  else
    [⟨"transform", "rotate(" ++ Double.text run.angle ++ " " ++ Double.text run.position.x ++ " "
      ++ Double.text run.position.y ++ ")"⟩]

def ofRun (run : TextRun Float) : SvgElement :=
  .text ([⟨"x", Double.text run.position.x⟩, ⟨"y", Double.text run.position.y⟩,
      ⟨"font-size", Double.text run.style.size⟩, ⟨"font-family", run.style.family.cssName⟩,
      ⟨"dominant-baseline", baselineName run.baseline⟩]
    ++ turnAttributes run ++ [⟨"text-anchor", anchorName run.anchor⟩] ++ paintAttributes "fill" run.color) run.text

-- Numbers are written with six places at most, and zero without a sign. A writer of the shortest numerals that read back
-- exactly makes other texts of numbers, and of nothing else.
def ofCall : DrawCall Float → SvgElement
  | .fillRect rect color => ofFill (Path.ofRect rect) .nonZero color
  | .fillCircle center radius color => ofFill (Path.circle center radius) .nonZero color
  | .line start stop width color => ofStroke (Path.polyline [start, stop]) width color
  | .fillPath path rule color => ofFill path rule color
  | .strokePath path width color => ofStroke path width color
  | .text run => ofRun run

end SvgElement

namespace SvgDocument

def ofSize (size : Size Float) : SvgDocument :=
  { width := Double.text size.width, height := Double.text size.height }

instance : RenderTarget Float SvgDocument where
  draw call doc := (.ok (), doc.add (.ofCall call))

end SvgDocument

structure SvgScreen where
  frame : Option String := none

namespace SvgScreen

instance : SurfaceService Float SvgDocument SvgScreen where
  create size screen := (.ok (.ofSize size), screen)
  begin := fun (doc, screen) => (doc.cleared, screen)
  clear rect color := fun (doc, screen) => (.ok (), (doc.add (.ofRect rect color), screen))
  draw call := fun (doc, screen) => (.ok (), (doc.add (.ofCall call), screen))
  present := fun (doc, screen) => (.ok (), (doc, { screen with frame := some doc.render }))

end SvgScreen

end Charting
