import Charting.Geometry
import Charting.Text

namespace Charting

structure Layout (α : Type) where
  view : Rect α
  title : Option (Rect α)
  body : Rect α
  legend : Rect α
  font : FontMetrics α

namespace Layout

variable {α : Type} [Scalar α]

def legendChars : α :=
  15

def arrange (size : Size α) (font : FontMetrics α) (hasTitle : Bool) : Layout α :=
  let view := Rect.ofSize size
  let margin := Scalar.halfUp font.lineHeight
  let title : Option (Rect α) :=
    if hasTitle then
      some ⟨view.x0 + margin, view.y0 + margin, view.x1 - margin, view.y0 + margin + font.lineHeight⟩
    else none
  let top := (title.elim view.y0 Rect.y1) + margin
  let legendLeft := view.x1 - margin - legendChars * font.charWidth
  let legend : Rect α := ⟨legendLeft, top, view.x1 - margin, view.y1 - margin⟩
  let body : Rect α := ⟨view.x0 + margin, top, legendLeft - margin, view.y1 - margin⟩
  { view, title, body := body.collapsed, legend := legend.collapsed, font }

end Layout

end Charting
