import Charting.Legend
import Charting.Plot.Column
import Charting.Plot.Line
import Charting.Plot.Pie
import Charting.Plot.Scatter

namespace Charting

namespace View

def tooltipText {α : Type} (v : View α) (kind : Kind) (hot : HotItem) : Option String :=
  hot.index.map fun i =>
    match kind with
    | .pie => v.format .primary (v.values.value hot.set i)
    | .scatter => Scatter.tooltipText v hot.set i
    | _ => v.format .secondary (v.values.value hot.set i)

variable {α M : Type} [Scalar α] [Circular α] [TextMeasurer α M]

def paintBody (v : View α) (kind : Kind) : StateM M (Picture α) :=
  match kind with
  | .pie => return Pie.paint v (← Pie.measureLabels v)
  | .scatter => return Scatter.paint v (← Grid.layOut v kind)
  | .line stacked => return Line.paint v (← Grid.layOut v kind) stacked false
  | .area stacked => return Line.paint v (← Grid.layOut v kind) stacked true
  | .column stacked | .bar stacked => return Column.paint v (← Grid.layOut v kind) stacked

def paintTitle (v : View α) (title : String) : Picture α :=
  match v.layout.title with
  | some strip => [.text { v.run title ⟨strip.center.x, strip.y0⟩ v.config.textColor with anchor := .middle }]
  | none => []

def paint (v : View α) (kind : Kind) (title : String) : StateM M (Picture α) := do
  return Legend.paint v ++ paintTitle v title ++ (← v.paintBody kind)

def hitBody (v : View α) (kind : Kind) (p : Point α) : StateM M (Option HotItem) :=
  match kind with
  | .pie => return Pie.hitTest v p
  | .scatter => return Scatter.hitTest v (← Grid.layOut v kind) p
  | .line stacked | .area stacked => return Line.hitTest v (← Grid.layOut v kind) stacked p
  | .column stacked | .bar stacked => return Column.hitTest v (← Grid.layOut v kind) stacked p

def hitTest (v : View α) (kind : Kind) (p : Point α) : StateM M (Option HotItem) :=
  if v.layout.legend.contains p then Legend.hitTest v p
  else if v.layout.body.contains p then v.hitBody kind p
  else return none

end View

end Charting
