import Charting.Chart.Paint
import Charting.Chart.Pointer
import Charting.Request

namespace Charting

inductive Operation (H : Host) where
  | insertDataSet (index : Nat) (contents : Contents)
  | deleteDataSet (index : Nat)
  | deleteAllDataSets
  | setDataSet (index : Nat) (contents : Contents)
  | setDataSetColor (index : Nat) (color : Option Color)
  | setDataSetLegend (index : Nat) (legend : Option String)
  | setSupplier (supplier : Option H.Source)
  | setExponent (selector : AxisSelector) (exponent : Int)
  | setOffset (selector : AxisSelector) (offset : Int32)
  | setAxisName (selector : AxisSelector) (name : Option String)
  | setStyle (style : ChartStyle)
  | setConfig (config : Config H.Length)
  | setTitle (title : String)
  | setTextStyle (textStyle : TextStyle H.Length)
  | setMeasurer (measurer : H.Measurer)
  | setEnabled (enabled : Bool)
  | setRedraw (redraw : Bool)
  | setTooltip (tooltip : Option H.Tooltip)
  | hitTest (p : Point H.Length)
  | layOut
  | grid
  | pointerMove (p : Point H.Length)
  | pointerLeave
  | resize (size : Size H.Length)
  | displayChanged
  | invalidateRect (rect : Rect H.Length)
  | onTimer (now : Nat)
  | paint (now : Nat)
  | print (target : H.Printer)
  | dispatch (request : Request H.Tooltip)

inductive Outcome (H : Host) where
  | done
  | refused (refusal : Refusal)
  | place (index : Nat)
  | supplier (previous : Option H.Source)
  | tooltip (previous : Option H.Tooltip)
  | item (item : Option HotItem)
  | layout (layout : Layout H.Length)
  | grid (grid : Option (Grid H.Length))
  | released (released : Bool)
  | printed (target : H.Printer)
  | reply (reply : Reply H.Tooltip)

namespace Chart

variable {H : Host}

def settle {β : Type} (outcome : β → Outcome H) : Except Refusal β × Chart H → Outcome H × Chart H
  | (.ok answer, c) => (outcome answer, c)
  | (.error refusal, c) => (.refused refusal, c)

def settleDone : Except Refusal Unit × Chart H → Outcome H × Chart H :=
  settle fun _ => .done

def perform (op : Operation H) (c : Chart H) : Outcome H × Chart H :=
  match op with
  | .insertDataSet index contents => settle .place (insertDataSet index contents c)
  | .deleteDataSet index => settleDone (deleteDataSet index c)
  | .deleteAllDataSets => (.done, c.deleteAllDataSets)
  | .setDataSet index contents => settleDone (setDataSet index contents c)
  | .setDataSetColor index color => settleDone (setDataSetColor index color c)
  | .setDataSetLegend index legend => settleDone (setDataSetLegend index legend c)
  | .setSupplier supplier => (c.setSupplier supplier).map .supplier id
  | .setExponent selector exponent => settleDone (setExponent selector exponent c)
  | .setOffset selector offset => settleDone (setOffset selector offset c)
  | .setAxisName selector name => settleDone (setAxisName selector name c)
  | .setStyle style => (.done, c.setStyle style)
  | .setConfig config => (.done, c.setConfig config)
  | .setTitle title => (.done, c.setTitle title)
  | .setTextStyle textStyle => (.done, c.setTextStyle textStyle)
  | .setMeasurer measurer => (.done, c.setMeasurer measurer)
  | .setEnabled enabled => (.done, c.setEnabled enabled)
  | .setRedraw redraw => (.done, c.setRedraw redraw)
  | .setTooltip tooltip => (c.setTooltip tooltip).map .tooltip id
  | .hitTest p => (c.hitTest p).map .item id
  | .layOut => c.layOut.map .layout id
  | .grid => c.grid.map .grid id
  | .pointerMove p => (.done, c.pointerMove p)
  | .pointerLeave => (.done, c.pointerLeave)
  | .resize size => (.done, c.resize size)
  | .displayChanged => (.done, c.displayChanged)
  | .invalidateRect rect => (.done, c.invalidateRect rect)
  | .onTimer now => (c.onTimer now).map .released id
  | .paint now => (.done, c.paint now)
  | .print target => (c.print target).map .printed id
  | .dispatch request => settle .reply (c.dispatch request)

def step (c : Chart H) (op : Operation H) : Chart H :=
  (c.perform op).2

def run (c : Chart H) (ops : List (Operation H)) : Chart H :=
  ops.foldl step c

end Chart

end Charting
