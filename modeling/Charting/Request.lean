import Charting.Chart.Appearance
import Charting.Chart.Data

namespace Charting

inductive Request (T : Type) where
  | getDataSetCount
  | deleteAllDataSets
  | insertDataSet (index : Int64) (contents : Contents)
  | deleteDataSet (index : Int64)
  | getDataSet (index : Int64) (buffer : Option (Array Int32))
  | setDataSet (index : Int64) (contents : Contents)
  | getDataSetColor (index : Int64)
  | setDataSetColor (index : Int64) (color : Option Color)
  | getDataSetLegend (index : Int64)
  | setDataSetLegend (index : Int64) (legend : Option String)
  | getExponent (axis : Int32)
  | setExponent (axis : Int32) (exponent : Int32)
  | getOffset (axis : Int32)
  | setOffset (axis : Int32) (offset : Int32)
  | getAxisName (axis : Int32)
  | setAxisName (axis : Int32) (name : Option String)
  | getTooltip
  | setTooltip (tooltip : Option T)

inductive Reply (T : Type) where
  | done
  | count (n : Nat)
  | dataSet (count copied : Nat) (buffer : Option (Array Int32))
  | color (color : Option Color)
  | text (text : Option String)
  | number (n : Int)
  | tooltipSource (source : Option TooltipSource)
  | tooltip (tooltip : Option T)

namespace Reply

def packed (color : Color) : Int :=
  (Color.byte color.red).toNat + 256 * (Color.byte color.green).toNat + 65536 * (Color.byte color.blue).toNat

def rawCount (n : Nat) : Int :=
  min n (9223372036854775807 : Nat)

-- The reply in one number. A text is as much as its length in bytes, a tooltip as much as its source.
def raw {T : Type} : Reply T → Int
  | .done => 1
  | .count n => rawCount n
  | .dataSet declared _ _ => rawCount declared
  | .color none => -1
  | .color (some c) => packed c
  | .text none => 0
  | .text (some t) => rawCount t.utf8ByteSize
  | .number n => n
  | .tooltipSource none => 0
  | .tooltipSource (some .tracking) => 1
  | .tooltipSource (some .external) => 2
  | .tooltip none => 0
  | .tooltip (some _) => 2

end Reply

namespace Request

def invalidExponent : Int :=
  -666

def failureValue {T : Type} : Request T → Int
  | .getExponent _ => invalidExponent
  | .insertDataSet _ _ | .getDataSet _ _ | .getDataSetColor _ => -1
  | _ => 0

def buffer {T : Type} : Request T → Option (Array Int32)
  | .getDataSet _ buffer => buffer
  | _ => none

def fill (buffer values : Array Int32) : Nat × Array Int32 :=
  let n := min buffer.size values.size
  (n, values.extract 0 n ++ buffer.extract n buffer.size)

end Request

namespace Chart

variable {H : Host}

def rawIndex (index : Int64) (c : Chart H) : Except Refusal Nat :=
  if index.toInt < 0 then .error (.noSuchDataSet index.toInt c.data.length) else .ok index.toInt.toNat

def rawAxis (axis : Int32) : Except Refusal AxisSelector :=
  AxisSelector.ofNumber axis.toInt

def copyValues (d : DataSet) (buffer : Option (Array Int32)) : Nat × Option (Array Int32) :=
  match buffer, d.values with
  | some buffer, some values =>
    let (copied, buffer) := Request.fill buffer values
    (copied, some buffer)
  | buffer, _ => (0, buffer)

end Chart

-- A chart at work on a message, and the buffer that came with the message.
structure Desk (H : Host) where
  chart : Chart H
  buffer : Option (Array Int32)

namespace Desk

variable {H : Host}

def handle {β : Type} (attempt : Attempt (Chart H) β) : Attempt (Desk H) β := fun desk =>
  let (result, chart) := attempt desk.chart
  (result, { desk with chart })

def copyOut (d : DataSet) : Attempt (Desk H) Nat :=
  modifyGet fun desk =>
    let (copied, buffer) := Chart.copyValues d desk.buffer
    (copied, { desk with buffer })

def serve (request : Request H.Tooltip) : Attempt (Desk H) (Reply H.Tooltip) := do
  let c := (← get).chart
  match request with
  | .getDataSetCount => return .count c.data.length
  | .deleteAllDataSets =>
    handle (modify Chart.deleteAllDataSets)
    return .done
  | .insertDataSet index contents => return .count (← handle (Chart.insertDataSet (← c.rawIndex index) contents))
  | .deleteDataSet index =>
    handle (Chart.deleteDataSet (← c.rawIndex index))
    return .done
  | .getDataSet index _ =>
    let d ← c.dataSet (← c.rawIndex index)
    let copied ← copyOut d
    return .dataSet d.count copied (← get).buffer
  | .setDataSet index contents =>
    handle (Chart.setDataSet (← c.rawIndex index) contents)
    return .done
  | .getDataSetColor index => return .color (← c.dataSet (← c.rawIndex index)).color
  | .setDataSetColor index color =>
    handle (Chart.setDataSetColor (← c.rawIndex index) color)
    return .done
  | .getDataSetLegend index => return .text (← c.dataSet (← c.rawIndex index)).legend
  | .setDataSetLegend index legend =>
    handle (Chart.setDataSetLegend (← c.rawIndex index) legend)
    return .done
  | .getExponent axis => return .number (← c.axis (← Chart.rawAxis axis)).exponent
  | .setExponent axis exponent =>
    handle (Chart.setExponent (← Chart.rawAxis axis) exponent.toInt)
    return .done
  | .getOffset axis => return .number (← c.axis (← Chart.rawAxis axis)).offset.toInt
  | .setOffset axis offset =>
    handle (Chart.setOffset (← Chart.rawAxis axis) offset)
    return .done
  | .getAxisName axis => return .text (← c.axis (← Chart.rawAxis axis)).name
  | .setAxisName axis name =>
    handle (Chart.setAxisName (← Chart.rawAxis axis) name)
    return .done
  | .getTooltip => return .tooltipSource c.tooltip.source
  | .setTooltip tooltip => return .tooltip (← handle (modifyGet (Chart.setTooltip tooltip)))

end Desk

def Chart.dispatch {H : Host} (request : Request H.Tooltip) (c : Chart H) :
    Except Refusal (Reply H.Tooltip) × Chart H :=
  let (answer, desk) := Desk.serve request { chart := c, buffer := request.buffer }
  (answer, desk.chart)

def HotItem.raw : Option HotItem → Int × Int
  | none => (-1, -1)
  | some item => (Reply.rawCount item.set, item.index.elim (-1) Reply.rawCount)

end Charting
