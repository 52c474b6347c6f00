import Charting.Chart.Change

namespace Charting

namespace Chart

variable {H : Host}

def highestIndex : Nat :=
  9223372036854775807

def checkIndex (index : Nat) (c : Chart H) : Except Refusal Unit :=
  if index < c.data.length then .ok ()
  else .error (.noSuchDataSet (min index highestIndex : Nat) c.data.length)

def dataSet (index : Nat) (c : Chart H) : Except Refusal DataSet :=
  match c.data[index]? with
  | some d => .ok d
  | none => .error (.noSuchDataSet (min index highestIndex : Nat) c.data.length)

def checkContents (contents : Contents) : Except Refusal Unit :=
  if contents.count = 0 then .error .emptyDataSet else .ok ()

def deleteAllDataSets (c : Chart H) : Chart H :=
  { c with data := [] }.changed

def insertDataSet (index : Nat) (contents : Contents) : Attempt (Chart H) Nat := do
  checkContents contents
  let place := min index (← get).data.length
  modify fun c => { c with data := c.data.insertIdx place (.ofContents contents) }
  modify changed
  return place

def deleteDataSet (index : Nat) : Attempt (Chart H) Unit := do
  (← get).checkIndex index
  modify fun c => { c with data := c.data.eraseIdx index }
  modify changed

def setDataSet (index : Nat) (contents : Contents) : Attempt (Chart H) Unit := do
  (← get).checkIndex index
  checkContents contents
  modify fun c => { c with data := c.data.modify index (DataSet.replace contents) }
  modify changed

-- Gives a data set a color of its own, or the color of its place. Nothing under the pointer moves by that.
def setDataSetColor (index : Nat) (color : Option Color) : Attempt (Chart H) Unit := do
  (← get).checkIndex index
  modify fun c => { c with data := c.data.modify index ({ · with color }) }
  modify invalidate

def setDataSetLegend (index : Nat) (legend : Option String) : Attempt (Chart H) Unit := do
  (← get).checkIndex index
  modify fun c => { c with data := c.data.modify index ({ · with legend }) }
  modify changed

def setSupplier (supplier : Option H.Source) (c : Chart H) : Option H.Source × Chart H :=
  (c.supplier, { c with supplier }.changed)

def axis (selector : AxisSelector) (c : Chart H) : Except Refusal Axis :=
  match selector with
  | .primary => .ok c.primary
  | .secondary => .ok c.secondary
  | .both => .error (.noSuchAxis selector.number)

def modifyAxis (selector : AxisSelector) (f : Axis → Axis) : Attempt (Chart H) Unit :=
  match selector with
  | .primary => modify fun c => { c with primary := f c.primary }
  | .secondary => modify fun c => { c with secondary := f c.secondary }
  | .both => throw (.noSuchAxis selector.number)

def setExponent (selector : AxisSelector) (exponent : Int) : Attempt (Chart H) Unit := do
  let exponent ← Axis.checkExponent exponent
  if selector ≠ .secondary then
    modify fun c => { c with primary := { c.primary with exponent } }
  if selector ≠ .primary then
    modify fun c => { c with secondary := { c.secondary with exponent } }
  modify changed

def setOffset (selector : AxisSelector) (offset : Int32) : Attempt (Chart H) Unit := do
  modifyAxis selector ({ · with offset })
  modify changed

-- The axis is looked up before the name is taken over, and once more to change it.
def setAxisName (selector : AxisSelector) (name : Option String) : Attempt (Chart H) Unit := do
  let _ ← (← get).axis selector
  modifyAxis selector ({ · with name })
  modify changed

end Chart

end Charting
