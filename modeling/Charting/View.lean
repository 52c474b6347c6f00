import Charting.Axis
import Charting.Config
import Charting.Data.Values
import Charting.Layout
import Charting.Render

namespace Charting

structure View (α : Type) where
  data : List DataSet
  values : Values
  primary : Axis
  secondary : Axis
  hot : Option HotItem
  layout : Layout α
  config : Config α

namespace View

variable {α : Type}

def axis (v : View α) : AxisSelector → Axis
  | .secondary => v.secondary
  | .primary | .both => v.primary

def format (v : View α) (selector : AxisSelector) (raw : Int) : String :=
  (v.axis selector).format v.config.separator raw

def color (v : View α) (set : Nat) : Color :=
  DataSet.shownColor v.data set

def hint (v : View α) (set : Nat) : Color :=
  (v.color set).hint

def label (v : View α) (set : Nat) : String :=
  DataSet.shownLabel v.data set

def isHotSet (v : View α) (set : Nat) : Bool :=
  v.hot.any (·.set == set)

def textWidth {M : Type} [TextMeasurer α M] (v : View α) (text : String) : StateM M α := do
  return (← TextMeasurer.measure text v.config.textStyle).advance

def run [Scalar α] (v : View α) (text : String) (position : Point α) (color : Color) : TextRun α where
  text := text
  position := position
  anchor := .start
  baseline := .hanging
  angle := 0
  style := v.config.textStyle
  color := color

end View

end Charting
