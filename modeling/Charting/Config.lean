import Charting.Color
import Charting.Geometry
import Charting.Kind
import Charting.Text

namespace Charting

structure Config (α : Type) where
  idleTimeout : Nat := 30000
  slop : Size α
  separator : Char := '.'
  textStyle : TextStyle α
  background : Color := .white
  gridlineColor : Color := .rgb 191 191 191
  axisColor : Color := .black
  textColor : Color := .black

def Config.standard {α : Type} [Scalar α] : Config α :=
  { slop := ⟨4, 4⟩, textStyle := .standard }

structure ChartStyle where
  kind : Kind := .pie
  tooltips : Bool := false
deriving DecidableEq

end Charting
