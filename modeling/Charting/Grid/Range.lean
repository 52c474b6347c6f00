import Charting.Axis.Nice
import Charting.Data.Values
import Charting.Grid.Axis
import Charting.Kind

namespace Charting

namespace AxisRange

def continuous (axis : Axis) (values : List Int) : AxisRange :=
  let lo := values.foldl Min.min 0
  let hi := values.foldl Max.max 0
  let hi := if lo = hi then hi + 1 else hi
  let min := Nice.roundWide .down (axis.displayed lo) - axis.offset.toInt
  let max := Nice.roundWide .up (axis.displayed hi) - axis.offset.toInt
  ⟨.continuous, min, if max ≤ min then min + 1 else max⟩

-- Counts that need more than 63 bits are out of reach, here and for categories: the other axis looks at every value,
-- one by one, so that no such chart is ever laid out.
def discrete (count : Nat) : AxisRange :=
  ⟨.discrete, 0, Max.max (count - 1 : Int) 1⟩

def category (count : Nat) : AxisRange :=
  ⟨.category, 0, Max.max (count : Int) 1⟩

end AxisRange

namespace Values

def abscissas (v : Values) : List Int :=
  v.sets.flatMap fun set => (v.pairs set).map (v.value set)

def ordinates (v : Values) : List Int :=
  v.sets.flatMap fun set => (v.pairs set).map (fun i => v.value set (i + 1))

-- The heights that data sets reach, one by one or on top of each other. A stack is looked at up to the end of
-- the longest data set.
def heights (v : Values) (stacked : Bool) : List Int :=
  v.sets.flatMap fun set =>
    if stacked then (List.range v.maxCount).map (v.stacked set)
    else (List.range (v.count set)).map (v.value set)

end Values

def AxisRange.ofValues (kind : Kind) (primary secondary : Axis) (v : Values) : AxisRange × AxisRange :=
  match kind with
  | .scatter => (.continuous primary v.abscissas, .continuous secondary v.ordinates)
  | .column stacked | .bar stacked => (.category v.maxCount, .continuous secondary (v.heights stacked))
  | _ => (.discrete v.maxCount, .continuous secondary (v.heights kind.isStacked))

end Charting
