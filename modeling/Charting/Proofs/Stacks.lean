import Charting.Proofs.Boxes
import Charting.Proofs.RangeEnds
import Mathlib.Data.List.Chain

namespace Charting

namespace Values

variable {v : Values} {n i : Nat}

-- The data sets before the `n`-th one that have a value at a place.
def present (v : Values) (n i : Nat) : List Nat :=
  (List.range n).filter fun set => i < v.count set

end Values

section

variable {α : Type} [Scalar α] {v : View α}

end

namespace Demo

end Demo

end Charting
