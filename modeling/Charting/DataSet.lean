import Charting.Color.Sequence

namespace Charting

inductive Contents where
  | stored (values : Array Int32)
  | virtual (count : Nat)
deriving DecidableEq

namespace Contents

def count : Contents → Nat
  | .stored values => values.size
  | .virtual count => count

def values? : Contents → Option (Array Int32)
  | .stored values => some values
  | .virtual _ => none

def isVirtual : Contents → Bool
  | .stored _ => false
  | .virtual _ => true

end Contents

structure DataSet where
  count : Nat
  values : Option (Array Int32)
  color : Option Color := none
  legend : Option String := none

namespace DataSet

def ofContents (contents : Contents) : DataSet where
  count := contents.count
  values := contents.values?

def contents (d : DataSet) : Contents :=
  d.values.elim (.virtual d.count) .stored

def overwrite (buffer values : Array Int32) : Array Int32 :=
  buffer.mapIdx fun i old => values[i]?.getD old

-- A data set that is given other values. As many as it holds go into its buffer; anything else takes the place of the
-- buffer, and the number of values is another one then.
def replace (contents : Contents) (d : DataSet) : DataSet :=
  let replaced := { d with count := contents.count, values := contents.values? }
  match contents, d.values with
  | .stored values, some buffer =>
    if buffer.size = values.size then { d with values := some (overwrite buffer values) } else replaced
  | _, _ => replaced

def shownColor (data : List DataSet) (set : Nat) : Color :=
  (data[set]?.bind DataSet.color).getD (Color.sequence set)

def shownLabel (data : List DataSet) (set : Nat) : String :=
  match data[set]?.bind DataSet.legend with
  | some legend => legend
  | none => s!"data-set-{set}"

end DataSet

class Supplier (N : Type) where
  -- Asks for the values `first` to `last` of a data set. The buffer comes back with whatever was written into
  -- it, the flag says whether the data set is known.
  fetch : {n : Nat} → (set first last : Nat) → Vector Int32 n → StateM N (Vector Int32 n × Bool)

end Charting
