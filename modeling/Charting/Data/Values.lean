import Charting.DataSet

namespace Charting

inductive Slot where
  | stored (values : Array Int32)
  -- In the shared buffer, from a place on.
  | buffered (start count : Nat)
  | missing
deriving DecidableEq

def Slot.entries (buffer : Array Int32) : Slot → Array Int32
  | .stored values => values
  | .buffered start count => buffer.extract start (start + count)
  | .missing => #[]

-- The values of one data set. There may be fewer than it declares; those left out read as zero.
structure Series where
  count : Nat
  entries : Array Int32

abbrev Values := List Series

namespace Values

-- The sum is not bounded here. That a word overflows from 2 ^ 64 on is outside the model: such a total is taken for one
-- too large to allocate, like all others from 2 ^ 61 on.
def virtualCount : List DataSet → Nat
  | [] => 0
  | d :: rest => (if d.values.isNone then d.count else 0) + virtualCount rest

-- Whether a buffer of that many values of four bytes fits into the address space.
def allocatable (count : Nat) : Bool :=
  4 * count < 9223372036854775808

def part (buffer : Array Int32) (start count : Nat) : Vector Int32 count :=
  Vector.ofFn fun i => buffer[start + i]?.getD 0

def putBack (buffer : Array Int32) (start : Nat) {count : Nat} (part : Vector Int32 count) : Array Int32 :=
  buffer.mapIdx fun i old => if start ≤ i then part[i - start]?.getD old else old

-- A part of the buffer as the supplier leaves it when it is asked for a whole data set, whether it knows the data set
-- or not.
def fetch {N : Type} [Supplier N] (supplier : Option N) (set : Nat) {count : Nat} (part : Vector Int32 count) :
    Vector Int32 count × Option N :=
  match supplier with
  | none => (part, none)
  | some n =>
    let ((part, _), n) := Supplier.fetch set 0 (count - 1) part n
    (part, some n)

-- The data sets from place `set` on, when the buffer is taken up to `next`. Without a buffer no supplier is asked.
def place {N : Type} [Supplier N] (room : Bool) :
    (set next : Nat) → List DataSet → Array Int32 → Option N → List Slot × Array Int32 × Option N
  | _, _, [], buffer, supplier => ([], buffer, supplier)
  | set, next, d :: rest, buffer, supplier =>
    match d.values with
    | some values =>
      let (slots, buffer, supplier) := place room (set + 1) next rest buffer supplier
      (.stored values :: slots, buffer, supplier)
    | none =>
      if room && d.count != 0 then
        let (fetched, supplier) := fetch supplier set (part buffer next d.count)
        let buffer := putBack buffer next fetched
        let (slots, buffer, supplier) := place room (set + 1) (next + d.count) rest buffer supplier
        (.buffered next d.count :: slots, buffer, supplier)
      else
        let (slots, buffer, supplier) := place room (set + 1) next rest buffer supplier
        (.missing :: slots, buffer, supplier)

-- All virtual data sets share one buffer of zeros. Each is asked for once, and the parts follow one another.
def collect {N : Type} [Supplier N] (data : List DataSet) (supplier : Option N) : Values × Option N :=
  let count := virtualCount data
  let room := allocatable count
  let buffer := if room then Array.replicate count 0 else #[]
  let (slots, buffer, supplier) := place room 0 0 data buffer supplier
  (List.zipWith (fun d slot => ⟨d.count, slot.entries buffer⟩) data slots, supplier)

def count (v : Values) (set : Nat) : Nat :=
  (v[set]?.map Series.count).getD 0

def maxCount (v : Values) : Nat :=
  (v.map Series.count).foldl max 0

-- A value; zero for one that is not there, so that data sets of unequal length can be stacked.
def value (v : Values) (set i : Nat) : Int :=
  ((v[set]?.bind (·.entries[i]?)).getD 0).toInt

def stackedBelow (v : Values) : Nat → Nat → Int
  | 0, _ => 0
  | set + 1, i => v.stackedBelow set i + v.value set i

def stacked (v : Values) (set i : Nat) : Int :=
  v.stackedBelow (set + 1) i

def pairs (v : Values) (set : Nat) : List Nat :=
  (List.range (v.count set / 2)).map (2 * ·)

def sets (v : Values) : List Nat :=
  List.range v.length

end Values

end Charting
