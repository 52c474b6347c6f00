import Charting.Refusal

namespace Charting

inductive Kind where
  | pie
  | scatter
  | line (stacked : Bool)
  | area (stacked : Bool)
  | column (stacked : Bool)
  -- Boxes that lie on their side; the places of values run from top to bottom.
  | bar (stacked : Bool)
deriving DecidableEq

namespace Kind

def all : List Kind :=
  [.pie, .scatter, .line false, .line true, .area false, .area true, .column false, .column true, .bar false,
    .bar true]

def number : Kind → Nat
  | .pie => 0
  | .scatter => 1
  | .line stacked => if stacked then 3 else 2
  | .area stacked => if stacked then 5 else 4
  | .column stacked => if stacked then 7 else 6
  | .bar stacked => if stacked then 9 else 8

def ofNumber (n : Nat) : Except Refusal Kind :=
  match all[n]? with
  | some kind => .ok kind
  | none => .error (.noSuchKind n)

def isStacked : Kind → Bool
  | .pie | .scatter => false
  | .line stacked | .area stacked | .column stacked | .bar stacked => stacked

def isSwapped : Kind → Bool
  | .bar _ => true
  | _ => false

def hasGrid : Kind → Bool
  | .pie => false
  | _ => true

def name (kind : Kind) : String :=
  (if kind.isStacked then "stacked-" else "") ++
    match kind with
    | .pie => "pie"
    | .scatter => "scatter"
    | .line _ => "line"
    | .area _ => "area"
    | .column _ => "column"
    | .bar _ => "bar"

end Kind

structure HotItem where
  set : Nat
  index : Option Nat := none
deriving DecidableEq

namespace HotItem

def value (set index : Nat) : HotItem :=
  ⟨set, some index⟩

def whole (set : Nat) : HotItem :=
  ⟨set, none⟩

def covers (item : HotItem) (set index : Nat) : Bool :=
  item.set == set && item.index.all (· == index)

end HotItem

end Charting
