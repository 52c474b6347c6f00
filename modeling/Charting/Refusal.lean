namespace Charting

inductive Refusal where
  | noSuchDataSet (index : Int) (count : Nat)
  | emptyDataSet
  | noSuchAxis (selector : Int)
  | exponentOutOfRange (exponent : Int)
  | noSuchKind (number : Nat)
deriving DecidableEq

def Refusal.message : Refusal → String
  | .noSuchDataSet index count => s!"invalid data set index {index} (chart has {count} data sets)"
  | .emptyDataSet => "data set cannot be empty"
  | .noSuchAxis selector => s!"invalid axis selector {selector}"
  | .exponentOutOfRange exponent => s!"invalid factor exponent {exponent} (expected -9..=9)"
  | .noSuchKind number => s!"invalid chart type {number}"

def Refusal.isInvalidParameter (_ : Refusal) : Bool :=
  true

-- Steps on a state, of which each may refuse to go on. What was done before a refusal stays done.
abbrev Attempt (σ β : Type) :=
  ExceptT Refusal (StateM σ) β

end Charting
