import Charting.Scalar

namespace Charting

structure Scale (α : Type) where
  domainStart : α
  domainEnd : α
  rangeStart : α
  rangeEnd : α

namespace Scale

variable {α : Type} [Scalar α]

def interpolate (baseStart baseEnd start stop x : α) : α :=
  let length := baseEnd - baseStart
  if Scalar.equal length 0 then start
  else
    let t := (x - baseStart) / length
    start + t * (stop - start)

def map (s : Scale α) (value : α) : α :=
  interpolate s.domainStart s.domainEnd s.rangeStart s.rangeEnd value

def invert (s : Scale α) (pixel : α) : α :=
  interpolate s.rangeStart s.rangeEnd s.domainStart s.domainEnd pixel

def extentOf (s : Scale α) (delta : α) : α :=
  Scalar.abs (s.map delta - s.map 0)

end Scale

end Charting
