import Charting.Scalar

namespace Charting

namespace Exact

def round (q : Rat) : Int :=
  if q < 0 then -((-q + 1 / 2).floor) else (q + 1 / 2).floor

def truncate (q : Rat) : Int :=
  if q < 0 then -((-q).floor) else q.floor

end Exact

instance : Scalar Rat where
  decidableEq := inferInstance
  decidableLT := inferInstance
  decidableLE := inferInstance
  ofInt n := n
  floor q := q.floor
  ceil q := q.ceil
  round q := Exact.round q
  toInt := Exact.truncate
  toNat q := (Exact.truncate q).toNat
  modulo a m := a - m * (a / m).floor

end Charting
