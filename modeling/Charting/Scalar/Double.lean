import Charting.Scalar

namespace Charting

structure Double where
  mantissa : Int
  exponent : Int

namespace Double

def hiddenBit : Nat :=
  4503599627370496

def ofFloat? (x : Float) : Option Double :=
  let bits : Nat := x.toBits.toNat
  let biased : Nat := bits / hiddenBit % 2048
  let fraction : Nat := bits % hiddenBit
  let sign : Int := if bits / 9223372036854775808 = 1 then -1 else 1
  if biased = 2047 then none
  else if biased = 0 then some ⟨sign * fraction, -1074⟩
  else some ⟨sign * (hiddenBit + fraction), biased - 1075⟩

def mantissaAt (d : Double) (exponent : Int) : Int :=
  d.mantissa * Int.ofNat (Nat.pow 2 (d.exponent - exponent).toNat)

-- The remainder of two floats with the sign of the first. The result is exact: it is a multiple of the
-- smaller of the two units and below both magnitudes.
def remainder (x m : Float) : Float :=
  match ofFloat? x, ofFloat? m with
  | some a, some b =>
    if b.mantissa = 0 then 0.0 / 0.0
    else
      let exponent := min a.exponent b.exponent
      Float.scaleB (Float.ofInt (Int.tmod (a.mantissaAt exponent) (b.mantissaAt exponent))) exponent
  | some _, none => if m == m then x else m
  | none, _ => 0.0 / 0.0

def modulo (x m : Float) : Float :=
  let r := remainder x m
  if r < 0.0 then r + m.abs else r

end Double

instance : Scalar Float where
  decidableEq := inferInstance
  decidableLT := inferInstance
  decidableLE := inferInstance
  ofInt := Float.ofInt
  floor := Float.floor
  ceil := Float.ceil
  round := Float.round
  toInt x := x.toInt64.toInt
  toNat x := x.toUInt64.toNat
  modulo := Double.modulo

instance : Circular Float where
  pi := 3.141592653589793
  cos := Float.cos
  sin := Float.sin
  tan := Float.tan
  atan2 := Float.atan2
  sixthRoot x := Float.pow x (1.0 / 6.0)

end Charting
