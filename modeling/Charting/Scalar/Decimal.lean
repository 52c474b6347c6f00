import Charting.Numeral
import Charting.Scalar.Double

namespace Charting

namespace Decimal

def roundDiv (num den : Nat) : Nat :=
  let q := num / den
  let twice := 2 * (num % den)
  if twice < den then q
  else if den < twice then q + 1
  else if q % 2 = 0 then q else q + 1

def millionths (d : Double) : Nat :=
  let n := d.mantissa.natAbs * 1000000
  if 0 ≤ d.exponent then n * Nat.pow 2 d.exponent.toNat else roundDiv n (Nat.pow 2 (-d.exponent).toNat)

def dropTrailingZeros (digits : List Char) : List Char :=
  (digits.reverse.dropWhile (· == '0')).reverse

def ofMillionths (negative : Bool) (n : Nat) : List Char :=
  let sign := if negative && n != 0 then ['-'] else []
  let whole := Numeral.ofNat (n / 1000000)
  let places := dropTrailingZeros (Numeral.padded 6 (n % 1000000))
  sign ++ whole ++ (if places.isEmpty then [] else '.' :: places)

end Decimal

-- At most six places, rounded from the exact value, a tie to the even neighbour, and no zeros at the end. What rounds
-- to zero is written without a sign.
def Double.text (x : Float) : String :=
  match Double.ofFloat? x with
  | some d => String.ofList (Decimal.ofMillionths (d.mantissa < 0) (Decimal.millionths d))
  | none => if x == x then (if x < 0.0 then "-inf" else "inf") else "NaN"

end Charting
