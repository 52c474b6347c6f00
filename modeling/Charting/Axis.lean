import Charting.Refusal
import Charting.Numeral

namespace Charting

structure Axis where
  exponent : Int := 0
  offset : Int32 := 0
  name : Option String := none
deriving DecidableEq

inductive AxisSelector where
  | both
  | primary
  | secondary
deriving DecidableEq

namespace AxisSelector

def number : AxisSelector → Int
  | .both => 0
  | .primary => 1
  | .secondary => 2

def ofNumber (n : Int) : Except Refusal AxisSelector :=
  if n = 0 then .ok .both
  else if n = 1 then .ok .primary
  else if n = 2 then .ok .secondary
  else .error (.noSuchAxis n)

end AxisSelector

namespace Axis

def lowestExponent : Int :=
  -9

def highestExponent : Int :=
  9

def checkExponent (exponent : Int) : Except Refusal Int :=
  if lowestExponent ≤ exponent ∧ exponent ≤ highestExponent then .ok exponent
  else .error (.exponentOutOfRange exponent)

def saturate (n : Int) : Int :=
  max (-9223372036854775808) (min 9223372036854775807 n)

def displayed (axis : Axis) (raw : Int) : Int :=
  saturate (raw + axis.offset.toInt)

-- The text of a shown value: zeros behind it for a positive exponent, and for a negative one as many places
-- as the exponent says.
def digits (axis : Axis) (separator : Char) (value : Int) : List Char :=
  if 0 ≤ axis.exponent then
    Numeral.ofInt value ++ List.replicate axis.exponent.toNat '0'
  else
    let places := (-axis.exponent).toNat
    let sign := if value < 0 then ['-'] else []
    sign ++ Numeral.ofNat (value.natAbs / Nat.pow 10 places)
      ++ separator :: Numeral.padded places (value.natAbs % Nat.pow 10 places)

def format (axis : Axis) (separator : Char) (raw : Int) : String :=
  String.ofList (axis.digits separator (axis.displayed raw))

def shownName (axis : Axis) : Option String :=
  axis.name.filter (fun name => !name.isEmpty)

end Axis

end Charting
