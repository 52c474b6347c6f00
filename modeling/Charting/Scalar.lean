namespace Charting

-- Layout and painting are written once over this class, to run on machine floats and to be read in exact arithmetic. No
-- law is assumed: a comparison may fail both ways, as for a float that is not a number.
class Scalar (α : Type) extends Add α, Sub α, Mul α, Div α, Neg α, LT α, LE α where
  -- Whether two numbers are one and the same, which is finer than being equally large.
  decidableEq : DecidableEq α
  decidableLT : DecidableLT α
  decidableLE : DecidableLE α
  ofInt : Int → α
  floor : α → α
  ceil : α → α
  round : α → α
  -- The whole part as an integer, at a bound where the kind of number has no bound of its own.
  toInt : α → Int
  toNat : α → Nat
  -- The remainder in `[0, m)` of a division by a positive `m`.
  modulo : α → α → α

attribute [reducible, instance] Scalar.decidableEq Scalar.decidableLT Scalar.decidableLE

class Circular (α : Type) where
  pi : α
  cos : α → α
  sin : α → α
  tan : α → α
  atan2 : α → α → α
  sixthRoot : α → α

namespace Scalar

variable {α : Type} [Scalar α]

instance (priority := low) instOfNat (n : Nat) : OfNat α n :=
  ⟨Scalar.ofInt n⟩

instance (priority := low) instOfScientific : OfScientific α where
  ofScientific mantissa negative exponent :=
    if negative then Scalar.ofInt mantissa / Scalar.ofInt (Nat.pow 10 exponent)
    else Scalar.ofInt (mantissa * Nat.pow 10 exponent : Nat)

def ofNat (n : Nat) : α :=
  Scalar.ofInt n

-- Whether two numbers are equally large; what is not a number is not as large as anything.
def equal (a b : α) : Bool :=
  decide (a ≤ b) && decide (b ≤ a)

def max (a b : α) : α :=
  if a < b then b else if a ≤ a then a else b

def min (a b : α) : α :=
  if b < a then b else if a ≤ a then a else b

def abs (a : α) : α :=
  if a < 0 then -a else a

def halfDown (a : α) : α :=
  Scalar.floor (a / 2)

def halfUp (a : α) : α :=
  Scalar.floor ((a + 1) / 2)

end Scalar

namespace Circular

variable {α : Type} [Scalar α] [Circular α]

def toRadians (degrees : α) : α :=
  degrees * (Circular.pi / 180)

def toDegrees (radians : α) : α :=
  radians * 57.29577951308232

end Circular

end Charting
