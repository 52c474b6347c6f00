namespace Charting

inductive Direction where
  | down
  | up
deriving DecidableEq

namespace Direction

def opposite : Direction → Direction
  | .down => .up
  | .up => .down

end Direction

namespace Nice

def lowest : Int :=
  -2147483648

def highest : Int :=
  2147483647

def ladder : List Int :=
  [1, 2, 5]
    ++ (List.range 8).flatMap (fun k => [10, 12, 15, 20, 30, 50, 60, 80].map (· * Int.ofNat (Nat.pow 10 k)))
    ++ [1000000000, 1200000000, 1500000000, 2000000000]

def top : Int :=
  2000000000

def onLadder (direction : Direction) (value : Int) : Int :=
  match direction with
  | .up => (ladder.find? (value ≤ ·)).getD top
  | .down => (ladder.reverse.find? (· ≤ value)).getD 0

def roundPositive (direction : Direction) (value : Int) : Int :=
  if top < value then
    match direction with
    | .up => highest
    | .down => top
  else onLadder direction value

-- The nearest round number in a direction, for a value of 32 bits. Round numbers are zero, the ladder, the
-- negatives of the ladder, and in either direction the bound of 32 bits.
def round (direction : Direction) (value : Int) : Int :=
  if value = 0 then 0
  else if 0 < value then roundPositive direction value
  else if value < -top then
    match direction with
    | .up => -top
    | .down => lowest
  else -onLadder direction.opposite (-value)

def clamp (value : Int) : Int :=
  max lowest (min highest value)

def roundWide (direction : Direction) (value : Int) : Int :=
  round direction (clamp value)

end Nice

end Charting
