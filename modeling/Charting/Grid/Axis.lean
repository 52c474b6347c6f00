import Charting.Axis
import Charting.Scale

namespace Charting

inductive AxisKind where
  | continuous
  | discrete
  | category
deriving DecidableEq

inductive Orientation where
  | horizontal
  | vertical
deriving DecidableEq

structure AxisRange where
  kind : AxisKind
  min : Int
  max : Int
deriving DecidableEq

namespace AxisRange

def last (r : AxisRange) : Int :=
  match r.kind with
  | .category => Max.max (r.max - 1) r.min
  | _ => r.max

def span {α : Type} [Scalar α] (r : AxisRange) : α :=
  Scalar.ofInt (r.max - r.min)

end AxisRange

structure GridAxis (α : Type) where
  selector : AxisSelector
  kind : AxisKind
  orientation : Orientation
  min : Int
  max : Int
  base : Int
  delta : Int
  scale : Scale α

namespace GridAxis

variable {α : Type}

def firstTick (a : GridAxis α) : Int :=
  if a.base < a.min then a.base + a.delta else a.base

def lastTick (a : GridAxis α) : Int :=
  match a.kind with
  | .category => a.max - 1
  | _ => a.max

-- The values with a label, one step after the other; none if the first is past the last, whatever the step is.
def ticks (a : GridAxis α) : List Int :=
  if a.lastTick < a.firstTick then []
  else
    (List.range ((a.lastTick - a.firstTick) / a.delta + 1).toNat).map (fun k : Nat => a.firstTick + k * a.delta)

variable [Scalar α]

def map (a : GridAxis α) (value : α) : α :=
  a.scale.map value

def unmap (a : GridAxis α) (pixel : α) : α :=
  a.scale.invert pixel

def labelPosition (a : GridAxis α) (value : Int) : α :=
  match a.kind with
  | .category => a.map (Scalar.ofInt value + 0.5)
  | _ => a.map (Scalar.ofInt value)

def span (a : GridAxis α) : α :=
  Scalar.ofInt (a.max - a.min)

end GridAxis

end Charting
