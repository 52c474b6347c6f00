import Charting.Geometry

namespace Charting

inductive PathElement (α : Type) where
  | move (stop : Point α)
  | line (stop : Point α)
  | curve (control1 control2 stop : Point α)
  | close

abbrev Path (α : Type) := List (PathElement α)

namespace Path

variable {α : Type} [Scalar α]

def polyline : List (Point α) → Path α
  | [] => []
  | p :: rest => .move p :: rest.map .line

def polygon (points : List (Point α)) : Path α :=
  polyline points ++ [.close]

def ofRect (r : Rect α) : Path α :=
  polygon [⟨r.x0, r.y0⟩, ⟨r.x1, r.y0⟩, ⟨r.x1, r.y1⟩, ⟨r.x0, r.y1⟩]

def tolerance : α :=
  0.1

variable [Circular α]

def circlePoint (center : Point α) (radius angle : α) : Point α :=
  center.add ((Point.onCircle angle).scale radius)

def arcSteps (center : Point α) (radius step arm : α) : Nat → α → Path α
  | 0, _ => []
  | n + 1, a =>
    let b := a + step
    let onArc (angle : α) : Point α := (Point.onCircle angle).scale radius
    let tangent (angle : α) : Point α := (onArc (angle + Circular.pi / 2)).scale arm
    .curve (center.add ((onArc a).add (tangent a))) (center.add ((onArc b).sub (tangent b))) (center.add (onArc b))
      :: arcSteps center radius step arm n b

def arc (center : Point α) (radius start sweep : α) : Path α :=
  let perTurn : α := Scalar.max (Circular.sixthRoot (1.1163 * (radius / tolerance))) 3.999999
  let count : α := Scalar.ceil (perTurn * Scalar.abs sweep * (1 / (2 * Circular.pi)))
  let step := sweep / count
  let side : α := if sweep < 0 then -1 else 1
  let arm := (4 / 3) * Circular.tan (Scalar.abs (0.25 * step)) * side
  arcSteps center radius step arm (Scalar.toNat count) start

def sector (center : Point α) (inner outer start sweep : α) : Path α :=
  [.move (circlePoint center inner start), .line (circlePoint center outer start)]
    ++ arc center outer start sweep
    ++ [.line (circlePoint center inner (start + sweep))]
    ++ arc center inner (start + sweep) (-sweep)

def circle (center : Point α) (radius : α) : Path α :=
  .move (circlePoint center radius 0)
    :: arc center radius 0 (2 * Circular.pi)

end Path

end Charting
