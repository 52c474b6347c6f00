import Charting.View

namespace Charting

structure PieSlice (α : Type) where
  set : Nat
  start : α
  sweep : α

namespace PieSlice

variable {α : Type} [Scalar α]

def covers (slice : PieSlice α) (angle : α) : Bool :=
  decide (Scalar.modulo (angle - slice.start) 360 < slice.sweep)

def isVisible (slice : PieSlice α) : Bool :=
  decide (0 < slice.sweep)

def bisector [Circular α] (slice : PieSlice α) : α :=
  Circular.toRadians (slice.start + slice.sweep / 2)

end PieSlice

structure Pie (α : Type) where
  center : Point α
  radius : α
  slices : List (PieSlice α)

namespace Pie

variable {α : Type} [Scalar α]

def magnitudes (values : Values) : List Nat :=
  values.sets.map fun set => (values.value set 0).natAbs

def total (magnitudes : List Nat) : Nat :=
  magnitudes.foldr (· + ·) 0

def slicesFrom (sum : Nat) : Nat → α → List Nat → List (PieSlice α)
  | _, _, [] => []
  | set, start, magnitude :: rest =>
    let sweep := 360 * Scalar.ofNat magnitude / Scalar.ofNat sum
    ⟨set, start, sweep⟩ :: slicesFrom sum (set + 1) (start + sweep) rest

-- A slice for each data set, as large as the share of its first value, whatever its sign. The first one begins at the
-- top, and they follow each other clockwise; there are none if all first values are zero.
def slicesOf (magnitudes : List Nat) : List (PieSlice α) :=
  if total magnitudes = 0 then [] else slicesFrom (total magnitudes) 0 (-90) magnitudes

def ofView (v : View α) : Pie α where
  center := v.layout.body.center
  radius := Scalar.max (Scalar.min v.layout.body.width v.layout.body.height / 2 - 10) 0
  slices := slicesOf (magnitudes v.values)

def visibleSlices (pie : Pie α) : List (PieSlice α) :=
  pie.slices.filter PieSlice.isVisible

def sliceUnder (pie : Pie α) (angle : α) : Option (PieSlice α) :=
  pie.slices.find? fun slice => slice.isVisible && slice.covers angle

def labelText (v : View α) (slice : PieSlice α) : String :=
  v.format .primary (v.values.value slice.set 0).natAbs

variable [Circular α]

def angleOf (pie : Pie α) (p : Point α) : α :=
  let d := p.sub pie.center
  Circular.toDegrees (Circular.atan2 d.y d.x)

def sliceAt (pie : Pie α) (p : Point α) : Option (PieSlice α) :=
  if pie.radius * pie.radius < p.dist2 pie.center then none else pie.sliceUnder (pie.angleOf p)

def paintSlice (v : View α) (pie : Pie α) (slice : PieSlice α) : Picture α :=
  let start := Circular.toRadians slice.start
  let sweep := Circular.toRadians slice.sweep
  let r := pie.radius
  .fillPath (Path.sector pie.center 0 r start sweep) .nonZero (v.color slice.set)
    :: (if v.isHotSet slice.set then
      [.fillPath (Path.sector pie.center (r + 1.5) (r + 10) start sweep) .nonZero (v.hint slice.set)] else [])

def separator (v : View α) (pie : Pie α) (slice : PieSlice α) : DrawCall α :=
  let direction := Point.onCircle (Circular.toRadians slice.start)
  .line pie.center (pie.center.add (direction.scale (pie.radius + 12))) 1 v.config.background

def separators (v : View α) (pie : Pie α) : Picture α :=
  if 1 < pie.visibleSlices.length then pie.slices.map (separator v pie) else []

def label (v : View α) (pie : Pie α) (slice : PieSlice α) (width : α) : Picture α :=
  let position := pie.center.add ((Point.onCircle slice.bisector).scale (0.75 * pie.radius))
  let half : Point α := ⟨width / 2, v.layout.font.lineHeight / 2⟩
  let bounds := Rect.spanning (position.sub half) (position.add half)
  if bounds.corners.all (fun corner => slice.covers (pie.angleOf corner)) then
    [.text { v.run (labelText v slice) position v.config.background with anchor := .middle, baseline := .middle }]
  else []

def paint (v : View α) (labelWidths : List α) : Picture α :=
  let pie := ofView v
  pie.visibleSlices.flatMap (paintSlice v pie)
    ++ separators v pie
    ++ (pie.visibleSlices.zip labelWidths).flatMap (fun (slice, width) => label v pie slice width)

def measureLabels {M : Type} [TextMeasurer α M] (v : View α) : StateM M (List α) :=
  (ofView v).visibleSlices.mapM (fun slice => v.textWidth (labelText v slice))

def hitTest (v : View α) (p : Point α) : Option HotItem :=
  ((ofView v).sliceAt p).map (fun slice => .value slice.set 0)

end Pie

end Charting
