import Charting.Grid
import Charting.Plot.Vertex

namespace Charting

namespace Line

variable {α : Type} [Scalar α]

def lineWidth : α :=
  2

def markWidth : α :=
  5

def dotRadius : α :=
  2

def markRadius : α :=
  4

def areaAlpha : Float32 :=
  0.4

def level (values : Values) (stacked : Bool) (set i : Nat) : Int :=
  if stacked then values.stacked set i else values.value set i

def floor (values : Values) (stacked : Bool) (set i : Nat) : Int :=
  if stacked then values.stackedBelow set i else 0

def vertexPoint (v : View α) (g : Grid α) (stacked : Bool) (set i : Nat) : Point α :=
  g.point (Scalar.ofNat i) (Scalar.ofInt (level v.values stacked set i))

def floorPoint (v : View α) (g : Grid α) (stacked : Bool) (set i : Nat) : Point α :=
  g.point (Scalar.ofNat i) (Scalar.ofInt (floor v.values stacked set i))

def places (v : View α) (set : Nat) : List Nat :=
  List.range (v.values.count set)

def polyline (v : View α) (g : Grid α) (stacked : Bool) (set : Nat) : Path α :=
  Path.polyline ((places v set).map (vertexPoint v g stacked set))

def areaPath (v : View α) (g : Grid α) (stacked : Bool) (set : Nat) : Path α :=
  Path.polygon ((places v set).map (vertexPoint v g stacked set)
    ++ (places v set).reverse.map (floorPoint v g stacked set))

def filledSets (v : View α) : List Nat :=
  v.values.sets.filter fun set => 0 < v.values.count set

def linedSets (v : View α) : List Nat :=
  (filledSets v).filter fun set => 1 < v.values.count set

def areas (v : View α) (g : Grid α) (stacked : Bool) : Picture α :=
  (filledSets v).map fun set =>
    .fillPath (areaPath v g stacked set) .nonZero ((v.color set).withAlpha areaAlpha)

def lineMark (v : View α) (g : Grid α) (stacked : Bool) : Picture α :=
  match v.hot with
  | some hot =>
    if 1 < v.values.count hot.set then
      [.strokePath (polyline v g stacked hot.set) markWidth (v.hint hot.set)]
    else []
  | none => []

def lines (v : View α) (g : Grid α) (stacked : Bool) : Picture α :=
  (linedSets v).map fun set => .strokePath (polyline v g stacked set) lineWidth (v.color set)

def dotMark (v : View α) (g : Grid α) (stacked : Bool) : Picture α :=
  match v.hot with
  | some ⟨set, some i⟩ => [.fillCircle (vertexPoint v g stacked set i) markRadius (v.hint set)]
  | _ => []

def dots (v : View α) (g : Grid α) (stacked : Bool) : Picture α :=
  (filledSets v).flatMap fun set =>
    (places v set).map fun i => .fillCircle (vertexPoint v g stacked set i) dotRadius (v.color set)

def paint (v : View α) (g : Grid α) (stacked filled : Bool) : Picture α :=
  g.paint v
    ++ (if filled then areas v g stacked else [])
    ++ lineMark v g stacked
    ++ lines v g stacked
    ++ dotMark v g stacked
    ++ dots v g stacked

def placeFrom (x : α) : Nat :=
  Scalar.toNat (Scalar.max (Scalar.ceil x) 0)

def verticesWithin (v : View α) (g : Grid α) (stacked : Bool) (lo hi : Nat) : List (Vertex α) :=
  v.values.sets.flatMap fun set =>
    (List.range' lo (min hi (v.values.count set) - lo)).map fun i =>
      ⟨.value set i, vertexPoint v g stacked set i⟩

-- The vertex nearest to a point. Only the places are looked at that can be near enough from left to right.
def hitTest (v : View α) (g : Grid α) (stacked : Bool) (p : Point α) : Option HotItem :=
  let slop := v.config.slop
  let a := g.unmapPrimary ⟨p.x - slop.width, p.y⟩
  let b := g.unmapPrimary ⟨p.x + slop.width, p.y⟩
  let lo := placeFrom (Scalar.min a b)
  let hi := placeFrom (Scalar.floor (Scalar.max a b) + 1)
  Vertex.nearest slop p (verticesWithin v g stacked lo hi)

end Line

end Charting
