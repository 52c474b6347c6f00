import Charting.Grid

namespace Charting

structure ColumnBox (α : Type) where
  set : Nat
  index : Nat
  rect : Rect α
  border : List (Point α)

namespace Column

variable {α : Type} [Scalar α]

def groupPadding : α :=
  0.15

def groupWidth : α :=
  1 - 2 * groupPadding

def boxAlpha : Float32 :=
  0.4

def base (values : Values) (stacked : Bool) (set index : Nat) : Int :=
  if stacked then values.stackedBelow set index else 0

def top (values : Values) (stacked : Bool) (set index : Nat) : Int :=
  if stacked then values.stacked set index else values.value set index

def sides (values : Values) (stacked : Bool) (set index : Nat) : α × α :=
  let group := Scalar.ofNat index + groupPadding
  if stacked then (group, group + groupWidth)
  else
    let width := groupWidth / Scalar.ofNat values.length
    (group + Scalar.ofNat set * width, group + Scalar.ofNat (set + 1) * width)

def box (v : View α) (g : Grid α) (stacked : Bool) (set index : Nat) : ColumnBox α :=
  let (near, far) : α × α := sides v.values stacked set index
  let foot : α := Scalar.ofInt (base v.values stacked set index)
  let head : α := Scalar.ofInt (top v.values stacked set index)
  { set, index
    rect := Rect.spanning (g.point near foot) (g.point far head)
    border := [g.point near foot, g.point near head, g.point far head, g.point far foot] }

def setsAt (values : Values) (index : Nat) : List Nat :=
  values.sets.filter fun set => index < values.count set

def boxes (v : View α) (g : Grid α) (stacked : Bool) : List (ColumnBox α) :=
  (List.range v.values.maxCount).flatMap fun index =>
    (setsAt v.values index).map fun set => box v g stacked set index

def paintBox (v : View α) (b : ColumnBox α) : Picture α :=
  let color := v.color b.set
  let fill := if v.hot.any (·.covers b.set b.index) then color else color.withAlpha boxAlpha
  [.fillRect b.rect fill, .strokePath (Path.polyline b.border) 1 color]

def paint (v : View α) (g : Grid α) (stacked : Bool) : Picture α :=
  g.paint v ++ (boxes v g stacked).flatMap (paintBox v)

def hitTest (v : View α) (g : Grid α) (stacked : Bool) (p : Point α) : Option HotItem :=
  ((boxes v g stacked).reverse.find? (·.rect.contains p)).map (fun b => .value b.set b.index)

end Column

end Charting
