import Charting.Grid
import Charting.Plot.Vertex

namespace Charting

namespace Scatter

variable {α : Type} [Scalar α]

def dotRadius : α :=
  2

def markRadius : α :=
  4

def pairPoint (v : View α) (g : Grid α) (set i : Nat) : Point α :=
  g.point (Scalar.ofInt (v.values.value set i)) (Scalar.ofInt (v.values.value set (i + 1)))

def marks (v : View α) (g : Grid α) : Picture α :=
  match v.hot with
  | none => []
  | some hot =>
    ((v.values.pairs hot.set).filter (hot.covers hot.set)).map fun i =>
      .fillCircle (pairPoint v g hot.set i) markRadius (v.hint hot.set)

def dots (v : View α) (g : Grid α) : Picture α :=
  v.values.sets.flatMap fun set =>
    (v.values.pairs set).map fun i => .fillCircle (pairPoint v g set i) dotRadius (v.color set)

def paint (v : View α) (g : Grid α) : Picture α :=
  g.paint v ++ marks v g ++ dots v g

def verticesWithin (v : View α) (g : Grid α) (lo hi : α) : List (Vertex α) :=
  v.values.sets.flatMap fun set =>
    ((v.values.pairs set).filter fun i =>
      let x : α := Scalar.ofInt (v.values.value set i)
      decide (lo ≤ x) && decide (x ≤ hi)).map fun i => ⟨.value set i, pairPoint v g set i⟩

def hitTest (v : View α) (g : Grid α) (p : Point α) : Option HotItem :=
  let slop := v.config.slop
  let a := g.unmapPrimary ⟨p.x - slop.width, p.y⟩
  let b := g.unmapPrimary ⟨p.x + slop.width, p.y⟩
  Vertex.nearest slop p (verticesWithin v g (Scalar.min a b) (Scalar.max a b))

def tooltipText (v : View α) (set i : Nat) : String :=
  v.format .primary (v.values.value set i) ++ " / " ++ v.format .secondary (v.values.value set (i + 1))

end Scatter

end Charting
