import Charting.Geometry
import Charting.Kind

namespace Charting

structure Vertex (α : Type) where
  item : HotItem
  position : Point α

namespace Vertex

variable {α : Type} [Scalar α]

structure Nearest (α : Type) where
  item : Option HotItem
  dist2 : α

def Nearest.improve (slop : Size α) (p : Point α) (best : Nearest α) (vertex : Vertex α) : Nearest α :=
  if slop.width < Scalar.abs (vertex.position.x - p.x) then best
  else
    let dist2 := vertex.position.dist2 p
    if dist2 < best.dist2 then ⟨some vertex.item, dist2⟩ else best

-- The vertex nearest to a point, of equally near ones the first. It has to be no further to the left or right than
-- the width of `slop`, and closer than the square root of its area.
def nearest (slop : Size α) (p : Point α) (vertices : List (Vertex α)) : Option HotItem :=
  (vertices.foldl (Nearest.improve slop p) ⟨none, slop.width * slop.height⟩).item

end Vertex

end Charting
