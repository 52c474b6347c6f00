import Charting.Scalar

namespace Charting

structure Point (α : Type) where
  x : α
  y : α

structure Size (α : Type) where
  width : α
  height : α

-- Two opposite corners; nothing says that the second is right of or below the first.
structure Rect (α : Type) where
  x0 : α
  y0 : α
  x1 : α
  y1 : α

variable {α : Type} [Scalar α]

namespace Point

def origin : Point α :=
  ⟨0, 0⟩

def add (p q : Point α) : Point α :=
  ⟨p.x + q.x, p.y + q.y⟩

def sub (p q : Point α) : Point α :=
  ⟨p.x - q.x, p.y - q.y⟩

def scale (p : Point α) (factor : α) : Point α :=
  ⟨p.x * factor, p.y * factor⟩

def norm2 (p : Point α) : α :=
  p.x * p.x + p.y * p.y

def dist2 (p q : Point α) : α :=
  (p.sub q).norm2

def onCircle [Circular α] (angle : α) : Point α :=
  ⟨Circular.cos angle, Circular.sin angle⟩

end Point

namespace Size

def zero : Size α :=
  ⟨0, 0⟩

def equal (s t : Size α) : Bool :=
  Scalar.equal s.width t.width && Scalar.equal s.height t.height

end Size

namespace Rect

def spanning (p q : Point α) : Rect α :=
  ⟨Scalar.min p.x q.x, Scalar.min p.y q.y, Scalar.max p.x q.x, Scalar.max p.y q.y⟩

def ofSize (size : Size α) : Rect α :=
  spanning Point.origin ⟨0 + size.width, 0 + size.height⟩

def width (r : Rect α) : α :=
  r.x1 - r.x0

def height (r : Rect α) : α :=
  r.y1 - r.y0

def center (r : Rect α) : Point α :=
  ⟨0.5 * (r.x0 + r.x1), 0.5 * (r.y0 + r.y1)⟩

-- Left and top edge belong to a rectangle, right and bottom edge do not.
def contains (r : Rect α) (p : Point α) : Bool :=
  decide (r.x0 ≤ p.x) && decide (p.x < r.x1) && decide (r.y0 ≤ p.y) && decide (p.y < r.y1)

theorem contains_iff {r : Rect α} {p : Point α} :
    r.contains p = true ↔ (r.x0 ≤ p.x ∧ p.x < r.x1) ∧ r.y0 ≤ p.y ∧ p.y < r.y1 := by
  simp [contains, and_assoc]

def union (r s : Rect α) : Rect α :=
  ⟨Scalar.min r.x0 s.x0, Scalar.min r.y0 s.y0, Scalar.max r.x1 s.x1, Scalar.max r.y1 s.y1⟩

def inflate (r : Rect α) (margin : α) : Rect α :=
  ⟨r.x0 - margin, r.y0 - margin, r.x1 + margin, r.y1 + margin⟩

def collapsed (r : Rect α) : Rect α :=
  ⟨r.x0, r.y0, Scalar.max r.x1 r.x0, Scalar.max r.y1 r.y0⟩

def corners (r : Rect α) : List (Point α) :=
  [⟨r.x0, r.y0⟩, ⟨r.x1, r.y0⟩, ⟨r.x0, r.y1⟩, ⟨r.x1, r.y1⟩]

end Rect

end Charting
