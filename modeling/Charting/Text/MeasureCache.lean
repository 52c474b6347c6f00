import Charting.Text

namespace Charting

structure MeasureKey (α : Type) where
  text : String
  style : TextStyle α
deriving DecidableEq

structure MeasureCache (α M : Type) where
  inner : M
  capacity : Nat
  entries : List (MeasureKey α × TextMetrics α) := []

namespace MeasureCache

variable {α M : Type}

def wrap (inner : M) (capacity : Nat) : MeasureCache α M :=
  { inner, capacity := max capacity 1 }

def size (c : MeasureCache α M) : Nat :=
  c.entries.length

def isEmpty (c : MeasureCache α M) : Bool :=
  c.entries.isEmpty

def clear (c : MeasureCache α M) : MeasureCache α M :=
  { c with entries := [] }

variable [Scalar α]

def find? (c : MeasureCache α M) (key : MeasureKey α) : Option (TextMetrics α) :=
  (c.entries.find? (fun entry => entry.1 = key)).map Prod.snd

-- Nothing is forgotten one by one: a full cache is emptied first.
def store (c : MeasureCache α M) (key : MeasureKey α) (metrics : TextMetrics α) : MeasureCache α M :=
  let kept := if c.capacity ≤ c.entries.length then [] else c.entries
  { c with entries := (key, metrics) :: kept }

variable [TextMeasurer α M]

def measure (text : String) (style : TextStyle α) : StateM (MeasureCache α M) (TextMetrics α) := fun c =>
  match c.find? ⟨text, style⟩ with
  | some metrics => (metrics, c)
  | none =>
    let (metrics, inner) := TextMeasurer.measure text style c.inner
    (metrics, { c with inner }.store ⟨text, style⟩ metrics)

def hit (text : String) (style : TextStyle α) (x : α) : StateM (MeasureCache α M) TextHit := fun c =>
  let (found, inner) := TextMeasurer.hit text style x c.inner
  (found, { c with inner })

instance : TextMeasurer α (MeasureCache α M) where
  measure := measure
  hit := hit

end MeasureCache

end Charting
