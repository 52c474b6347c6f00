import Charting.Geometry

namespace Charting

class Bubble (α T : Type) where
  setText : String → T → T
  activate : Bool → T → T
  moveTo : Point α → T → T
  size : T → Size α

structure TrackingTooltip (α : Type) where
  text : String := ""
  active : Bool := false
  position : Point α
  bubble : Size α

variable {α : Type}

namespace TrackingTooltip

def hidden [Scalar α] : TrackingTooltip α :=
  { position := Point.origin, bubble := Size.zero }

instance : Bubble α (TrackingTooltip α) where
  setText text t := { t with text }
  activate active t := { t with active }
  moveTo position t := { t with position }
  size t := t.bubble

end TrackingTooltip

inductive TooltipSource where
  | tracking
  | external
deriving DecidableEq

inductive TooltipSlot (α T : Type) where
  | empty
  | tracking (tooltip : TrackingTooltip α)
  | external (tooltip : T)

namespace TooltipSlot

variable {T : Type}

def source : TooltipSlot α T → Option TooltipSource
  | .empty => none
  | .tracking _ => some .tracking
  | .external _ => some .external

def tracking? : TooltipSlot α T → Option (TrackingTooltip α)
  | .tracking t => some t
  | _ => none

def external? : TooltipSlot α T → Option T
  | .external t => some t
  | _ => none

def setBubble (size : Size α) : TooltipSlot α T → TooltipSlot α T
  | .tracking t => .tracking { t with bubble := size }
  | slot => slot

variable [Bubble α T]

def setText (text : String) : TooltipSlot α T → TooltipSlot α T
  | .empty => .empty
  | .tracking t => .tracking (Bubble.setText α text t)
  | .external t => .external (Bubble.setText α text t)

def activate (active : Bool) : TooltipSlot α T → TooltipSlot α T
  | .empty => .empty
  | .tracking t => .tracking (Bubble.activate α active t)
  | .external t => .external (Bubble.activate α active t)

variable [Scalar α]

def gap : α :=
  5

def above (pointer : Point α) (size : Size α) : Point α :=
  ⟨pointer.x - size.width / 2, pointer.y - size.height - gap⟩

def follow (pointer : Point α) : TooltipSlot α T → TooltipSlot α T
  | .empty => .empty
  | .tracking t => .tracking (Bubble.moveTo (above pointer (Bubble.size t)) t)
  | .external t => .external (Bubble.moveTo (above pointer (Bubble.size t)) t)

end TooltipSlot

end Charting
