import Charting.Chart.Paint

namespace Charting

inductive SurfaceCall (α : Type) where
  | create (size : Size α) (made : Bool)
  | begin
  | clear (rect : Rect α) (color : Color)
  | draw (call : DrawCall α)
  | present (lost : Bool)

-- A service with a record of the calls. The calls go on to the service, whatever it is, and are answered by it.
structure Logged (α F : Type) where
  inner : F
  log : List (SurfaceCall α) := []

namespace Logged

variable {α S F : Type}

def lost : Drawn → Bool
  | .error .surfaceLost => true
  | _ => false

def note (call : SurfaceCall α) (inner : F) (before : Logged α F) : Logged α F :=
  { inner, log := before.log ++ [call] }

instance [SurfaceService α S F] : SurfaceService α S (Logged α F) where
  create size service :=
    let (made, inner) := SurfaceService.create (S := S) size service.inner
    (made, service.note (.create size made.isOk) inner)
  begin := fun (surface, service) =>
    let (surface, inner) := SurfaceService.begin (α := α) (surface, service.inner)
    (surface, service.note .begin inner)
  clear rect color := fun (surface, service) =>
    let (drawn, (surface, inner)) := SurfaceService.clear rect color (surface, service.inner)
    (drawn, (surface, service.note (.clear rect color) inner))
  draw call := fun (surface, service) =>
    let (drawn, (surface, inner)) := SurfaceService.draw call (surface, service.inner)
    (drawn, (surface, service.note (.draw call) inner))
  present := fun (surface, service) =>
    let (presented, (surface, inner)) := SurfaceService.present (α := α) (surface, service.inner)
    (presented, (surface, service.note (.present (lost presented)) inner))

end Logged

structure Pass (α : Type) where
  calls : List (SurfaceCall α)
  lost : Bool

namespace Pass

variable {α : Type}

structure Reading (α : Type) where
  passes : List (Pass α) := []
  calls : List (SurfaceCall α) := []

def Reading.take (r : Reading α) : SurfaceCall α → Reading α
  | .begin => { r with calls := [] }
  | .present lost => { r with passes := r.passes ++ [⟨r.calls, lost⟩] }
  | call => { r with calls := r.calls ++ [call] }

def ofLog (log : List (SurfaceCall α)) : List (Pass α) :=
  (log.foldl Reading.take {}).passes

-- What the last pass drew that did not lose its surface.
def lastShown (passes : List (Pass α)) : Option (List (SurfaceCall α)) :=
  ((passes.filter (!·.lost)).getLast?).map Pass.calls

end Pass

def Host.logged (H : Host) : Host :=
  { H with Service := Logged H.Length H.Service, surfaces := inferInstance }

end Charting
