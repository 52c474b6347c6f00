import Charting.Proofs.HotItem
import Charting.Proofs.SurfaceLog

namespace Charting

namespace Pass

variable {α : Type}

theorem take_draws (r : Reading α) (picture : Picture α) :
    (picture.map SurfaceCall.draw).foldl Reading.take r = { r with calls := r.calls ++ picture.map .draw } := by
  induction picture generalizing r with
  | nil => simp
  | cons call rest ih =>
    change (rest.map SurfaceCall.draw).foldl Reading.take { r with calls := r.calls ++ [.draw call] } = _
    rw [ih]
    simp

theorem ofLog_pass (log : List (SurfaceCall α)) (rect : Rect α) (color : Color) (picture : Picture α) (lost : Bool) :
    ofLog (log ++ .begin :: .clear rect color :: picture.map .draw ++ [.present lost]) =
      ofLog log ++ [⟨.clear rect color :: picture.map .draw, lost⟩] := by
  unfold ofLog
  rw [List.foldl_append, List.foldl_append]
  change (Reading.take ((picture.map SurfaceCall.draw).foldl Reading.take _) (.present lost)).passes = _
  rw [take_draws]
  rfl

theorem ofLog_create (log : List (SurfaceCall α)) (size : Size α) (made : Bool) :
    ofLog (log ++ [.create size made]) = ofLog log := by
  unfold ofLog
  rw [List.foldl_append]
  rfl

theorem lastShown_presented (passes : List (Pass α)) (calls : List (SurfaceCall α)) :
    lastShown (passes ++ [⟨calls, false⟩]) = some calls := by
  simp [lastShown]

end Pass

theorem Picture.drawOnSurface_log {α S F : Type} [SurfaceService α S F] (picture : Picture α)
    (state : S × Logged α F) :
    (picture.drawOnSurface state).2.log = state.2.log ++ picture.map .draw := by
  induction picture generalizing state with
  | nil => simp [drawOnSurface]
  | cons call rest ih =>
    rw [drawOnSurface, ih]
    change (state.2.log ++ [.draw call]) ++ rest.map .draw = _
    simp

theorem Logged.pass_log {α S F : Type} [SurfaceService α S F] (surface : S) (service : Logged α F) (rect : Rect α)
    (color : Color) (picture : Picture α) :
    let begun := SurfaceService.begin (α := α) (surface, service)
    let drawn := picture.drawOnSurface (SurfaceService.clear rect color begun).2
    (SurfaceService.present (α := α) drawn).2.2.log =
      service.log ++ .begin :: .clear rect color :: picture.map .draw ++
        [.present (lost (SurfaceService.present (α := α) drawn).1)] := by
  intro begun drawn
  change drawn.2.log ++ [.present _] = _
  rw [Picture.drawOnSurface_log]
  change (service.log ++ [.begin] ++ [.clear rect color] ++ picture.map .draw) ++ [.present _] = _
  simp only [List.append_assoc, List.cons_append, List.nil_append]
  rfl

theorem Logged.lost_iff {presented : Drawn} : lost presented = true ↔ presented = .error .surfaceLost := by
  unfold lost
  split <;> simp_all

namespace Chart

variable {H : Host}

def upcoming (c : Chart H) : List (SurfaceCall H.Length) :=
  .clear c.viewRect c.config.background :: c.picture.1.map .draw

theorem upcoming_determined {answers : Answers H} {c d : Chart H} (left : c.Hears answers) (right : d.Hears answers)
    (model : c.model = d.model) (hot : c.hot = d.hot) : c.upcoming = d.upcoming := by
  have size : c.size = d.size := congrArg Model.size model
  have config : c.config = d.config := congrArg Model.config model
  rw [upcoming, upcoming, picture_determined left right model hot, viewRect, viewRect, size, config]

def log (c : Chart H.logged) : List (SurfaceCall H.logged.Length) :=
  Logged.log c.service

def passes (c : Chart H.logged) : List (Pass H.logged.Length) :=
  Pass.ofLog c.log

def passCalls (lost : Bool) (c : Chart H) : List (SurfaceCall H.Length) :=
  .begin :: c.upcoming ++ [.present lost]

theorem passes_of_log {c d : Chart H.logged} {lost : Bool} (log : d.log = c.log ++ c.passCalls lost) :
    d.passes = c.passes ++ [⟨c.upcoming, lost⟩] := by
  rw [passes, log, passCalls, ← List.append_assoc]
  exact Pass.ofLog_pass _ _ _ _ _

-- Painting draws the view, whatever fails. If the surface is lost at the end, the view stays dirty; otherwise the
-- surface is kept for a time.
theorem paintOn_log (now : Nat) (surface : H.logged.Surface) (c : Chart H.logged) :
    ∃ lost, (c.paintOn now surface).log = c.log ++ c.passCalls lost ∧
      (lost = true → (c.paintOn now surface).dirty ≠ none) ∧
      (c.paintOn now surface).deadline = if lost then none else some (now + c.config.idleTimeout) := by
  obtain ⟨measurer, supplier, frame⟩ := c.picture_consulted.frame
  have log := Logged.pass_log (S := H.Surface) surface c.service c.viewRect c.config.background c.picture.1
  have calls := log.trans (List.append_assoc _ _ _)
  unfold paintOn
  dsimp only
  rw [frame]
  split
  · rename_i lost
    exact ⟨_, calls, fun _ => nofun, (if_pos (Logged.lost_iff.mpr lost)).symm⟩
  · rename_i other
    have kept := mt Logged.lost_iff.mp other
    exact ⟨_, calls, fun lost => absurd lost kept, (if_neg kept).symm⟩

theorem paintOn_passes (now : Nat) (surface : H.logged.Surface) (c : Chart H.logged) :
    ∃ lost, (c.paintOn now surface).passes = c.passes ++ [⟨c.upcoming, lost⟩] ∧
      (lost = true → (c.paintOn now surface).dirty ≠ none) := by
  obtain ⟨lost, log, dirty, _⟩ := paintOn_log now surface c
  exact ⟨lost, passes_of_log log, dirty⟩

-- How a painting goes: it is forbidden, or there is a surface, or one is made, or none can be made.
inductive Painted (c : Chart H) (now : Nat) : Chart H → Prop where
  | forbidden (redraw : c.redraw = false) : Painted c now { c with dirty := none }
  | again (redraw : c.redraw = true) {surface : H.Surface} (there : c.surface = some surface) :
      Painted c now (c.paintOn now surface)
  | anew (redraw : c.redraw = true) (absent : c.surface = none) (surface : H.Surface) (service : H.Service)
      (made : SurfaceService.create c.size c.service = (.ok surface, service)) :
      Painted c now ({ c with service }.paintOn now surface)
  | failed (redraw : c.redraw = true) (absent : c.surface = none) {error : RenderError} {service : H.Service}
      (made : SurfaceService.create (S := H.Surface) c.size c.service = (.error error, service)) :
      Painted c now { c with service }

theorem paint_painted (now : Nat) (c : Chart H) : c.Painted now (c.paint now) := by
  unfold paint
  split
  · rename_i redraw
    split
    · rename_i there
      exact .again redraw there
    · rename_i absent
      split
      · rename_i made
        exact .anew redraw absent _ _ made
      · rename_i made
        exact .failed redraw absent made
  · rename_i forbidden
    exact .forbidden (Bool.eq_false_iff.mpr forbidden)

theorem create_log {c : Chart H.logged} {made : Except RenderError H.logged.Surface} {service : H.logged.Service}
    (created : SurfaceService.create c.size c.service = (made, service)) :
    { c with service }.log = c.log ++ [.create c.size made.isOk] := by
  obtain ⟨rfl, rfl⟩ := Prod.mk.inj created
  rfl

theorem create_passes {c : Chart H.logged} {made : Except RenderError H.logged.Surface} {service : H.logged.Service}
    (created : SurfaceService.create c.size c.service = (made, service)) : { c with service }.passes = c.passes :=
  (congrArg Pass.ofLog (create_log created)).trans (Pass.ofLog_create _ _ _)

theorem paint_passes (now : Nat) {c : Chart H.logged} (redraw : c.redraw = true) :
    ((c.paint now).passes = c.passes ∧ (c.paint now).dirty = c.dirty) ∨
      ∃ lost, (c.paint now).passes = c.passes ++ [⟨c.upcoming, lost⟩] ∧ (lost = true → (c.paint now).dirty ≠ none) := by
  have painted := paint_painted now c
  generalize c.paint now = d at painted ⊢
  cases painted with
  | forbidden forbidden => exact absurd (redraw.symm.trans forbidden) nofun
  | again _ there => exact .inr (paintOn_passes now _ c)
  | anew _ _ surface service made =>
    have pass := paintOn_passes now surface { c with service }
    rw [create_passes made] at pass
    exact .inr pass
  | failed _ _ made => exact .inl ⟨create_passes made, rfl⟩

-- While the view may be painted and nothing is dirty, the last pass shown is what would be drawn now.
def Fresh (c : Chart H.logged) : Prop :=
  c.redraw = true → c.dirty = none → ∀ calls, Pass.lastShown c.passes = some calls → calls = c.upcoming

variable {answers : Answers H.logged} {c d : Chart H.logged} {op : Operation H.logged}

theorem fresh_of_dirty (dirty : c.redraw = true → c.dirty ≠ none) : c.Fresh :=
  fun redraw clean => absurd clean (dirty redraw)

theorem invalidateRect_fresh (rect : Rect H.logged.Length) (c : Chart H.logged) : (c.invalidateRect rect).Fresh := by
  refine fresh_of_dirty fun redraw => invalidateRect_dirty rect c ?_
  rw [invalidateRect_eq] at redraw
  exact redraw

theorem changed_fresh (c : Chart H.logged) : c.changed.Fresh := by
  obtain ⟨turned, dirty⟩ := c.changed_turned
  refine fresh_of_dirty fun redraw => dirty ?_
  obtain ⟨_, _, _, _, _, frame⟩ := turned.frame
  rw [frame] at redraw
  exact redraw

-- A hot item that is another one makes the view dirty; one that stays leaves the picture as it is.
theorem TurnedTo.fresh {hot : Option HotItem} (turned : c.TurnedTo hot d) (heard : c.Hears answers)
    (fresh : c.Fresh) : d.Fresh := by
  have hears := turned.hears answers heard
  have clean := turned.clean
  obtain ⟨_, _, _, _, _, rfl⟩ := turned.frame
  intro redraw clear calls shown
  obtain ⟨before, same⟩ := clean redraw clear
  exact (fresh redraw before calls shown).trans (upcoming_determined heard hears rfl same.symm)

theorem pointer_fresh (pointer : Option (Point H.logged.Length)) (fresh : c.Fresh) : { c with pointer }.Fresh :=
  fresh

theorem onTimer_fresh (now : Nat) (fresh : c.Fresh) : (c.onTimer now).2.Fresh := by
  unfold onTimer
  split
  · split
    · exact fresh
    · exact fresh
  · exact fresh

theorem paint_fresh (now : Nat) (heard : c.Hears answers) (fresh : c.Fresh) : (c.paint now).Fresh := by
  have hears := (paint_touched now c).hears answers heard
  obtain ⟨_, _, _, _, _, _, frame⟩ := (paint_touched now c).frame
  have same : c.upcoming = (c.paint now).upcoming :=
    upcoming_determined heard hears (by rw [frame]; rfl) (by rw [frame])
  have redrawn : (c.paint now).redraw = c.redraw := by rw [frame]
  intro redraw clean calls shown
  rw [redrawn] at redraw
  rcases paint_passes now redraw with ⟨passes, dirty⟩ | ⟨lost, passes, dirty⟩
  · rw [passes] at shown
    rw [dirty] at clean
    exact (fresh redraw clean calls shown).trans same
  · cases lost with
    | true => exact absurd clean (dirty rfl)
    | false =>
      rw [passes, Pass.lastShown_presented] at shown
      exact (Option.some.inj shown).symm.trans same

theorem Transition.fresh (transition : c.Transition op d) (heard : c.Hears answers) (fresh : c.Fresh) : d.Fresh := by
  have moved : ∀ pointer, { c with pointer }.Hears answers := fun _ => ⟨heard.text, heard.values⟩
  cases transition with
  | consult _ consulted => exact consulted.told.turned.fresh heard fresh
  | revise | setSupplier | setMeasurer => exact changed_fresh _
  | recolor | setRedraw | invalidateRect | displayChanged => exact invalidateRect_fresh _ _
  | setTooltip _ tooltip => exact (setTooltip_told tooltip c).turned.fresh heard fresh
  | pointerMove p => exact (pointerMove_turned p c).fresh (moved _) (pointer_fresh _ fresh)
  | pointerLeave => exact c.pointerLeave_turned.fresh (moved _) (pointer_fresh _ fresh)
  | onTimer now => exact onTimer_fresh now fresh
  | paint now => exact paint_fresh now heard fresh

-- No repaint is lost, whatever the surfaces and the service that makes them do: in an enabled view that is not dirty,
-- the last pass shown is what painting would draw now, which is what the next painting does draw if it has a surface.
theorem run_repaint (service : H.Service) (style : ChartStyle) (config : Config H.logged.Length)
    (ops : List (Operation H.logged)) (stateless : ∀ op ∈ ops, op.LendsStateless) :
    let c : Chart H.logged := (withConfig (Logged.mk service [] : Logged H.Length H.Service) style config).run ops
    c.redraw = true → c.dirty = none → ∀ calls, Pass.lastShown c.passes = some calls →
      calls = c.upcoming ∧
        ∀ now, (c.paint now).passes = c.passes ∨ ∃ lost, (c.paint now).passes = c.passes ++ [⟨calls, lost⟩] := by
  intro c redraw clean calls shown
  have start : (withConfig (H := H.logged) (Logged.mk service []) style config).Current ∧
      (withConfig (H := H.logged) (Logged.mk service []) style config).Fresh :=
    ⟨withConfig_current _ style config, fun _ _ _ shown => nomatch shown⟩
  have fresh : c.Current ∧ c.Fresh := by
    refine run_induction (motive := fun c => c.Current ∧ c.Fresh) start ?_
    intro op member before after transition ⟨current, fresh⟩
    obtain ⟨answers, heard⟩ := current.heard
    exact ⟨transition.current (stateless op member) current, transition.fresh heard fresh⟩
  have same := fresh.2 redraw clean calls shown
  refine ⟨same, ?_⟩
  intro now
  rcases paint_passes now redraw with ⟨passes, _⟩ | ⟨lost, passes, _⟩
  · exact .inl passes
  · exact .inr ⟨lost, same ▸ passes⟩

end Chart

namespace Demo

def paintedOperations : List (Operation host.logged) :=
  [.insertDataSet 0 (.stored #[12, 19]), .paint 0]

def recorded (ops : List (Operation host.logged)) : Chart host.logged :=
  (Chart.withConfig (Logged.mk (SvgScreen.mk none) [] : Logged host.Length host.Service) {} .standard).run ops

theorem painted_stateless : ∀ op ∈ paintedOperations, op.LendsStateless := by
  simp only [paintedOperations, List.forall_mem_cons]
  exact ⟨trivial, trivial, List.forall_mem_nil _⟩

theorem painted_shown : ∃ calls, Pass.lastShown (recorded paintedOperations).passes = some calls := by
  have clean : (recorded paintedOperations).dirty = none := rfl
  have filled : (recorded paintedOperations.dropLast).dirty ≠ none := nofun
  rcases Chart.paint_passes 0 (c := recorded paintedOperations.dropLast) rfl with ⟨_, dirty⟩ | ⟨lost, passes, dirty⟩
  · exact absurd (dirty.symm.trans clean) filled
  · cases lost with
    | true => exact absurd clean (dirty rfl)
    | false => exact ⟨_, (congrArg Pass.lastShown passes).trans (Pass.lastShown_presented _ _)⟩

theorem painted_repaint :
    (∀ op ∈ paintedOperations, op.LendsStateless) ∧ (recorded paintedOperations).redraw = true ∧
      (recorded paintedOperations).dirty = none ∧
      ∃ calls, Pass.lastShown (recorded paintedOperations).passes = some calls ∧
        calls = (recorded paintedOperations).upcoming := by
  obtain ⟨calls, shown⟩ := painted_shown
  exact ⟨painted_stateless, rfl, rfl, calls, shown,
    (Chart.run_repaint _ {} .standard paintedOperations painted_stateless rfl rfl calls shown).1⟩

end Demo

end Charting
