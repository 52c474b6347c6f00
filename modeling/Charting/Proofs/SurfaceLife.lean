import Charting.Proofs.Repaint

namespace Charting

-- A surface that remembers the size it was made with. Otherwise it is what the service made.
structure Stamped (α S : Type) where
  inner : S
  size : Size α

namespace Stamped

variable {α S F : Type}

instance [SurfaceService α S F] : SurfaceService α (Stamped α S) F where
  create size service :=
    let (made, service) := SurfaceService.create (S := S) size service
    (made.map (Stamped.mk · size), service)
  begin := fun (surface, service) =>
    let (inner, service) := SurfaceService.begin (α := α) (surface.inner, service)
    ({ surface with inner }, service)
  clear rect color := fun (surface, service) =>
    let (drawn, (inner, service)) := SurfaceService.clear rect color (surface.inner, service)
    (drawn, ({ surface with inner }, service))
  draw call := fun (surface, service) =>
    let (drawn, (inner, service)) := SurfaceService.draw call (surface.inner, service)
    (drawn, ({ surface with inner }, service))
  present := fun (surface, service) =>
    let (presented, (inner, service)) := SurfaceService.present (α := α) (surface.inner, service)
    (presented, ({ surface with inner }, service))

theorem create_size [SurfaceService α S F] {size : Size α} {service : F} {surface : Stamped α S}
    (made : (SurfaceService.create size service).1 = .ok surface) : surface.size = size := by
  change (SurfaceService.create (S := S) size service).1.map (Stamped.mk · size) = .ok surface at made
  cases created : (SurfaceService.create (S := S) size service).1 with
  | error => rw [created] at made; cases made
  | ok inner => rw [created] at made; cases made; rfl

end Stamped

def Host.stamped (H : Host) : Host :=
  { H with Surface := Stamped H.Length H.Surface, surfaces := inferInstance }

variable {H : Host}

def stamp (surface : H.stamped.logged.Surface) : Size H.Length :=
  Stamped.size surface

theorem drawOnSurface_stamp (picture : Picture H.stamped.logged.Length)
    (state : H.stamped.logged.Surface × H.stamped.logged.Service) :
    stamp (picture.drawOnSurface state).1 = stamp state.1 := by
  induction picture generalizing state with
  | nil => rfl
  | cons call rest ih => exact ih (SurfaceService.draw call state).2

theorem create_stamp {size : Size H.stamped.logged.Length} {service : H.stamped.logged.Service}
    {surface : H.stamped.logged.Surface} (made : (SurfaceService.create size service).1 = .ok surface) :
    stamp surface = size :=
  Stamped.create_size (α := H.Length) (S := H.Surface) (F := H.Service) made

namespace Chart

-- What an operation does to the surface: nothing, or it gives the surface back, or it paints. While the view may not be
-- painted, nothing becomes dirty.
inductive SurfaceStep (c : Chart H) (op : Operation H) (d : Chart H) : Prop where
  | kept (service : d.service = c.service) (surface : d.surface = c.surface) (deadline : d.deadline = c.deadline)
      (size : d.size = c.size) (quiet : d.redraw = false → d.dirty = c.dirty)
  | dropped (service : d.service = c.service) (surface : d.surface = none) (deadline : d.deadline = none)
      (quiet : d.redraw = false → d.dirty = c.dirty)
  | painted (now : Nat) (paints : op = .paint now) (painted : c.Painted now d)

section

variable {c d e : Chart H} {op : Operation H} {hot : Option HotItem}

theorem TurnedTo.kept (turned : e.TurnedTo hot d) (service : e.service = c.service) (surface : e.surface = c.surface)
    (deadline : e.deadline = c.deadline) (size : e.size = c.size) (dirty : e.dirty = c.dirty) :
    c.SurfaceStep op d := by
  have quiet := turned.quiet
  obtain ⟨_, _, _, _, _, rfl⟩ := turned.frame
  exact .kept service surface deadline size fun forbidden => (quiet forbidden).trans dirty

theorem TurnedTo.dropped (turned : e.TurnedTo hot d) (service : e.service = c.service) (surface : e.surface = none)
    (deadline : e.deadline = none) (dirty : e.dirty = c.dirty) : c.SurfaceStep op d := by
  have quiet := turned.quiet
  obtain ⟨_, _, _, _, _, rfl⟩ := turned.frame
  exact .dropped service surface deadline fun forbidden => (quiet forbidden).trans dirty

theorem onTimer_surfaceStep (now : Nat) (c : Chart H) : c.SurfaceStep op (c.onTimer now).2 := by
  unfold onTimer
  split
  · split
    · exact .dropped rfl rfl rfl fun _ => rfl
    · exact .kept rfl rfl rfl rfl fun _ => rfl
  · exact .kept rfl rfl rfl rfl fun _ => rfl

theorem SurfaceStep.quiet (step : c.SurfaceStep op d) (forbidden : d.redraw = false) (clean : c.dirty = none) :
    d.dirty = none := by
  cases step with
  | kept _ _ _ _ quiet | dropped _ _ _ quiet => exact (quiet forbidden).trans clean
  | painted now _ painted =>
    have painting : ∀ (surface : H.Surface) (e : Chart H), (e.paintOn now surface).redraw = e.redraw := by
      intro surface e
      obtain ⟨_, _, _, _, _, _, frame⟩ := (paintOn_touched now surface e).frame
      rw [frame]
    cases painted with
    | forbidden => rfl
    | again redraw | anew redraw =>
      rw [painting, redraw] at forbidden
      cases forbidden
    | failed => exact clean

theorem Transition.surfaceStep (transition : c.Transition op d) : c.SurfaceStep op d := by
  cases transition with
  | consult _ consulted => exact consulted.told.turned.kept rfl rfl rfl rfl rfl
  | revise _ revised =>
    cases revised with
    | data | axes | style | config | title | enabled => exact (changed_turned _).1.kept rfl rfl rfl rfl rfl
    | size => exact (changed_turned _).1.dropped rfl rfl rfl rfl
  | setSupplier | setMeasurer => exact (changed_turned _).1.kept rfl rfl rfl rfl rfl
  | recolor | setRedraw | invalidateRect => exact (invalidateRect_turned _ _).kept rfl rfl rfl rfl rfl
  | setTooltip _ tooltip => exact (setTooltip_told tooltip c).turned.kept rfl rfl rfl rfl rfl
  | displayChanged => exact (invalidateRect_turned _ _).dropped rfl rfl rfl rfl
  | pointerMove p => exact (pointerMove_turned p c).kept rfl rfl rfl rfl rfl
  | pointerLeave => exact c.pointerLeave_turned.kept rfl rfl rfl rfl rfl
  | onTimer now => exact onTimer_surfaceStep now c
  | paint now => exact .painted now rfl (paint_painted now c)

end

-- There is a deadline for a surface and for nothing else, and the surface was made for the view as it is.
structure Housed (c : Chart H.stamped.logged) : Prop where
  timed : c.surface.isSome = c.deadline.isSome
  fitting : ∀ surface, c.surface = some surface → stamp surface = c.size

section

variable {c d : Chart H.stamped.logged} {op : Operation H.stamped.logged}

theorem paintOn_housed (now : Nat) {surface : H.stamped.logged.Surface} (fitting : stamp surface = c.size) :
    (c.paintOn now surface).Housed := by
  obtain ⟨measurer, supplier, frame⟩ := c.picture_consulted.frame
  unfold paintOn
  dsimp only
  rw [frame]
  split
  · exact ⟨rfl, nofun⟩
  · refine ⟨rfl, ?_⟩
    rintro _ ⟨⟩
    exact (drawOnSurface_stamp c.picture.1 _).trans fitting

theorem Painted.housed {now : Nat} (painted : c.Painted now d) (housed : c.Housed) : d.Housed := by
  cases painted with
  | forbidden | failed => exact ⟨housed.timed, housed.fitting⟩
  | again _ there => exact paintOn_housed now (housed.fitting _ there)
  | anew _ _ surface service made =>
    exact paintOn_housed (c := { c with service }) now (create_stamp (congrArg Prod.fst made))

theorem SurfaceStep.housed (step : c.SurfaceStep op d) (housed : c.Housed) : d.Housed := by
  cases step with
  | kept _ surface deadline size _ =>
    refine ⟨by rw [surface, deadline, housed.timed], ?_⟩
    intro kept there
    exact (housed.fitting kept (surface.symm.trans there)).trans size.symm
  | dropped _ surface deadline _ =>
    refine ⟨by rw [surface, deadline]; rfl, ?_⟩
    intro kept there
    cases surface.symm.trans there
  | painted now _ painted => exact painted.housed housed

end

def completed (c : Chart H.logged) : List (Pass H.logged.Length) :=
  c.passes.filter (!·.lost)

section

variable {c d : Chart H.logged} {op : Operation H.logged} {now : Nat}

theorem completed_of_passes (same : d.passes = c.passes) : d.completed = c.completed :=
  congrArg (List.filter _) same

theorem create_not_mem_passCalls (lost : Bool) (size : Size H.logged.Length) (made : Bool) :
    SurfaceCall.create size made ∉ c.passCalls lost := by
  simp [passCalls, upcoming]

theorem Painted.calls (painted : c.Painted now d) :
    ∃ calls, d.log = c.log ++ calls ∧ (calls ≠ [] → c.redraw = true) ∧
      ∀ size made, .create size made ∈ calls → c.surface = none := by
  cases painted with
  | forbidden => exact ⟨[], (List.append_nil _).symm, nofun, nofun⟩
  | again redraw there =>
    obtain ⟨lost, log, _⟩ := paintOn_log now _ c
    refine ⟨_, log, fun _ => redraw, ?_⟩
    intro size made created
    exact absurd created (create_not_mem_passCalls lost size made)
  | anew redraw absent surface service made =>
    obtain ⟨lost, log, _⟩ := paintOn_log now surface { c with service }
    rw [create_log made, List.append_assoc] at log
    exact ⟨_, log, fun _ => redraw, fun _ _ _ => absent⟩
  | failed redraw absent made => exact ⟨_, create_log made, fun _ => redraw, fun _ _ _ => absent⟩

-- What an operation does to the deadline: it goes, or it stays, or a pass came through just now and sets it anew.
inductive Timed (c : Chart H.logged) (op : Operation H.logged) (d : Chart H.logged) : Prop where
  | gone (deadline : d.deadline = none) (completed : d.completed = c.completed)
  | still (deadline : d.deadline = c.deadline) (completed : d.completed = c.completed)
  | anew (now : Nat) (pass : Pass H.logged.Length) (paints : op = .paint now)
      (completed : d.completed = c.completed ++ [pass]) (deadline : d.deadline = some (now + c.config.idleTimeout))

theorem paintOn_timed (paints : op = .paint now) (surface : H.logged.Surface) (c : Chart H.logged) :
    c.Timed op (c.paintOn now surface) := by
  obtain ⟨lost, log, _, deadline⟩ := paintOn_log now surface c
  have passes := congrArg (List.filter (!·.lost)) (passes_of_log log)
  rw [List.filter_append] at passes
  cases lost with
  | true => exact .gone deadline (passes.trans (List.append_nil _))
  | false => exact .anew now ⟨c.upcoming, false⟩ paints passes deadline

theorem Painted.timed (painted : c.Painted now d) (paints : op = .paint now) : c.Timed op d := by
  cases painted with
  | forbidden => exact .still rfl rfl
  | again _ there => exact paintOn_timed paints _ c
  | anew _ _ surface service made =>
    have same : { c with service }.completed = c.completed := completed_of_passes (create_passes made)
    cases paintOn_timed paints surface { c with service } with
    | gone deadline completed => exact .gone deadline (completed.trans same)
    | still deadline completed => exact .still deadline (completed.trans same)
    | anew now pass paints completed deadline =>
      exact .anew now pass paints (completed.trans (congrArg (· ++ [pass]) same)) deadline
  | failed _ _ made => exact .still rfl (completed_of_passes (create_passes made))

theorem SurfaceStep.timed (step : c.SurfaceStep op d) : c.Timed op d := by
  cases step with
  | kept service _ deadline => exact .still deadline (by rw [completed, passes, log, service]; rfl)
  | dropped service _ deadline => exact .gone deadline (by rw [completed, passes, log, service]; rfl)
  | painted now paints painted => exact painted.timed paints

theorem SurfaceStep.calls (step : c.SurfaceStep op d) :
    ∃ calls, d.log = c.log ++ calls ∧ (calls ≠ [] → c.redraw = true ∧ ∃ now, op = .paint now) ∧
      ∀ size made, .create size made ∈ calls → c.surface = none := by
  cases step with
  | kept service | dropped service =>
    refine ⟨[], ?_, nofun, nofun⟩
    rw [List.append_nil, log, service]
    rfl
  | painted now paints painted =>
    obtain ⟨calls, log, redraw, absent⟩ := painted.calls
    exact ⟨calls, log, fun called => ⟨redraw called, now, paints⟩, absent⟩

end

-- A deadline counts from the last painting that the surface came through, by the timeout of that time.
def Due (start : Chart H.logged) (ops : List (Operation H.logged)) (deadline : Nat) : Prop :=
  ∃ before now after, ops = before ++ .paint now :: after ∧ deadline = now + (start.run before).config.idleTimeout ∧
    (∃ pass, ((start.run before).paint now).completed = (start.run before).completed ++ [pass]) ∧
    (start.run ops).completed = ((start.run before).paint now).completed

theorem run_due {start : Chart H.logged} (fresh : start.deadline = none) (ops : List (Operation H.logged)) :
    ∀ deadline, (start.run ops).deadline = some deadline → start.Due ops deadline := by
  refine run_history (motive := fun past c => ∀ deadline, c.deadline = some deadline → start.Due past deadline)
    (fun _ there => nomatch fresh.symm.trans there) ?_ ops
  intro past op due deadline there
  have step := run_concat past op start
  cases (step_transition op (start.run past)).surfaceStep.timed with
  | gone none => cases none.symm.trans there
  | still same completed =>
    obtain ⟨before, now, after, rfl, deadline, came, last⟩ := due deadline (same.symm.trans there)
    refine ⟨before, now, after ++ [op], by simp, deadline, came, ?_⟩
    rw [step, completed, last]
  | anew now pass paints completed set =>
    subst paints
    refine ⟨past, now, [], rfl, (Option.some.inj (set.symm.trans there)).symm, ⟨pass, completed⟩, ?_⟩
    rw [step]
    rfl

theorem paint_due {now : Nat} {c : Chart H.logged} (came : (c.paint now).completed ≠ c.completed) :
    (c.paint now).deadline = some (now + c.config.idleTimeout) := by
  have timed : c.Timed (.paint now) (c.paint now) := (paint_painted now c).timed rfl
  cases timed with
  | gone _ same | still _ same => exact absurd same came
  | anew now pass paints _ deadline =>
    cases paints
    exact deadline

theorem Housed.onTimer {c : Chart H.stamped.logged} (housed : c.Housed) (now : Nat) :
    ((c.onTimer now).1 = true ↔ c.surface.isSome ∧ ∃ deadline, c.deadline = some deadline ∧ deadline ≤ now) ∧
      ((c.onTimer now).1 = true → (c.onTimer now).2.surface = none ∧ (c.onTimer now).2.deadline = none) := by
  unfold Chart.onTimer
  cases set : c.deadline with
  | none => simp
  | some deadline =>
    have there : c.surface.isSome = true := by rw [housed.timed, set]; rfl
    by_cases due : deadline ≤ now
    · simp [due, there, dropSurface]
    · simp [due]

-- The life of a surface, whatever surfaces and the service that makes them do: there is one as long as there is a
-- deadline, it was made in the size that the view has now, and the deadline counts from the last pass that it came
-- through. The timer gives it back when the deadline is over. Only a painting makes a surface or draws on one, only
-- while the view may be painted, and it makes one only if there is none; while the view may not be painted, nothing
-- becomes dirty.
theorem run_surface (service : H.Service) (style : ChartStyle) (config : Config H.stamped.logged.Length)
    (ops : List (Operation H.stamped.logged)) :
    let start : Chart H.stamped.logged :=
      withConfig (Logged.mk service [] : Logged H.Length H.Service) style config
    let c := start.run ops
    (c.surface.isSome = true ↔ c.deadline.isSome = true) ∧
      (∀ surface, c.surface = some surface → stamp surface = c.size) ∧
      (∀ deadline, c.deadline = some deadline → start.Due ops deadline) ∧
      (∀ now, (c.paint now).completed ≠ c.completed →
        (c.paint now).deadline = some (now + c.config.idleTimeout)) ∧
      (∀ now,
        ((c.onTimer now).1 = true ↔ c.surface.isSome ∧ ∃ deadline, c.deadline = some deadline ∧ deadline ≤ now) ∧
          ((c.onTimer now).1 = true → (c.onTimer now).2.surface = none ∧ (c.onTimer now).2.deadline = none)) ∧
      ∀ op,
        (∃ calls, (c.step op).log = c.log ++ calls ∧ (calls ≠ [] → c.redraw = true ∧ ∃ now, op = .paint now) ∧
          ∀ size made, .create size made ∈ calls → c.surface = none) ∧
          ((c.step op).redraw = false → c.dirty = none → (c.step op).dirty = none) := by
  intro start c
  have housed : c.Housed := by
    refine run_induction (motive := Housed) ⟨rfl, nofun⟩ ?_
    intro op _ before after transition housed
    exact transition.surfaceStep.housed housed
  refine ⟨by rw [housed.timed], housed.fitting, run_due rfl ops, fun _ => paint_due, housed.onTimer, ?_⟩
  intro op
  have step := (step_transition op c).surfaceStep
  exact ⟨step.calls, step.quiet⟩

example : (Demo.recorded [.insertDataSet 0 (.stored #[12, 19]), .paint 7]).deadline = some 30007 := rfl

end Chart

end Charting
