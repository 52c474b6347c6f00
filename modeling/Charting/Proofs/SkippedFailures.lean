import Charting.Proofs.Repaint

namespace Charting

-- A print target with a record of the calls. The calls go on to the target, whatever it is, and are answered by it.
structure Traced (α P : Type) where
  inner : P
  calls : Picture α := []

instance {α P : Type} [RenderTarget α P] : RenderTarget α (Traced α P) where
  draw call := fun target =>
    let (drawn, inner) := RenderTarget.draw call target.inner
    (drawn, { inner, calls := target.calls ++ [call] })

def Host.traced (H : Host) : Host :=
  { H with Printer := Traced H.Length H.Printer, printer := inferInstance }

-- A call as if it had been answered well, to compare calls without their answers.
def SurfaceCall.asked {α : Type} : SurfaceCall α → SurfaceCall α
  | .create size _ => .create size true
  | .present _ => .present false
  | call => call

theorem Picture.drawOn_calls {α P : Type} [RenderTarget α P] (picture : Picture α) (target : Traced α P) :
    (picture.drawOn target).calls = target.calls ++ picture := by
  induction picture generalizing target with
  | nil => simp [drawOn]
  | cons call rest ih =>
    rw [drawOn, ih]
    change (target.calls ++ [call]) ++ rest = _
    simp

namespace Chart

variable {H : Host}

def screen (c : Chart H) : Except RenderError H.Surface × H.Service :=
  match c.surface with
  | some surface => (.ok surface, c.service)
  | none => SurfaceService.create c.size c.service

def pass (surface : H.Surface) (c : Chart H) : Drawn × (H.Surface × H.Service) :=
  let begun := SurfaceService.begin (α := H.Length) (surface, c.service)
  let cleared := (SurfaceService.clear c.viewRect c.config.background begun).2
  SurfaceService.present (α := H.Length) (c.picture.1.drawOnSurface cleared)

def presented (c : Chart H) : Option Drawn :=
  if c.redraw then
    match c.screen with
    | (.ok surface, service) => some ({ c with service }.pass surface).1
    | (.error _, _) => none
  else none

-- All calls that painting makes, answers left aside.
def attempts (c : Chart H) : List (SurfaceCall H.Length) :=
  if c.redraw then
    (if c.surface.isSome then [] else [.create c.size true]) ++ if c.screen.1.isOk then c.passCalls false else []
  else []

-- The same chart on two screens: with two surfaces or with none, and with two services to make them.
def Twin (c d : Chart H) : Prop :=
  ∃ surface service, d = { c with surface, service } ∧ surface.isSome = c.surface.isSome

theorem Twin.service {c d : Chart H} (twin : c.Twin d) (left right : H.Service) :
    { c with service := left }.Twin { d with service := right } := by
  obtain ⟨surface, _, rfl, there⟩ := twin
  exact ⟨surface, right, rfl, there⟩

theorem paint_eq (now : Nat) (c : Chart H) :
    c.paint now =
      if c.redraw then
        match c.screen with
        | (.ok surface, service) => { c with service }.paintOn now surface
        | (.error _, service) => { c with service }
      else { c with dirty := none } := by
  unfold paint screen
  split
  · cases c.surface with
    | some surface => rfl
    | none => rfl
  · rfl

theorem paintOn_lost (now : Nat) {surface : H.Surface} {c : Chart H}
    (lost : (c.pass surface).1 = .error .surfaceLost) :
    c.paintOn now surface =
      { c.picture.2 with
        service := (c.pass surface).2.2, surface := none, deadline := none, dirty := some c.viewRect } := by
  unfold paintOn
  dsimp only
  split
  · rfl
  · rename_i kept
    exact absurd lost kept

theorem paintOn_kept (now : Nat) {surface : H.Surface} {c : Chart H}
    (kept : (c.pass surface).1 ≠ .error .surfaceLost) :
    c.paintOn now surface =
      { c.picture.2 with
        service := (c.pass surface).2.2, surface := some (c.pass surface).2.1,
        deadline := some (now + c.config.idleTimeout), dirty := none } := by
  unfold paintOn
  dsimp only
  split
  · rename_i lost
    exact absurd lost kept
  · rfl

theorem paintOn_twin (now : Nat) {c d : Chart H} (twin : c.Twin d) {s t : H.Surface}
    (same : (c.pass s).1 = .error .surfaceLost ↔ (d.pass t).1 = .error .surfaceLost) :
    (c.paintOn now s).Twin (d.paintOn now t) := by
  obtain ⟨surface, service, rfl, _⟩ := twin
  by_cases lost : (c.pass s).1 = .error .surfaceLost
  · rw [paintOn_lost now lost, paintOn_lost now (same.mp lost)]
    exact ⟨none, _, rfl, rfl⟩
  · rw [paintOn_kept now lost, paintOn_kept now (mt same.mpr lost)]
    exact ⟨some _, _, rfl, rfl⟩

theorem passCalls_asked (lost : Bool) (c : Chart H) : (c.passCalls lost).map .asked = c.passCalls false := by
  simp [passCalls, upcoming, SurfaceCall.asked, Function.comp_def]

theorem attempts_twin {c d : Chart H} (twin : c.Twin d) (served : c.screen.1.isOk = d.screen.1.isOk) :
    c.attempts = d.attempts := by
  obtain ⟨surface, service, rfl, there⟩ := twin
  unfold attempts
  rw [served]
  dsimp only
  rw [there]
  rfl

theorem paint_attempts (now : Nat) (c : Chart H.logged) :
    ∃ calls, (c.paint now).log = c.log ++ calls ∧ calls.map .asked = c.attempts := by
  have painted := paint_painted now c
  generalize c.paint now = d at painted ⊢
  cases painted with
  | forbidden forbidden =>
    refine ⟨[], (List.append_nil _).symm, ?_⟩
    simp [attempts, forbidden]
  | again redraw there =>
    obtain ⟨lost, log, _⟩ := paintOn_log now _ c
    refine ⟨c.passCalls lost, log, ?_⟩
    rw [passCalls_asked]
    simp [attempts, screen, redraw, there, Except.isOk, Except.toBool]
  | anew redraw absent surface service made =>
    obtain ⟨lost, log, _⟩ := paintOn_log now surface { c with service }
    rw [create_log made, List.append_assoc] at log
    have same : { c with service }.passCalls false = c.passCalls false := rfl
    refine ⟨_, log, ?_⟩
    rw [List.map_append, passCalls_asked, same]
    simp [attempts, screen, redraw, absent, made, Except.isOk, Except.toBool, SurfaceCall.asked]
  | failed redraw absent made =>
    refine ⟨_, create_log made, ?_⟩
    simp [attempts, screen, redraw, absent, made, Except.isOk, Except.toBool, SurfaceCall.asked]

theorem presented_made {c : Chart H} (redraw : c.redraw = true) {surface : H.Surface} {service : H.Service}
    (made : c.screen = (.ok surface, service)) : c.presented = some ({ c with service }.pass surface).1 := by
  simp only [presented, redraw, made, if_true]

theorem paint_made (now : Nat) {c : Chart H} (redraw : c.redraw = true) {surface : H.Surface} {service : H.Service}
    (made : c.screen = (.ok surface, service)) : c.paint now = { c with service }.paintOn now surface := by
  rw [paint_eq, if_pos redraw, made]

theorem paint_unmade (now : Nat) {c : Chart H} (redraw : c.redraw = true) {error : RenderError} {service : H.Service}
    (made : c.screen = (.error error, service)) : c.paint now = { c with service } := by
  rw [paint_eq, if_pos redraw, made]

theorem paint_lost (now : Nat) {c : Chart H} (lost : c.presented = some (.error .surfaceLost)) :
    (c.paint now).surface = none ∧ (c.paint now).deadline = none ∧ (c.paint now).dirty = some c.viewRect := by
  cases redraw : c.redraw with
  | false => simp [presented, redraw] at lost
  | true =>
    rcases made : c.screen with ⟨error | surface, service⟩
    · simp [presented, redraw, made] at lost
    · rw [presented_made redraw made] at lost
      rw [paint_made now redraw made, paintOn_lost now (Option.some.inj lost)]
      exact ⟨rfl, rfl, rfl⟩

theorem paint_kept (now : Nat) {c : Chart H} {answer : Drawn} (presented : c.presented = some answer)
    (kept : answer ≠ .error .surfaceLost) :
    (c.paint now).surface.isSome = true ∧ (c.paint now).deadline = some (now + c.config.idleTimeout) ∧
      (c.paint now).dirty = none := by
  cases redraw : c.redraw with
  | false => simp [Chart.presented, redraw] at presented
  | true =>
    rcases made : c.screen with ⟨error | surface, service⟩
    · simp [Chart.presented, redraw, made] at presented
    · rw [presented_made redraw made] at presented
      obtain rfl := Option.some.inj presented
      rw [paint_made now redraw made, paintOn_kept now kept]
      exact ⟨rfl, rfl, rfl⟩

theorem paint_twin (now : Nat) {c d : Chart H} (twin : c.Twin d) (served : c.screen.1.isOk = d.screen.1.isOk)
    (same : c.presented = some (.error .surfaceLost) ↔ d.presented = some (.error .surfaceLost)) :
    (c.paint now).Twin (d.paint now) := by
  have redrawn : d.redraw = c.redraw := by
    obtain ⟨_, _, rfl, _⟩ := twin
    rfl
  cases redraw : c.redraw with
  | false =>
    rw [paint_eq, paint_eq, redrawn, redraw]
    obtain ⟨surface, service, rfl, there⟩ := twin
    exact ⟨surface, service, rfl, there⟩
  | true =>
    rw [redraw] at redrawn
    rcases made : c.screen with ⟨error | s, left⟩ <;> rcases others : d.screen with ⟨otherError | t, right⟩ <;>
      rw [made, others] at served
    · rw [paint_unmade now redraw made, paint_unmade now redrawn others]
      exact twin.service left right
    · cases served
    · cases served
    · rw [presented_made redraw made, presented_made redrawn others, Option.some_inj, Option.some_inj] at same
      rw [paint_made now redraw made, paint_made now redrawn others]
      exact paintOn_twin now (twin.service left right) same

def printed (target : H.traced.logged.Printer) : Picture H.traced.logged.Length :=
  Traced.calls target

theorem print_printed (target : H.traced.logged.Printer) (c : Chart H.traced.logged) :
    printed (c.print target).1 = printed target ++ .fillRect c.viewRect c.config.background :: c.picture.1 :=
  Picture.drawOn_calls _ target

-- What fails on the way has no influence. Painting one chart on two screens makes the same calls on both, to the end of
-- the pass, whatever the answers. The two charts are the same afterwards if both surfaces are lost at the end, and also
-- if neither is, be the pass presented or not; one that lost its surface has the whole view to draw anew. Printing on
-- two targets makes the same calls as well, and leaves the same chart.
theorem failures_skipped (now : Nat) {c d : Chart H.traced.logged} (twin : c.Twin d)
    (served : c.screen.1.isOk = d.screen.1.isOk) :
    (∃ calls others, (c.paint now).log = c.log ++ calls ∧ (d.paint now).log = d.log ++ others ∧
        calls.map .asked = c.attempts ∧ others.map .asked = c.attempts) ∧
      ((c.presented = some (.error .surfaceLost) ↔ d.presented = some (.error .surfaceLost)) →
        (c.paint now).Twin (d.paint now)) ∧
      (c.presented = some (.error .surfaceLost) →
        (c.paint now).surface = none ∧ (c.paint now).deadline = none ∧ (c.paint now).dirty = some c.viewRect) ∧
      (∀ answer, c.presented = some answer → answer ≠ .error .surfaceLost →
        (c.paint now).surface.isSome = true ∧ (c.paint now).deadline = some (now + c.config.idleTimeout) ∧
          (c.paint now).dirty = none) ∧
      ∀ target other,
        let calls := .fillRect c.viewRect c.config.background :: c.picture.1
        printed (c.print target).1 = printed target ++ calls ∧
          printed (c.print other).1 = printed other ++ calls ∧ (c.print target).2 = (c.print other).2 := by
  obtain ⟨calls, log, asked⟩ := c.paint_attempts now
  obtain ⟨others, otherLog, otherAsked⟩ := d.paint_attempts now
  rw [← attempts_twin twin served] at otherAsked
  refine ⟨⟨calls, others, log, otherLog, asked, otherAsked⟩, paint_twin now twin served, paint_lost now, ?_, ?_⟩
  · intro answer presented kept
    exact paint_kept now presented kept
  · intro target other
    exact ⟨print_printed target c, print_printed other c, rfl⟩

end Chart

namespace Demo

structure Balky where
  fails : Bool

def Balky.answer (surface : Balky) : Drawn :=
  if surface.fails then .error .brush else .ok ()

instance : SurfaceService Float Balky Unit where
  create _ service := (.ok ⟨false⟩, service)
  begin := id
  clear _ _ state := (state.1.answer, state)
  draw _ state := (state.1.answer, state)
  present state := (state.1.answer, state)

def balkyHost : Host :=
  { host with Surface := Balky, Service := Unit, surfaces := (inferInstance : SurfaceService Float Balky Unit) }

def hung (fails : Bool) : Chart balkyHost.traced.logged :=
  { Chart.withConfig (Logged.mk () [] : Logged Float Unit) { kind := .pie } .standard with
    data := [.ofContents (.stored #[12, 19])], surface := some (Balky.mk fails) }

theorem Balky.answer_kept (surface : Balky) : surface.answer ≠ .error .surfaceLost := by
  unfold answer
  split <;> simp

theorem hung_presented (fails : Bool) : (hung fails).presented ≠ some (.error .surfaceLost) := by
  change some (Balky.answer _) ≠ _
  exact fun lost => Balky.answer_kept _ (Option.some.inj lost)

theorem hung_skipped :
    (hung false).Twin (hung true) ∧ (hung false).screen.1.isOk = (hung true).screen.1.isOk ∧
      ((hung false).paint 0).log.map SurfaceCall.asked = ((hung true).paint 0).log.map SurfaceCall.asked ∧
      ((hung false).paint 0).Twin ((hung true).paint 0) := by
  have twin : (hung false).Twin (hung true) := ⟨some (Balky.mk true), Logged.mk () [], rfl, rfl⟩
  obtain ⟨⟨calls, others, log, otherLog, asked, otherAsked⟩, same, _⟩ := Chart.failures_skipped 0 twin rfl
  refine ⟨twin, rfl, ?_, same (iff_of_false (hung_presented false) (hung_presented true))⟩
  rw [log, otherLog]
  exact asked.trans otherAsked.symm

end Demo

end Charting
