import Charting.Demo
import Charting.Proofs.Looks
import Charting.Proofs.Transition
import Charting.Scalar.Exact

namespace Charting

variable {H : Host}

-- Where the pointer is after a history: where it moved last, unless it left since. It is followed in a disabled chart
-- as well.
def lastPointer (ops : List (Operation H)) : Option (Point H.Length) :=
  ops.foldl (fun before op => op.pointer before) none

-- An operation that lends a chart nothing whose answers depend on the questions before.
def Operation.LendsStateless : Operation H → Prop
  | .setSupplier (some supplier) => Stateless (Supplier.ask H.Source) supplier
  | .setMeasurer measurer => Stateless (TextMeasurer.ask H.Length H.Measurer) measurer
  | _ => True

def DataSet.uncolored (d : DataSet) : DataSet :=
  { d with color := none }

theorem uncolored_legends (data : List DataSet) :
    (data.map DataSet.uncolored).map DataSet.legend = data.map DataSet.legend := by
  rw [List.map_map]
  rfl

theorem uncolored_recolor (data : List DataSet) (index : Nat) (color : Option Color) :
    (data.modify index ({ · with color })).map DataSet.uncolored = data.map DataSet.uncolored := by
  apply List.ext_getElem?
  intro i
  rw [List.getElem?_map, List.getElem?_map, List.getElem?_modify]
  cases data[i]? with
  | none => rfl
  | some d =>
    change some (DataSet.uncolored (if index = i then { d with color } else d)) = some d.uncolored
    split <;> rfl

namespace Values

variable {N : Type} [Supplier N]

theorem virtualCount_uncolored (data : List DataSet) :
    virtualCount (data.map DataSet.uncolored) = virtualCount data := by
  induction data with
  | nil => rfl
  | cons d rest ih =>
    change _ + virtualCount (rest.map DataSet.uncolored) = _ + virtualCount rest
    rw [ih]
    rfl

theorem collectFrom_uncolored (room : Bool) (data : List DataSet) (set : Nat) (supplier : Option N) :
    collectFrom room set (data.map DataSet.uncolored) supplier = collectFrom room set data supplier := by
  induction data generalizing set supplier with
  | nil => rfl
  | cons d rest ih =>
    rw [List.map_cons]
    unfold collectFrom
    simp only [ih, DataSet.uncolored]

theorem collect_uncolored (data : List DataSet) (supplier : Option N) :
    collect (data.map DataSet.uncolored) supplier = collect data supplier := by
  rw [collect_eq, collect_eq, virtualCount_uncolored, collectFrom_uncolored]

end Values

namespace Chart

theorem view_uncolored (c : Chart H) :
    { c with data := c.data.map DataSet.uncolored }.view.1 =
      { c.view.1 with data := c.view.1.data.map DataSet.uncolored } := by
  change View.mk _ (Values.collect (c.data.map DataSet.uncolored) c.supplier).1 _ _ _ _ _ =
    View.mk _ (Values.collect c.data c.supplier).1 _ _ _ _ _
  rw [Values.collect_uncolored]
  rfl

theorem hitTest_uncolored (p : Point H.Length) (c : Chart H) :
    ({ c with data := c.data.map DataSet.uncolored }.hitTest p).1 = (c.hitTest p).1 := by
  have same := c.view.1.hitTest_legends (M := ChartMeasurer H.Length H.Measurer) (uncolored_legends c.view.1.data)
    c.style.kind p
  change ({ c with data := c.data.map DataSet.uncolored }.view.1.hitTest c.style.kind p c.layOut.2.measurer).1 =
    (c.view.1.hitTest c.style.kind p c.layOut.2.measurer).1
  rw [view_uncolored, same]

variable {c d : Chart H} {answers : Answers H} {op : Operation H}

theorem underPointer_determined (left : c.Hears answers) (right : d.Hears answers) (model : c.model = d.model)
    (enabled : c.enabled = d.enabled) (pointer : c.pointer = d.pointer) : c.underPointer = d.underPointer := by
  unfold underPointer
  rw [enabled, pointer]
  cases d.pointer with
  | none => rfl
  | some p => simp only [Option.bind_some, hitTest_determined left right model p]

structure Current (c : Chart H) : Prop where
  heard : ∃ answers, c.Hears answers
  hot : c.hot = c.underPointer

theorem withConfig_current (service : H.Service) (style : ChartStyle) (config : Config H.Length) :
    (withConfig service style config).Current := by
  obtain ⟨text, follows⟩ := Heuristic.stateless (α := H.Length) {}
  have cache := (MeasureCache.agrees_wrap follows ChartMeasurer.cacheCapacity).follows
  exact ⟨⟨⟨text, none⟩, ChartMeasurer.follows_standard cache, .none⟩, rfl⟩

theorem TurnedTo.current (turned : c.TurnedTo c.underPointer d) (heard : ∃ answers, c.Hears answers) :
    d.Current := by
  obtain ⟨answers, heard⟩ := heard
  have hears := turned.hears answers heard
  obtain ⟨_, _, _, _, _, rfl⟩ := turned.frame
  exact ⟨⟨answers, hears⟩, underPointer_determined heard hears rfl rfl rfl⟩

theorem changed_current (heard : ∃ answers, c.Hears answers) : c.changed.Current :=
  c.changed_turned.1.current heard

theorem Current.told (current : c.Current) (told : c.TooltipTold d) : d.Current := by
  have turned := told.turned
  rw [current.hot] at turned
  exact turned.current current.heard

theorem Current.touched (current : c.Current) (touched : c.ScreenTouched d) : d.Current := by
  obtain ⟨answers, heard⟩ := current.heard
  have hears := touched.hears answers heard
  obtain ⟨_, _, _, _, _, _, rfl⟩ := touched.frame
  exact ⟨⟨answers, hears⟩, current.hot.trans (underPointer_determined heard hears rfl rfl rfl)⟩

theorem recolor_current (current : c.Current) (index : Nat) (color : Option Color) :
    { c with data := c.data.modify index ({ · with color }) }.Current := by
  obtain ⟨answers, heard⟩ := current.heard
  have hit : ∀ p : Point H.Length,
      ({ c with data := c.data.modify index ({ · with color }) }.hitTest p).1 = (c.hitTest p).1 := by
    intro p
    have recolored := hitTest_uncolored p { c with data := c.data.modify index ({ · with color }) }
    dsimp only at recolored
    rw [uncolored_recolor] at recolored
    exact recolored.symm.trans (hitTest_uncolored p c)
  refine ⟨⟨answers, heard.text, heard.values⟩, ?_⟩
  rw [underPointer]
  simp only [hit]
  exact current.hot

theorem Current.cold (current : c.Current) (disabled : ¬c.enabled = true) : c.hot = none :=
  current.hot.trans (underPointer_cold (.inl (Bool.eq_false_iff.mpr disabled)))

theorem pointerMove_current (current : c.Current) (p : Point H.Length) : (c.pointerMove p).Current := by
  obtain ⟨answers, heard⟩ := current.heard
  have turned := c.pointerMove_turned p
  have found : (if c.enabled then (c.hitTest p).1 else c.hot) = { c with pointer := some p }.underPointer := by
    unfold underPointer
    split
    · rfl
    · rename_i disabled
      exact current.cold disabled
  rw [found] at turned
  exact turned.current ⟨answers, heard.text, heard.values⟩

theorem pointerLeave_current (current : c.Current) : c.pointerLeave.Current := by
  obtain ⟨answers, heard⟩ := current.heard
  have turned := c.pointerLeave_turned
  have found : (if c.enabled then none else c.hot) = { c with pointer := none }.underPointer := by
    unfold underPointer
    split
    · rfl
    · rename_i disabled
      exact current.cold disabled
  rw [found] at turned
  exact turned.current ⟨answers, heard.text, heard.values⟩

theorem setSupplier_heard (heard : ∃ answers, c.Hears answers) {supplier : Option H.Source}
    (stateless : (Operation.setSupplier supplier).LendsStateless) : ∃ answers, { c with supplier }.Hears answers := by
  obtain ⟨answers, heard⟩ := heard
  cases supplier with
  | none => exact ⟨⟨answers.text, none⟩, heard.text, .none⟩
  | some supplier =>
    obtain ⟨values, follows⟩ := stateless
    exact ⟨⟨answers.text, some values⟩, heard.text, .some follows⟩

theorem setMeasurer_heard (heard : ∃ answers, c.Hears answers) {measurer : H.Measurer}
    (stateless : (Operation.setMeasurer measurer).LendsStateless) :
    ∃ answers, { c with measurer := .lent measurer }.Hears answers := by
  obtain ⟨answers, heard⟩ := heard
  obtain ⟨text, follows⟩ := stateless
  exact ⟨⟨text, answers.values⟩, ChartMeasurer.follows_lent follows, heard.values⟩

theorem Revision.heard (revised : c.Revision d) (heard : ∃ answers, c.Hears answers) :
    ∃ answers, d.Hears answers := by
  obtain ⟨answers, heard⟩ := heard
  cases revised with
  | data | axes | style | config | title | enabled | size => exact ⟨answers, heard.text, heard.values⟩

theorem Transition.current (transition : c.Transition op d) (stateless : op.LendsStateless) (current : c.Current) :
    d.Current := by
  cases transition with
  | consult _ consulted => exact current.told consulted.told
  | revise _ revised => exact changed_current (revised.heard current.heard)
  | recolor _ index color => exact (recolor_current current index color).touched (invalidateRect_touched _ _)
  | setTooltip _ tooltip => exact current.told (setTooltip_told tooltip c)
  | setSupplier supplier => exact changed_current (setSupplier_heard current.heard stateless)
  | setMeasurer measurer => exact changed_current (setMeasurer_heard current.heard stateless)
  | setRedraw redraw =>
    obtain ⟨answers, heard⟩ := current.heard
    have set : { c with redraw }.Current := ⟨⟨answers, heard.text, heard.values⟩, current.hot⟩
    exact set.touched (invalidateRect_touched _ _)
  | invalidateRect rect => exact current.touched (invalidateRect_touched rect c)
  | displayChanged => exact current.touched c.displayChanged_touched
  | pointerMove p => exact pointerMove_current current p
  | pointerLeave => exact pointerLeave_current current
  | onTimer now => exact current.touched (onTimer_touched now c)
  | paint now => exact current.touched (paint_touched now c)

theorem TurnedTo.pointer {hot : Option HotItem} (turned : c.TurnedTo hot d) : d.pointer = c.pointer := by
  obtain ⟨_, _, _, _, _, rfl⟩ := turned.frame
  rfl

theorem ScreenTouched.pointer (touched : c.ScreenTouched d) : d.pointer = c.pointer := by
  obtain ⟨_, _, _, _, _, _, rfl⟩ := touched.frame
  rfl

theorem Revision.pointer (revised : c.Revision d) : d.pointer = c.pointer := by
  cases revised <;> rfl

theorem Transition.pointer (transition : c.Transition op d) : d.pointer = op.pointer c.pointer := by
  cases transition with
  | consult still consulted => rw [still.pointer]; exact consulted.touched.pointer
  | revise still revised => rw [still.pointer]; exact (changed_turned _).1.pointer.trans revised.pointer
  | recolor still index color => rw [still.pointer]; exact (invalidateRect_touched _ _).pointer
  | setTooltip away tooltip => rw [away]; exact (setTooltip_told tooltip c).turned.pointer
  | setSupplier | setMeasurer => exact (changed_turned _).1.pointer
  | setRedraw | invalidateRect => exact (invalidateRect_touched _ _).pointer
  | displayChanged => exact c.displayChanged_touched.pointer
  | pointerMove p => exact (pointerMove_turned p c).pointer
  | pointerLeave => exact c.pointerLeave_turned.pointer
  | onTimer now => exact (onTimer_touched now c).pointer
  | paint now => exact (paint_touched now c).pointer

theorem run_pointer (ops : List (Operation H)) (c : Chart H) :
    (c.run ops).pointer = ops.foldl (fun before op => op.pointer before) c.pointer := by
  induction ops generalizing c with
  | nil => rfl
  | cons op rest ih =>
    change ((c.step op).run rest).pointer = _
    rw [ih, (step_transition op c).pointer]
    rfl

theorem Current.run (current : c.Current) {ops : List (Operation H)} (stateless : ∀ op ∈ ops, op.LendsStateless) :
    (c.run ops).Current :=
  run_induction current fun op member _ _ transition => transition.current (stateless op member)

-- The hot item of a chart is never stale: in an enabled chart it is what a hit test finds now where the pointer moved
-- last, otherwise there is none. So two histories, each with objects of its own that answer alike, that lead to one
-- model and one place of the pointer lead to one hot item.
theorem run_hot (service : H.Service) (style : ChartStyle) (config : Config H.Length) (ops : List (Operation H))
    (stateless : ∀ op ∈ ops, op.LendsStateless) :
    let c := (withConfig service style config).run ops
    c.hot = (if c.enabled then (lastPointer ops).bind fun p => (c.hitTest p).1 else none) ∧
      ∀ (service : H.Service) (style : ChartStyle) (config : Config H.Length) (others : List (Operation H)),
        (∀ op ∈ others, op.LendsStateless) →
          let d := (withConfig service style config).run others
          c.model = d.model → c.enabled = d.enabled → lastPointer ops = lastPointer others →
            (∃ answers, c.Hears answers ∧ d.Hears answers) → c.hot = d.hot := by
  have current := (withConfig_current service style config).run stateless
  have pointer := run_pointer ops (withConfig service style config)
  refine ⟨?_, ?_⟩
  · rw [current.hot, underPointer, pointer]
    rfl
  · intro service' style' config' others stateless' d model enabled same heard
    obtain ⟨answers, left, right⟩ := heard
    have current' := (withConfig_current service' style' config').run stateless'
    have pointer' := run_pointer others (withConfig service' style' config')
    rw [current.hot, current'.hot]
    exact underPointer_determined left right model enabled (pointer.trans (same.trans pointer'.symm))

end Chart

namespace Demo

instance : RenderTarget Rat Unit where
  draw _ := pure (.ok ())

instance : SurfaceService Rat Unit Unit where
  create _ _ := (.ok (), ())
  begin state := state
  clear _ _ state := (.ok (), state)
  draw _ state := (.ok (), state)
  present state := (.ok (), state)

-- A program that measures in rational numbers. It shows nothing round, so its circles do not matter.
def rational : Host where
  Length := Rat
  Source := Forecast
  Measurer := Heuristic
  Tooltip := TrackingTooltip Rat
  Printer := Unit
  Surface := Unit
  Service := Unit
  circular := { pi := 3, cos := id, sin := id, tan := id, atan2 := fun _ y => y, sixthRoot := id }

def columns : ChartStyle :=
  { kind := .column false, tooltips := true }

def hoverLast : List (Operation rational) :=
  [.setEnabled false, .setSupplier (some {}), .insertDataSet 0 (.virtual months), .setMeasurer {},
    .resize (Size.mk (α := Rat) 480 320), .pointerMove (Point.mk (α := Rat) 120 250), .setEnabled true]

def hoverFirst : List (Operation rational) :=
  [.setEnabled false, .pointerMove (Point.mk (α := Rat) 120 250), .resize (Size.mk (α := Rat) 480 320), .setMeasurer {},
    .insertDataSet 0 (.virtual months), .setSupplier (some {}), .setDataSetColor 0 (some .black),
    .setDataSetColor 0 none, .setEnabled true]

def hovered (ops : List (Operation rational)) : Chart rational :=
  (Chart.withConfig () columns .standard).run ops

theorem forecast_stateless : Stateless (Supplier.ask Forecast) {} :=
  ⟨_, .unchanged fun _ => rfl⟩

theorem hoverLast_stateless : ∀ op ∈ hoverLast, op.LendsStateless := by
  simp only [hoverLast, List.forall_mem_cons]
  exact ⟨trivial, forecast_stateless, trivial, Heuristic.stateless {}, trivial, trivial, trivial, List.forall_mem_nil _⟩

theorem hoverFirst_stateless : ∀ op ∈ hoverFirst, op.LendsStateless := by
  simp only [hoverFirst, List.forall_mem_cons]
  exact ⟨trivial, trivial, trivial, Heuristic.stateless {}, trivial, forecast_stateless, trivial, trivial, trivial,
    List.forall_mem_nil _⟩

theorem hovered_hears : ∃ answers, (hovered hoverLast).Hears answers ∧ (hovered hoverFirst).Hears answers := by
  obtain ⟨text, measurer⟩ := Heuristic.stateless (α := Rat) {}
  obtain ⟨values, supplier⟩ := forecast_stateless
  have enabled : ∀ c : Chart rational, c.measurer = .lent {} → c.supplier = some {} →
      (c.step (.setEnabled true)).Hears ⟨text, some values⟩ := by
    intro c lent given
    refine (Chart.changed_turned _).1.hears _ ⟨?_, ?_⟩
    · exact lent ▸ ChartMeasurer.follows_lent measurer
    · exact given ▸ .some supplier
  exact ⟨⟨text, some values⟩, enabled (hovered hoverLast.dropLast) rfl rfl,
    enabled (hovered hoverFirst.dropLast) rfl rfl⟩

def hoveredModel : Model rational where
  data := [.ofContents (.virtual months)]
  primary := {}
  secondary := {}
  style := columns
  config := .standard
  title := ""
  size := Size.mk (α := Rat) 480 320

theorem hovered_model : (hovered hoverLast).model = (hovered hoverFirst).model := by
  have enabled := fun c : Chart rational => (Chart.changed_turned { c with enabled := true }).1.model
  have last : (hovered hoverLast.dropLast).model = hoveredModel := rfl
  have first : (hovered hoverFirst.dropLast).model = hoveredModel := rfl
  exact ((enabled (hovered hoverLast.dropLast)).trans last).trans
    ((enabled (hovered hoverFirst.dropLast)).trans first).symm

theorem hovered_hot :
    (∀ op ∈ hoverLast, op.LendsStateless) ∧ (hovered hoverLast).hot = some (.value 0 1) ∧
      ((hovered hoverLast).hitTest (Point.mk (α := Rat) 120 250)).1 = some (.value 0 1) ∧
      (hovered hoverFirst).hot = some (.value 0 1) := by
  obtain ⟨current, determined⟩ := Chart.run_hot () columns .standard hoverLast hoverLast_stateless
  have there : (hovered hoverLast).hot = some (.value 0 1) := by decide +kernel
  have enabled : (hovered hoverLast).enabled = true := by decide +kernel
  have enabled' : (hovered hoverFirst).enabled = true := by decide +kernel
  have same := determined () columns .standard hoverFirst hoverFirst_stateless hovered_model
    (enabled.trans enabled'.symm) rfl hovered_hears
  change (hovered hoverLast).hot = if (hovered hoverLast).enabled then _ else _ at current
  rw [if_pos enabled] at current
  exact ⟨hoverLast_stateless, there, current.symm.trans there, same.symm.trans there⟩

end Demo

end Charting
