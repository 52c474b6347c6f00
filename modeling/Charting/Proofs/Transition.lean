import Charting.Proofs.Attempts
import Charting.Proofs.DataSets
import Charting.Proofs.Upkeep

namespace Charting

variable {H : Host}

def Operation.pointer (op : Operation H) (before : Option (Point H.Length)) : Option (Point H.Length) :=
  match op with
  | .pointerMove p => some p
  | .pointerLeave => none
  | _ => before

def Operation.tooltip (op : Operation H) (before : Option H.Tooltip) : Option H.Tooltip :=
  match op with
  | .setTooltip tooltip | .dispatch (.setTooltip tooltip) => tooltip
  | _ => before

structure Operation.Still (op : Operation H) : Prop where
  pointer : op.pointer = id
  tooltip : op.tooltip = id

theorem Operation.dispatch_still {request : Request H.Tooltip} (other : ∀ tooltip, request ≠ .setTooltip tooltip) :
    (dispatch request).Still := by
  cases request with
  | setTooltip tooltip => exact absurd rfl (other tooltip)
  | _ => exact ⟨rfl, rfl⟩

namespace Request

def place? (index : Int64) : Option Nat :=
  if index.toInt < 0 then none else some index.toInt.toNat

def selector? (axis : Int32) : Option AxisSelector :=
  (AxisSelector.ofNumber axis.toInt).toOption

-- The operation that a message stands for; none if it only asks for something or names what cannot be.
def operation : Request H.Tooltip → Option (Operation H)
  | .deleteAllDataSets => some .deleteAllDataSets
  | .insertDataSet index contents => (place? index).map (.insertDataSet · contents)
  | .deleteDataSet index => (place? index).map .deleteDataSet
  | .setDataSet index contents => (place? index).map (.setDataSet · contents)
  | .setDataSetColor index color => (place? index).map (.setDataSetColor · color)
  | .setDataSetLegend index legend => (place? index).map (.setDataSetLegend · legend)
  | .setExponent axis exponent => (selector? axis).map (.setExponent · exponent.toInt)
  | .setOffset axis offset => (selector? axis).map (.setOffset · offset)
  | .setAxisName axis name => (selector? axis).map (.setAxisName · name)
  | .setTooltip tooltip => some (.setTooltip tooltip)
  | _ => none

end Request

namespace Chart

inductive Restyled : TooltipSlot H.Length H.Tooltip → Bool → TooltipSlot H.Length H.Tooltip → Bool → Prop where
  | made (shown : Bool) : Restyled .empty shown (.tracking .hidden) shown
  | gone (t : TrackingTooltip H.Length) (shown : Bool) : Restyled (.tracking t) shown .empty false
  | kept (slot : TooltipSlot H.Length H.Tooltip) (shown : Bool) : Restyled slot shown slot shown

-- What a chart shows or reacts to is replaced, before it looks anew at what is under the pointer.
inductive Revision (c : Chart H) : Chart H → Prop where
  | data (data : List DataSet) (sound : (∀ d ∈ c.data, d.Sound) → ∀ d ∈ data, d.Sound) :
      Revision c { c with data }
  | axes (primary secondary : Axis)
      (checked : c.primary.InRange ∧ c.secondary.InRange → primary.InRange ∧ secondary.InRange) :
      Revision c { c with primary, secondary }
  | style (style : ChartStyle) (tooltip : TooltipSlot H.Length H.Tooltip) (tooltipShown : Bool)
      (restyled : Restyled c.tooltip c.tooltipShown tooltip tooltipShown) :
      Revision c { c with style, tooltip, tooltipShown }
  | config (config : Config H.Length) : Revision c { c with config }
  | title (title : String) : Revision c { c with title }
  | enabled (enabled : Bool) : Revision c { c with enabled }
  | size (size : Size H.Length) : Revision c { c with size, surface := none, deadline := none }

-- All that an operation can do, as a call or as a message: ask the objects lent to the chart, revise what it shows, or
-- be one of a few special cases. An invariant is proved case by case here, without a look at the operations.
inductive Transition (c : Chart H) : Operation H → Chart H → Prop where
  | consult {op : Operation H} {d : Chart H} (still : op.Still) (consulted : c.Consulted d) : Transition c op d
  | revise {op : Operation H} {d : Chart H} (still : op.Still) (revised : c.Revision d) :
      Transition c op d.changed
  | recolor {op : Operation H} (still : op.Still) (index : Nat) (color : Option Color) :
      Transition c op { c with data := c.data.modify index ({ · with color }) }.invalidate
  | setTooltip {op : Operation H} (away : op.pointer = id) (tooltip : Option H.Tooltip)
      (lends : op.tooltip = fun _ => tooltip) : Transition c op (c.setTooltip tooltip).2
  | setSupplier (supplier : Option H.Source) : Transition c (.setSupplier supplier) { c with supplier }.changed
  | setMeasurer (measurer : H.Measurer) :
      Transition c (.setMeasurer measurer) { c with measurer := .lent measurer }.changed
  | setRedraw (redraw : Bool) : Transition c (.setRedraw redraw) (c.setRedraw redraw)
  | invalidateRect (rect : Rect H.Length) : Transition c (.invalidateRect rect) (c.invalidateRect rect)
  | displayChanged : Transition c .displayChanged c.displayChanged
  | pointerMove (p : Point H.Length) : Transition c (.pointerMove p) (c.pointerMove p)
  | pointerLeave : Transition c .pointerLeave c.pointerLeave
  | onTimer (now : Nat) : Transition c (.onTimer now) (c.onTimer now).2
  | paint (now : Nat) : Transition c (.paint now) (c.paint now)

theorem restyled_slotFor (style : ChartStyle) (slot : TooltipSlot H.Length H.Tooltip) (shown : Bool) :
    Restyled slot shown (slotFor style slot)
      (match slot, style.tooltips with
        | .tracking _, false => false
        | _, _ => shown) := by
  unfold slotFor
  cases slot <;> cases style.tooltips <;> constructor

theorem rawIndex_toOption (index : Int64) (c : Chart H) :
    (c.rawIndex index).toOption = Request.place? index := by
  unfold rawIndex Request.place?
  split <;> rfl

theorem serve_done {β γ : Type} (reading : Except Refusal β) (act : β → Attempt (Chart H) γ)
    (answer : γ → Reply H.Tooltip) (op : β → Operation H) (desk : Desk H)
    (acts : ∀ b, desk.chart.step (op b) = (act b desk.chart).2) :
    ((do return answer (← Desk.handle (act (← reading))) : Attempt (Desk H) (Reply H.Tooltip)) desk).2.chart =
      (reading.toOption.map op).elim desk.chart desk.chart.step := by
  cases reading with
  | error refusal => rfl
  | ok b =>
    change ((Desk.handle (act b) >>= fun g => pure (answer g) : Attempt (Desk H) (Reply H.Tooltip)) desk).2.chart =
      desk.chart.step (op b)
    rw [Attempt.bind_eq, acts]
    unfold Desk.handle
    obtain ⟨result, c⟩ := act b desk.chart
    cases result <;> rfl

theorem serve_asked {β γ : Type} (reading : Except Refusal β) (find : β → Except Refusal γ) (desk : Desk H)
    {answer : γ → Attempt (Desk H) (Reply H.Tooltip)}
    (leaves : ∀ g, (answer g desk).2.chart = desk.chart) :
    ((do answer (← find (← reading)) : Attempt (Desk H) (Reply H.Tooltip)) desk).2.chart = desk.chart := by
  cases reading with
  | error refusal => rfl
  | ok b =>
    change ((liftM (find b) >>= answer : Attempt (Desk H) (Reply H.Tooltip)) desk).2.chart = desk.chart
    cases find b with
    | error refusal => rfl
    | ok g => exact leaves g

theorem step_dispatch (request : Request H.Tooltip) (c : Chart H) :
    c.step (.dispatch request) = request.operation.elim c c.step := by
  let desk : Desk H := ⟨c, request.buffer⟩
  have place := fun index => rawIndex_toOption index c
  change (settle .reply (c.dispatch request)).2 = _
  rw [settle_chart]
  change (Desk.serve request desk).2.chart = _
  cases request with
  | getDataSetCount | deleteAllDataSets | getTooltip | setTooltip => rfl
  | getDataSet index | getDataSetColor index | getDataSetLegend index =>
    exact serve_asked (c.rawIndex index) c.dataSet desk fun _ => rfl
  | getExponent axis | getOffset axis | getAxisName axis =>
    exact serve_asked (rawAxis axis) c.axis desk fun _ => rfl
  | insertDataSet index contents =>
    rw [Request.operation, ← place]
    exact serve_done _ (insertDataSet · contents) .count _ desk fun _ => settle_chart _ _
  | deleteDataSet index =>
    rw [Request.operation, ← place]
    exact serve_done _ deleteDataSet (fun _ => .done) _ desk fun _ => settle_chart _ _
  | setDataSet index contents =>
    rw [Request.operation, ← place]
    exact serve_done _ (setDataSet · contents) (fun _ => .done) _ desk fun _ => settle_chart _ _
  | setDataSetColor index color =>
    rw [Request.operation, ← place]
    exact serve_done _ (setDataSetColor · color) (fun _ => .done) _ desk fun _ => settle_chart _ _
  | setDataSetLegend index legend =>
    rw [Request.operation, ← place]
    exact serve_done _ (setDataSetLegend · legend) (fun _ => .done) _ desk fun _ => settle_chart _ _
  | setExponent axis exponent =>
    exact serve_done (rawAxis axis) (setExponent · exponent.toInt) (fun _ => .done) _ desk fun _ => settle_chart _ _
  | setOffset axis offset =>
    exact serve_done (rawAxis axis) (setOffset · offset) (fun _ => .done) _ desk fun _ => settle_chart _ _
  | setAxisName axis name =>
    exact serve_done (rawAxis axis) (setAxisName · name) (fun _ => .done) _ desk fun _ => settle_chart _ _

variable {c : Chart H} {op : Operation H}

theorem checked_transition {valid : Prop} [Decidable valid] {d : Chart H} (still : op.Still)
    (ok : valid → c.Transition op d) : c.Transition op (if valid then d else c) := by
  by_cases checked : valid
  · rw [if_pos checked]
    exact ok checked
  · rw [if_neg checked]
    exact .consult still (.refl c)

theorem insertDataSet_transition (still : op.Still) (index : Nat) (contents : Contents) :
    c.Transition op (c.step (.insertDataSet index contents)) := by
  rw [step_insertDataSet]
  split
  · exact .consult still (.refl c)
  · rename_i filled
    refine .revise still (.data _ ?_)
    intro sound d present
    rcases (List.mem_insertIdx (Nat.min_le_right _ _)).mp present with rfl | old
    · exact DataSet.sound_ofContents filled
    · exact sound d old

theorem deleteDataSet_transition (still : op.Still) (index : Nat) :
    c.Transition op (c.step (.deleteDataSet index)) := by
  rw [step_deleteDataSet]
  refine checked_transition still fun _ => .revise still (.data _ ?_)
  intro sound d present
  exact sound d (List.mem_of_mem_eraseIdx present)

theorem deleteAllDataSets_transition (still : op.Still) :
    c.Transition op (c.step .deleteAllDataSets) :=
  .revise still (.data [] fun _ _ present => nomatch present)

theorem setDataSet_transition (still : op.Still) (index : Nat) (contents : Contents) :
    c.Transition op (c.step (.setDataSet index contents)) := by
  rw [step_setDataSet]
  refine checked_transition still fun _ => ?_
  split
  · exact .consult still (.refl c)
  · rename_i filled
    exact .revise still (.data _ (DataSet.sound_modify index fun _ sound => sound.replace filled))

theorem setDataSetColor_transition (still : op.Still) (index : Nat) (color : Option Color) :
    c.Transition op (c.step (.setDataSetColor index color)) := by
  rw [step_setDataSetColor]
  exact checked_transition still fun _ => .recolor still index color

theorem setDataSetLegend_transition (still : op.Still) (index : Nat) (legend : Option String) :
    c.Transition op (c.step (.setDataSetLegend index legend)) := by
  rw [step_setDataSetLegend]
  refine checked_transition still fun _ => .revise still (.data _ ?_)
  exact DataSet.sound_modify index fun _ sound => ⟨sound.filled, sound.held⟩

theorem setExponent_transition (still : op.Still) (selector : AxisSelector) (exponent : Int) :
    c.Transition op (c.step (.setExponent selector exponent)) := by
  rw [step_setExponent]
  refine checked_transition still fun bounds => .revise still (.axes _ _ ?_)
  rintro ⟨primary, secondary⟩
  constructor
  · split
    · exact primary
    · exact bounds
  · split
    · exact secondary
    · exact bounds

theorem adjusted_transition (still : op.Still) (selector : AxisSelector) {f : Axis → Axis}
    (keeps : ∀ a, (f a).exponent = a.exponent) : c.Transition op (c.adjusted selector f).2 := by
  have bounds : ∀ a : Axis, a.InRange → (f a).InRange := fun a bounds => by
    unfold Axis.InRange
    rw [keeps]
    exact bounds
  cases selector with
  | both => exact .consult still (.refl c)
  | primary => exact .revise still (.axes _ _ fun valid => ⟨bounds _ valid.1, valid.2⟩)
  | secondary => exact .revise still (.axes _ _ fun valid => ⟨valid.1, bounds _ valid.2⟩)

theorem setOffset_transition (still : op.Still) (selector : AxisSelector) (offset : Int32) :
    c.Transition op (c.step (.setOffset selector offset)) := by
  rw [step_setOffset]
  exact adjusted_transition still selector fun _ => rfl

theorem setAxisName_transition (still : op.Still) (selector : AxisSelector) (name : Option String) :
    c.Transition op (c.step (.setAxisName selector name)) := by
  rw [step_setAxisName]
  exact adjusted_transition still selector fun _ => rfl

theorem mapped_transition {β : Type} (still : op.Still) (parameter : Option β) {act : β → Operation H}
    (acts : ∀ b, c.Transition op (c.step (act b))) : c.Transition op ((parameter.map act).elim c c.step) := by
  cases parameter with
  | none => exact .consult still (.refl c)
  | some b => exact acts b

theorem dispatch_transition (request : Request H.Tooltip) (c : Chart H) :
    c.Transition (.dispatch request) (c.step (.dispatch request)) := by
  have still : (∀ tooltip, request ≠ .setTooltip tooltip) → Operation.Still (.dispatch request) :=
    Operation.dispatch_still
  rw [step_dispatch]
  cases request with
  | getDataSetCount | getDataSet | getDataSetColor | getDataSetLegend | getExponent | getOffset | getAxisName
  | getTooltip => exact .consult (still nofun) (.refl c)
  | deleteAllDataSets => exact deleteAllDataSets_transition (still nofun)
  | setTooltip tooltip => exact .setTooltip rfl tooltip rfl
  | insertDataSet index contents =>
    exact mapped_transition (still nofun) _ fun place => insertDataSet_transition (still nofun) place contents
  | deleteDataSet index =>
    exact mapped_transition (still nofun) _ fun place => deleteDataSet_transition (still nofun) place
  | setDataSet index contents =>
    exact mapped_transition (still nofun) _ fun place => setDataSet_transition (still nofun) place contents
  | setDataSetColor index color =>
    exact mapped_transition (still nofun) _ fun place => setDataSetColor_transition (still nofun) place color
  | setDataSetLegend index legend =>
    exact mapped_transition (still nofun) _ fun place => setDataSetLegend_transition (still nofun) place legend
  | setExponent axis exponent =>
    exact mapped_transition (still nofun) _ fun selector => setExponent_transition (still nofun) selector exponent.toInt
  | setOffset axis offset =>
    exact mapped_transition (still nofun) _ fun selector => setOffset_transition (still nofun) selector offset
  | setAxisName axis name =>
    exact mapped_transition (still nofun) _ fun selector => setAxisName_transition (still nofun) selector name

theorem step_transition (op : Operation H) (c : Chart H) : c.Transition op (c.step op) := by
  cases op with
  | insertDataSet index contents => exact insertDataSet_transition ⟨rfl, rfl⟩ index contents
  | deleteDataSet index => exact deleteDataSet_transition ⟨rfl, rfl⟩ index
  | deleteAllDataSets => exact deleteAllDataSets_transition ⟨rfl, rfl⟩
  | setDataSet index contents => exact setDataSet_transition ⟨rfl, rfl⟩ index contents
  | setDataSetColor index color => exact setDataSetColor_transition ⟨rfl, rfl⟩ index color
  | setDataSetLegend index legend => exact setDataSetLegend_transition ⟨rfl, rfl⟩ index legend
  | setSupplier supplier => exact .setSupplier supplier
  | setExponent selector exponent => exact setExponent_transition ⟨rfl, rfl⟩ selector exponent
  | setOffset selector offset => exact setOffset_transition ⟨rfl, rfl⟩ selector offset
  | setAxisName selector name => exact setAxisName_transition ⟨rfl, rfl⟩ selector name
  | setStyle style => exact .revise ⟨rfl, rfl⟩ (.style style _ _ (restyled_slotFor style c.tooltip c.tooltipShown))
  | setConfig config => exact .revise ⟨rfl, rfl⟩ (.config config)
  | setTitle title => exact .revise ⟨rfl, rfl⟩ (.title title)
  | setTextStyle textStyle => exact .revise ⟨rfl, rfl⟩ (.config { c.config with textStyle })
  | setMeasurer measurer => exact .setMeasurer measurer
  | setEnabled enabled => exact .revise ⟨rfl, rfl⟩ (.enabled enabled)
  | setRedraw redraw => exact .setRedraw redraw
  | setTooltip tooltip => exact .setTooltip rfl tooltip rfl
  | hitTest p => exact .consult ⟨rfl, rfl⟩ (hitTest_consulted p c)
  | layOut => exact .consult ⟨rfl, rfl⟩ c.layOut_consulted
  | grid => exact .consult ⟨rfl, rfl⟩ c.grid_consulted
  | pointerMove p => exact .pointerMove p
  | pointerLeave => exact .pointerLeave
  | resize size =>
    change c.Transition _ (c.resize size)
    unfold resize
    split
    · exact .consult ⟨rfl, rfl⟩ (.refl c)
    · exact .revise ⟨rfl, rfl⟩ (.size size)
  | displayChanged => exact .displayChanged
  | invalidateRect rect => exact .invalidateRect rect
  | onTimer now => exact .onTimer now
  | paint now => exact .paint now
  | print target => exact .consult ⟨rfl, rfl⟩ (print_consulted target c)
  | dispatch request => exact dispatch_transition request c

-- What every operation keeps, a run keeps.
theorem run_induction {motive : Chart H → Prop} {ops : List (Operation H)} (start : motive c)
    (steps : ∀ op ∈ ops, ∀ c d : Chart H, c.Transition op d → motive c → motive d) : motive (c.run ops) := by
  induction ops generalizing c with
  | nil => exact start
  | cons op rest ih =>
    have next := steps op (by simp) c (c.step op) (step_transition op c) start
    exact ih next fun later member => steps later (by simp [member])

theorem run_concat (ops : List (Operation H)) (op : Operation H) (c : Chart H) :
    c.run (ops ++ [op]) = (c.run ops).step op := by
  unfold run
  rw [List.foldl_append]
  rfl

theorem run_history {motive : List (Operation H) → Chart H → Prop} (start : motive [] c)
    (steps : ∀ past op, motive past (c.run past) → motive (past ++ [op]) ((c.run past).step op))
    (ops : List (Operation H)) : motive ops (c.run ops) := by
  have onward : ∀ rest past, motive past (c.run past) → motive (past ++ rest) (c.run (past ++ rest)) := by
    intro rest
    induction rest with
    | nil =>
      intro past before
      rw [List.append_nil]
      exact before
    | cons op rest ih =>
      intro past before
      rw [List.append_cons]
      refine ih (past ++ [op]) ?_
      rw [run_concat]
      exact steps past op before
  exact onward ops [] start

end Chart

end Charting
