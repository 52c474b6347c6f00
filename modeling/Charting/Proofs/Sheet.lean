import Charting.Demo
import Charting.Proofs.WellFormed

namespace Charting

structure Record where
  count : Nat
  values : Option (List Int32)
  color : Option Color := none
  legend : Option String := none

def Record.given : Contents → Record
  | .stored values => { count := values.size, values := some values.toList }
  | .virtual count => { count, values := none }

def Record.ofDataSet (d : DataSet) : Record where
  count := d.count
  values := d.values.map Array.toList
  color := d.color
  legend := d.legend

def Record.copy {T : Type} (buffer : Option (Array Int32)) (r : Record) : Reply T :=
  match buffer, r.values with
  | some buffer, some values =>
    .dataSet r.count (min buffer.size values.length)
      (some (values.take buffer.size ++ buffer.toList.drop values.length).toArray)
  | buffer, _ => .dataSet r.count 0 buffer

structure Sheet where
  records : List Record := []
  primary : Axis := {}
  secondary : Axis := {}

namespace Sheet

variable {H : Host}

def amend (index : Nat) (f : Record → Record) (s : Sheet) : Sheet :=
  { s with records := s.records.mapIdx fun i r => if i = index then f r else r }

def adjust (selector : AxisSelector) (f : Axis → Axis) (s : Sheet) : Sheet :=
  match selector with
  | .both => { s with primary := f s.primary, secondary := f s.secondary }
  | .primary => { s with primary := f s.primary }
  | .secondary => { s with secondary := f s.secondary }

-- What a call does. What has no values is refused, and so is an exponent out of bounds, and one offset or name for
-- both axes; most operations are none of the sheet's business.
def act (op : Operation H) (s : Sheet) : Sheet :=
  match op with
  | .insertDataSet index contents =>
    let place := min index s.records.length
    if (Record.given contents).count = 0 then s
    else { s with records := s.records.take place ++ Record.given contents :: s.records.drop place }
  | .deleteDataSet index => { s with records := s.records.take index ++ s.records.drop (index + 1) }
  | .deleteAllDataSets => { s with records := [] }
  | .setDataSet index contents =>
    if (Record.given contents).count = 0 then s
    else s.amend index fun r => { Record.given contents with color := r.color, legend := r.legend }
  | .setDataSetColor index color => s.amend index ({ · with color })
  | .setDataSetLegend index legend => s.amend index ({ · with legend })
  | .setExponent selector exponent =>
    if -9 ≤ exponent ∧ exponent ≤ 9 then s.adjust selector ({ · with exponent }) else s
  | .setOffset selector offset => if selector = .both then s else s.adjust selector ({ · with offset })
  | .setAxisName selector name => if selector = .both then s else s.adjust selector ({ · with name })
  | _ => s

def step (s : Sheet) (op : Operation H) : Sheet :=
  match op with
  | .dispatch request => request.operation.elim s s.act
  | op => s.act op

def run (s : Sheet) (ops : List (Operation H)) : Sheet :=
  ops.foldl step s

def record? (index : Int64) (s : Sheet) : Option Record :=
  (Request.place? index).bind (s.records[·]?)

def axis? (axis : Int32) (s : Sheet) : Option Axis :=
  (Request.selector? axis).bind fun
    | .both => none
    | .primary => some s.primary
    | .secondary => some s.secondary

-- What a message that is not refused is answered with. What a tooltip has to do with it is told from outside: whose the
-- bubble is, and which one was lent before.
def reply? (source : Option TooltipSource) (previous : Option H.Tooltip) (s : Sheet) :
    Request H.Tooltip → Option (Reply H.Tooltip)
  | .getDataSetCount => some (.count s.records.length)
  | .insertDataSet index _ => (Request.place? index).map fun place => .count (min place s.records.length)
  | .getDataSet index buffer => (s.record? index).map (Record.copy buffer)
  | .getDataSetColor index => (s.record? index).map (.color ·.color)
  | .getDataSetLegend index => (s.record? index).map (.text ·.legend)
  | .getExponent axis => (s.axis? axis).map (.number ·.exponent)
  | .getOffset axis => (s.axis? axis).map (.number ·.offset.toInt)
  | .getAxisName axis => (s.axis? axis).map (.text ·.name)
  | .getTooltip => some (.tooltipSource source)
  | .setTooltip _ => some (.tooltip previous)
  | _ => some .done

end Sheet

theorem Sheet.amend_absent {s : Sheet} {index : Nat} (absent : s.records.length ≤ index) (f : Record → Record) :
    s.amend index f = s := by
  have same : s.records.mapIdx (fun i r => if i = index then f r else r) = s.records := by
    apply List.ext_getElem?
    intro i
    rw [List.getElem?_mapIdx]
    cases found : s.records[i]? with
    | none => rfl
    | some r =>
      have bound := (List.getElem?_eq_some_iff.mp found).1
      rw [Option.map_some, if_neg (by omega)]
  rw [amend, same]

theorem Record.given_count (contents : Contents) : (given contents).count = contents.count := by
  cases contents <;> rfl

theorem Record.ofDataSet_ofContents (contents : Contents) : ofDataSet (.ofContents contents) = given contents := by
  cases contents <;> rfl

theorem Record.ofDataSet_replace {d : DataSet} (sound : d.Sound) (contents : Contents) :
    ofDataSet (d.replace contents) = { given contents with color := d.color, legend := d.legend } := by
  rw [DataSet.replace_eq sound]
  cases contents <;> rfl

theorem Record.map_modify {data : List DataSet} (index : Nat) {f : DataSet → DataSet} {g : Record → Record}
    (same : ∀ d ∈ data, ofDataSet (f d) = g (ofDataSet d)) :
    (data.modify index f).map ofDataSet =
      (data.map ofDataSet).mapIdx fun i r => if i = index then g r else r := by
  apply List.ext_getElem?
  intro i
  rw [List.getElem?_map, List.getElem?_modify, List.getElem?_mapIdx, List.getElem?_map]
  cases found : data[i]? with
  | none => rfl
  | some d =>
    have changed := same d (List.mem_of_getElem? found)
    change some (ofDataSet (if index = i then f d else d)) = some (if i = index then g (ofDataSet d) else ofDataSet d)
    by_cases here : i = index
    · rw [if_pos here, if_pos here.symm, changed]
    · rw [if_neg here, if_neg (Ne.symm here)]

theorem insertIdx_eq {α : Type} {list : List α} {place : Nat} (bound : place ≤ list.length) (a : α) :
    list.insertIdx place a = list.take place ++ a :: list.drop place := by
  induction list generalizing place with
  | nil =>
    obtain rfl : place = 0 := by simpa using bound
    rfl
  | cons head rest ih =>
    cases place with
    | zero => rfl
    | succ place => simpa using ih (Nat.le_of_succ_le_succ bound)

theorem Record.map_insertIdx (data : List DataSet) (index : Nat) (contents : Contents) :
    (data.insertIdx (min index data.length) (.ofContents contents)).map ofDataSet =
      (data.map ofDataSet).take (min index data.length) ++
        given contents :: (data.map ofDataSet).drop (min index data.length) := by
  rw [insertIdx_eq (Nat.min_le_right _ _), List.map_append, List.map_cons, ofDataSet_ofContents, List.map_take,
    List.map_drop]

theorem Record.map_eraseIdx (data : List DataSet) (index : Nat) :
    (data.eraseIdx index).map ofDataSet =
      (data.map ofDataSet).take index ++ (data.map ofDataSet).drop (index + 1) := by
  rw [List.eraseIdx_eq_take_drop_succ, List.map_append, List.map_take, List.map_drop]

namespace Chart

variable {H : Host}

def sheet (c : Chart H) : Sheet where
  records := c.data.map Record.ofDataSet
  primary := c.primary
  secondary := c.secondary

variable {c d : Chart H}

theorem sheet_of_model (same : d.model = c.model) : d.sheet = c.sheet := by
  have data : d.data = c.data := congrArg Model.data same
  have primary : d.primary = c.primary := congrArg Model.primary same
  have secondary : d.secondary = c.secondary := congrArg Model.secondary same
  rw [sheet, sheet, data, primary, secondary]

theorem changed_sheet (c : Chart H) : c.changed.sheet = c.sheet :=
  sheet_of_model c.changed_turned.1.model

theorem invalidateRect_sheet (rect : Rect H.Length) (c : Chart H) : (c.invalidateRect rect).sheet = c.sheet :=
  sheet_of_model (invalidateRect_touched rect c).model

theorem insertDataSet_sheet (index : Nat) (contents : Contents) (c : Chart H) :
    (c.step (.insertDataSet index contents)).sheet = c.sheet.act (H := H) (.insertDataSet index contents) := by
  rw [step_insertDataSet, Sheet.act, Record.given_count]
  split
  · rfl
  · rw [changed_sheet]
    simp only [sheet, Record.map_insertIdx, List.length_map]

theorem checked_sheet {index : Nat} {s : Sheet} (present : d.sheet = s)
    (absent : c.data.length ≤ index → c.sheet = s) : (if index < c.data.length then d else c).sheet = s := by
  split
  · exact present
  · rename_i outside
    exact absent (Nat.le_of_not_lt outside)

theorem amended_sheet {index : Nat} {f : DataSet → DataSet} {g : Record → Record}
    (same : ∀ d ∈ c.data, Record.ofDataSet (f d) = g (Record.ofDataSet d)) :
    { c with data := c.data.modify index f }.sheet = c.sheet.amend index g := by
  change Sheet.mk ((c.data.modify index f).map Record.ofDataSet) c.primary c.secondary = _
  rw [Record.map_modify index same]
  rfl

theorem absent_sheet {index : Nat} (absent : c.data.length ≤ index) (g : Record → Record) :
    c.sheet = c.sheet.amend index g :=
  (Sheet.amend_absent (by simpa [sheet] using absent) g).symm

theorem deleteDataSet_sheet (index : Nat) (c : Chart H) :
    (c.step (.deleteDataSet index)).sheet = c.sheet.act (H := H) (.deleteDataSet index) := by
  have erased : { c with data := c.data.eraseIdx index }.sheet = c.sheet.act (H := H) (.deleteDataSet index) := by
    simp only [sheet, Sheet.act, Record.map_eraseIdx]
  rw [step_deleteDataSet]
  refine checked_sheet ((changed_sheet _).trans erased) ?_
  intro absent
  rw [List.eraseIdx_of_length_le absent] at erased
  exact erased

theorem setDataSet_sheet (sound : c.Sound) (index : Nat) (contents : Contents) :
    (c.step (.setDataSet index contents)).sheet = c.sheet.act (H := H) (.setDataSet index contents) := by
  have amended : { c with data := c.data.modify index (DataSet.replace contents) }.sheet =
      c.sheet.amend index fun r => { Record.given contents with color := r.color, legend := r.legend } :=
    amended_sheet fun d present => Record.ofDataSet_replace (sound.data d present) contents
  rw [step_setDataSet, Sheet.act, Record.given_count]
  by_cases empty : contents.count = 0
  · simp only [if_pos empty]
    split <;> rfl
  · simp only [if_neg empty]
    exact checked_sheet ((changed_sheet _).trans amended) (absent_sheet · _)

theorem setDataSetColor_sheet (index : Nat) (color : Option Color) (c : Chart H) :
    (c.step (.setDataSetColor index color)).sheet = c.sheet.act (H := H) (.setDataSetColor index color) := by
  rw [step_setDataSetColor]
  exact checked_sheet ((invalidateRect_sheet _ _).trans (amended_sheet fun _ _ => rfl)) (absent_sheet · _)

theorem setDataSetLegend_sheet (index : Nat) (legend : Option String) (c : Chart H) :
    (c.step (.setDataSetLegend index legend)).sheet = c.sheet.act (H := H) (.setDataSetLegend index legend) := by
  rw [step_setDataSetLegend]
  exact checked_sheet ((changed_sheet _).trans (amended_sheet fun _ _ => rfl)) (absent_sheet · _)

theorem setExponent_sheet (selector : AxisSelector) (exponent : Int) (c : Chart H) :
    (c.step (.setExponent selector exponent)).sheet = c.sheet.act (H := H) (.setExponent selector exponent) := by
  rw [step_setExponent, Sheet.act]
  by_cases bounds : Axis.lowestExponent ≤ exponent ∧ exponent ≤ Axis.highestExponent
  · rw [if_pos bounds, if_pos (show -9 ≤ exponent ∧ exponent ≤ 9 from bounds)]
    rw [changed_sheet]
    cases selector <;> rfl
  · rw [if_neg bounds, if_neg (show ¬(-9 ≤ exponent ∧ exponent ≤ 9) from bounds)]

theorem adjusted_sheet (selector : AxisSelector) (f : Axis → Axis) (c : Chart H) :
    (c.adjusted selector f).2.sheet = if selector = .both then c.sheet else c.sheet.adjust selector f := by
  cases selector with
  | both => rfl
  | primary | secondary => exact changed_sheet _

theorem act_sheet (sound : c.Sound) (op : Operation H) (call : ∀ request, op ≠ .dispatch request) :
    (c.step op).sheet = c.sheet.act op := by
  cases op with
  | insertDataSet index contents => exact insertDataSet_sheet index contents c
  | deleteDataSet index => exact deleteDataSet_sheet index c
  | deleteAllDataSets => exact changed_sheet { c with data := [] }
  | setDataSet index contents => exact setDataSet_sheet sound index contents
  | setDataSetColor index color => exact setDataSetColor_sheet index color c
  | setDataSetLegend index legend => exact setDataSetLegend_sheet index legend c
  | setExponent selector exponent => exact setExponent_sheet selector exponent c
  | setOffset selector offset =>
    rw [step_setOffset]
    exact adjusted_sheet selector ({ · with offset }) c
  | setAxisName selector name =>
    rw [step_setAxisName]
    exact adjusted_sheet selector ({ · with name }) c
  | setSupplier | setStyle | setConfig | setTitle | setTextStyle | setMeasurer | setEnabled => exact changed_sheet _
  | setRedraw | invalidateRect => exact invalidateRect_sheet _ _
  | setTooltip tooltip => exact sheet_of_model (setTooltip_told tooltip c).turned.model
  | hitTest p => exact sheet_of_model (hitTest_consulted p c).touched.model
  | layOut => exact sheet_of_model c.layOut_consulted.touched.model
  | grid => exact sheet_of_model c.grid_consulted.touched.model
  | print target => exact sheet_of_model (print_consulted target c).touched.model
  | pointerMove p => exact sheet_of_model (pointerMove_turned p c).model
  | pointerLeave => exact sheet_of_model c.pointerLeave_turned.model
  | resize size =>
    change (c.resize size).sheet = _
    unfold resize
    split
    · rfl
    · exact changed_sheet _
  | displayChanged => exact sheet_of_model c.displayChanged_touched.model
  | onTimer now => exact sheet_of_model (onTimer_touched now c).model
  | paint now => exact sheet_of_model (paint_touched now c).model
  | dispatch request => exact absurd rfl (call request)

theorem operation_call {request : Request H.Tooltip} {op : Operation H} (stands : request.operation = some op)
    (other : Request H.Tooltip) : op ≠ .dispatch other := by
  rintro rfl
  cases request with
  | deleteAllDataSets | setTooltip => cases stands
  | insertDataSet | deleteDataSet | setDataSet | setDataSetColor | setDataSetLegend | setExponent | setOffset
  | setAxisName =>
    obtain ⟨_, _, impossible⟩ := Option.map_eq_some_iff.mp stands
    cases impossible
  | getDataSetCount | getDataSet | getDataSetColor | getDataSetLegend | getExponent | getOffset | getAxisName
  | getTooltip => cases stands

theorem step_sheet (sound : c.Sound) (op : Operation H) : (c.step op).sheet = c.sheet.step op := by
  cases op with
  | dispatch request =>
    rw [step_dispatch, Sheet.step]
    cases stands : request.operation with
    | none => rfl
    | some op => exact act_sheet sound op (operation_call stands)
  | _ => exact act_sheet sound _ nofun

theorem WellFormed.sheet_run (wellFormed : c.WellFormed) (ops : List (Operation H)) :
    (c.run ops).sheet = c.sheet.run ops := by
  induction ops generalizing c with
  | nil => rfl
  | cons op rest ih =>
    have next := (step_transition op c).wellFormed wellFormed
    change ((c.step op).run rest).sheet = (c.sheet.step op).run rest
    rw [ih next, step_sheet wellFormed.toSound op]

theorem record_found (index : Int64) (c : Chart H) :
    c.sheet.record? index =
      ((c.rawIndex index).toOption.bind fun place => (c.dataSet place).toOption).map Record.ofDataSet := by
  unfold Sheet.record?
  rw [rawIndex_toOption]
  cases Request.place? index with
  | none => rfl
  | some place =>
    change (c.data.map Record.ofDataSet)[place]? = (c.dataSet place).toOption.map Record.ofDataSet
    rw [List.getElem?_map, dataSet]
    cases c.data[place]? <;> rfl

theorem axis_found (axis : Int32) (c : Chart H) :
    c.sheet.axis? axis = (rawAxis axis).toOption.bind fun selector => (c.axis selector).toOption := by
  change (rawAxis axis).toOption.bind _ = _
  congr 1
  funext selector
  cases selector <;> rfl

variable {reply : Reply H.Tooltip}

theorem asked_reply {β γ : Type} {reading : Except Refusal β} {find : β → Except Refusal γ}
    {next : γ → Attempt (Desk H) (Reply H.Tooltip)} {answer : γ → Reply H.Tooltip} {desk : Desk H}
    (answers : ∀ g, (next g desk).1 = .ok (answer g))
    (ok : ((do next (← find (← reading)) : Attempt (Desk H) (Reply H.Tooltip)) desk).1 = .ok reply) :
    (reading.toOption.bind fun b => (find b).toOption).map answer = some reply := by
  cases reading with
  | error refusal => cases ok
  | ok b =>
    change ((liftM (find b) >>= next : Attempt (Desk H) (Reply H.Tooltip)) desk).1 = .ok reply at ok
    change (find b).toOption.map answer = some reply
    cases found : find b with
    | error refusal => rw [found] at ok; cases ok
    | ok g =>
      rw [found] at ok
      cases (answers g).symm.trans ok
      rfl

theorem done_reply {β γ : Type} {reading : Except Refusal β} (act : β → Attempt (Chart H) γ) (desk : Desk H)
    {answer : γ → Reply H.Tooltip}
    (ok : ((do return answer (← Desk.handle (act (← reading))) : Attempt (Desk H) (Reply H.Tooltip)) desk).1 =
      .ok reply) :
    ∃ b g, reading = .ok b ∧ (act b desk.chart).1 = .ok g ∧ answer g = reply := by
  cases reading with
  | error refusal => cases ok
  | ok b =>
    change ((Desk.handle (act b) >>= fun g => pure (answer g) : Attempt (Desk H) (Reply H.Tooltip)) desk).1 = _ at ok
    rw [Attempt.bind_eq] at ok
    unfold Desk.handle at ok
    cases acted : act b desk.chart with
    | mk result c =>
      rw [acted] at ok
      cases result with
      | error refusal => cases ok
      | ok g =>
        cases ok
        exact ⟨b, g, rfl, congrArg Prod.fst acted, rfl⟩

theorem fill_eq (buffer values : Array Int32) :
    (Request.fill buffer values).2 =
      (values.toList.take buffer.size ++ buffer.toList.drop values.toList.length).toArray := by
  apply Array.toList_inj.mp
  simp only [Request.fill, Array.toList_append, Array.toList_extract, List.extract_eq_take_drop, List.drop_zero,
    Nat.sub_zero, Array.length_toList]
  rcases Nat.le_total buffer.size values.size with short | long
  · rw [Nat.min_eq_left short, Nat.sub_self, List.take_zero, List.drop_eq_nil_of_le (by simpa using short)]
  · have whole : values.toList.take values.size = values.toList := List.take_of_length_le (by simp)
    have fits : values.toList.take buffer.size = values.toList := List.take_of_length_le (by simpa using long)
    have rest : (buffer.toList.drop values.size).take (buffer.size - values.size) = buffer.toList.drop values.size :=
      List.take_of_length_le (by simp)
    rw [Nat.min_eq_right long, whole, fits, rest]

theorem copy_ofDataSet (buffer : Option (Array Int32)) (d : DataSet) :
    (Record.ofDataSet d).copy buffer =
      (.dataSet d.count (copyValues d buffer).1 (copyValues d buffer).2 : Reply H.Tooltip) := by
  unfold Record.copy Record.ofDataSet copyValues
  cases buffer with
  | none => rfl
  | some buffer =>
    cases d.values with
    | none => rfl
    | some values =>
      dsimp only
      rw [fill_eq]
      rfl

theorem dispatch_reply {request : Request H.Tooltip} (ok : c.dispatch request = (.ok reply, d)) :
    c.sheet.reply? c.tooltip.source c.hideTooltip.tooltip.external? request = some reply := by
  let desk : Desk H := ⟨c, request.buffer⟩
  have served : (Desk.serve request desk).1 = .ok reply := congrArg Prod.fst ok
  cases request with
  | getDataSetCount => cases served; simp [Sheet.reply?, sheet, desk]
  | deleteAllDataSets | getTooltip => cases served; rfl
  | setTooltip tooltip => cases served; rfl
  | insertDataSet index contents =>
    obtain ⟨place, n, reading, inserted, rfl⟩ := done_reply (insertDataSet · contents) desk served
    rw [insertDataSet_eq] at inserted
    rw [Sheet.reply?, ← rawIndex_toOption index c, reading]
    by_cases empty : contents.count = 0
    · rw [if_pos empty] at inserted
      cases inserted
    · rw [if_neg empty] at inserted
      cases inserted
      simp [Except.toOption, sheet, desk]
  | getDataSet index buffer =>
    rw [Sheet.reply?, record_found, Option.map_map]
    have same : Record.copy buffer ∘ Record.ofDataSet =
        fun d : DataSet => (.dataSet d.count (copyValues d buffer).1 (copyValues d buffer).2 : Reply H.Tooltip) :=
      funext (copy_ofDataSet buffer)
    rw [same]
    exact asked_reply (fun _ => rfl) served
  | getDataSetColor index | getDataSetLegend index =>
    rw [Sheet.reply?, record_found, Option.map_map]
    exact asked_reply (fun _ => rfl) served
  | getExponent axis | getOffset axis | getAxisName axis =>
    rw [Sheet.reply?, axis_found]
    exact asked_reply (fun _ => rfl) served
  | deleteDataSet index | setDataSet index | setDataSetColor index | setDataSetLegend index =>
    obtain ⟨_, _, _, _, rfl⟩ := done_reply _ desk served
    rfl
  | setExponent axis | setOffset axis | setAxisName axis =>
    obtain ⟨_, _, _, _, rfl⟩ := done_reply _ desk served
    rfl

-- Whatever is done to a chart in whatever way, its data sets and axes are those of a plain list to which the same was
-- done, and a message that is not refused is answered from that list. In exchange for a tooltip comes the one lent
-- before, told to hide.
theorem run_sheet (service : H.Service) (style : ChartStyle) (config : Config H.Length) (ops : List (Operation H)) :
    let c := (withConfig service style config).run ops
    c.sheet = Sheet.run {} ops ∧
      ∀ request reply d, c.dispatch request = (.ok reply, d) →
        (Sheet.run {} ops).reply? c.tooltip.source c.hideTooltip.tooltip.external? request = some reply := by
  intro c
  have same : c.sheet = Sheet.run {} ops := (withConfig_wellFormed service style config).sheet_run ops
  refine ⟨same, ?_⟩
  intro request reply d ok
  rw [← same]
  exact dispatch_reply ok

end Chart

namespace Demo

def edits : List (Operation host) :=
  [.dispatch (.insertDataSet 5 (.stored #[12, 19])), .dispatch (.setDataSet 0 (.virtual months)),
    .setDataSet 0 (.stored #[8, 11, 9]), .dispatch (.setDataSet 0 (.stored #[-3, 4, 10])),
    .setTitle "Fruit", .dispatch (.setDataSetLegend 0 (some "Plums"))]

def edited : Chart host :=
  (Chart.withConfig (SvgScreen.mk none : host.Service) {} .standard).run edits

def question : Request host.Tooltip :=
  .getDataSet 0 (some #[0, 0])

theorem edited_sheet :
    edited.dispatch question = (.ok (.dataSet 3 2 (some #[-3, 4])), edited) ∧
      (Sheet.run {} edits).reply? edited.tooltip.source edited.hideTooltip.tooltip.external? question =
        some (.dataSet 3 2 (some #[-3, 4])) := by
  have answered : edited.dispatch question = (.ok (.dataSet 3 2 (some #[-3, 4])), edited) := by rfl
  exact ⟨answered, (Chart.run_sheet _ {} .standard edits).2 question _ _ answered⟩

end Demo

end Charting
