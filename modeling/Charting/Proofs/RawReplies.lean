import Charting.Proofs.Sheet

namespace Charting

theorem Reply.rawCount_nonneg (n : Nat) : 0 ≤ rawCount n := by
  unfold rawCount
  omega

theorem Reply.packed_nonneg (color : Color) : 0 ≤ packed color := by
  unfold packed
  omega

-- Messages whose reply is meant to tell by its number that they have not failed: those that change data sets or axes,
-- and those whose failure is a number below zero.
def Request.signals {T : Type} : Request T → Bool
  | .deleteAllDataSets | .insertDataSet _ _ | .deleteDataSet _ | .getDataSet _ _ | .setDataSet _ _
  | .getDataSetColor _ | .setDataSetColor _ _ | .setDataSetLegend _ _ | .getExponent _ | .setExponent _ _
  | .setOffset _ _ | .setAxisName _ _ => true
  | .getDataSetCount | .getDataSetLegend _ | .getOffset _ | .getAxisName _ | .getTooltip | .setTooltip _ => false

namespace Chart

variable {H : Host} {c d : Chart H} {reply : Reply H.Tooltip}

theorem color_served {index : Int64} (served : c.dispatch (.getDataSetColor index) = (.ok reply, d)) :
    ∃ data, c.data[index.toInt.toNat]? = some data ∧ reply = .color data.color := by
  obtain ⟨record, found, rfl⟩ := Option.map_eq_some_iff.mp (dispatch_reply served)
  obtain ⟨place, named, there⟩ := Option.bind_eq_some_iff.mp found
  change (c.data.map Record.ofDataSet)[place]? = some record at there
  rw [List.getElem?_map] at there
  obtain ⟨data, present, rfl⟩ := Option.map_eq_some_iff.mp there
  unfold Request.place? at named
  split at named
  · cases named
  · cases named
    exact ⟨data, present, rfl⟩

theorem axis_inRange (sound : c.Sound) {axis : Int32} {a : Axis} (found : c.sheet.axis? axis = some a) : a.InRange := by
  unfold Sheet.axis? at found
  obtain ⟨selector, _, one⟩ := Option.bind_eq_some_iff.mp found
  cases selector with
  | both => cases one
  | primary =>
    cases one
    exact sound.axes.1
  | secondary =>
    cases one
    exact sound.axes.2

theorem raw_ne_failureValue (sound : c.Sound) {request : Request H.Tooltip} (signals : request.signals = true)
    (other : ∀ index, request ≠ .getDataSetColor index) (served : c.dispatch request = (.ok reply, d)) :
    reply.raw ≠ request.failureValue := by
  have told := dispatch_reply served
  cases request with
  | getDataSetCount | getDataSetLegend | getOffset | getAxisName | getTooltip | setTooltip => cases signals
  | getDataSetColor index => exact absurd rfl (other index)
  | insertDataSet index contents =>
    obtain ⟨place, _, rfl⟩ := Option.map_eq_some_iff.mp told
    have count := Reply.rawCount_nonneg (min place c.sheet.records.length)
    change Reply.rawCount _ ≠ -1
    omega
  | getDataSet index buffer =>
    obtain ⟨record, _, rfl⟩ := Option.map_eq_some_iff.mp told
    have raw : (record.copy buffer : Reply H.Tooltip).raw = Reply.rawCount record.count := by
      unfold Record.copy
      split <;> rfl
    have count := Reply.rawCount_nonneg record.count
    change _ ≠ -1
    omega
  | getExponent axis =>
    obtain ⟨a, found, rfl⟩ := Option.map_eq_some_iff.mp told
    have least : -9 ≤ a.exponent := (axis_inRange sound found).1
    change a.exponent ≠ -666
    omega
  | deleteAllDataSets | deleteDataSet | setDataSet | setDataSetColor | setDataSetLegend | setExponent | setOffset
  | setAxisName =>
    cases told
    exact Int.one_ne_zero

theorem raw_color_iff {index : Int64} (served : c.dispatch (.getDataSetColor index) = (.ok reply, d)) :
    reply.raw = -1 ↔ ∃ data, c.data[index.toInt.toNat]? = some data ∧ data.color = none := by
  obtain ⟨data, found, rfl⟩ := color_served served
  rw [found]
  cases own : data.color with
  | none => exact ⟨fun _ => ⟨data, rfl, own⟩, fun _ => rfl⟩
  | some color =>
    have packed := Reply.packed_nonneg color
    constructor
    · intro raw
      change Reply.packed color = -1 at raw
      omega
    · rintro ⟨_, same, automatic⟩
      cases same
      cases own.symm.trans automatic

-- Whatever has been done to a chart, a message that is served is answered by another number than that of its failure,
-- unless it asks for the color of a data set that has none of its own. The number of no color is that of a failure.
theorem run_raw_apart (service : H.Service) (style : ChartStyle) (config : Config H.Length) (ops : List (Operation H))
    {request : Request H.Tooltip} (signals : request.signals = true)
    (served : ((withConfig service style config).run ops).dispatch request = (.ok reply, d)) :
    let c := (withConfig service style config).run ops
    reply.raw = request.failureValue ↔
      ∃ index data, request = .getDataSetColor index ∧ c.data[index.toInt.toNat]? = some data ∧ data.color = none := by
  intro c
  have sound := (run_wellFormed service style config ops).toSound
  by_cases color : ∃ index, request = .getDataSetColor index
  · obtain ⟨index, rfl⟩ := color
    rw [show (Request.getDataSetColor index : Request H.Tooltip).failureValue = -1 from rfl, raw_color_iff served]
    constructor
    · rintro ⟨data, found, automatic⟩
      exact ⟨index, data, rfl, found, automatic⟩
    · rintro ⟨_, data, same, found, automatic⟩
      cases same
      exact ⟨data, found, automatic⟩
  · have apart := raw_ne_failureValue sound signals (fun index same => color ⟨index, same⟩) served
    constructor
    · exact fun same => absurd same apart
    · rintro ⟨index, _, same, _⟩
      exact absurd ⟨index, same⟩ color

end Chart

namespace Demo

def scaledEdits : List (Operation host) :=
  [.insertDataSet 0 (.stored #[12, 19]), .setExponent .both (-9)]

def scaled : Chart host :=
  (Chart.withConfig (SvgScreen.mk none : host.Service) {} .standard).run scaledEdits

theorem scaled_raw_apart :
    let request : Request host.Tooltip := .getExponent 2
    let reply : Reply host.Tooltip := .number (-9)
    request.signals = true ∧ scaled.dispatch request = (.ok reply, scaled) ∧ reply.raw ≠ request.failureValue := by
  have served : scaled.dispatch (.getExponent 2) = (.ok (.number (-9)), scaled) := rfl
  refine ⟨rfl, served, ?_⟩
  intro same
  obtain ⟨_, _, other, _⟩ := (Chart.run_raw_apart _ {} .standard scaledEdits rfl served).mp same
  cases other

theorem scaled_color_ambiguous :
    let request : Request host.Tooltip := .getDataSetColor 0
    let reply : Reply host.Tooltip := .color none
    request.signals = true ∧ scaled.dispatch request = (.ok reply, scaled) ∧ reply.raw = request.failureValue :=
  ⟨rfl, rfl, rfl⟩

end Demo

end Charting
