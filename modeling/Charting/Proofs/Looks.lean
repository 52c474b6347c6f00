import Charting.Plot

namespace Charting

namespace DataSet

structure Alike (data others : List DataSet) : Prop where
  colors : data.map color = others.map color
  legends : data.map legend = others.map legend

variable {data others : List DataSet}

theorem shownColor_colors (same : data.map color = others.map color) : shownColor data = shownColor others := by
  funext set
  have chosen : data[set]?.bind color = others[set]?.bind color := by
    have found := congrArg (fun colors => colors[set]?.bind id) same
    simpa [Option.bind_map] using found
  unfold shownColor
  rw [chosen]

theorem shownLabel_legends (same : data.map legend = others.map legend) : shownLabel data = shownLabel others := by
  funext set
  have chosen : data[set]?.bind legend = others[set]?.bind legend := by
    have found := congrArg (fun legends => legends[set]?.bind id) same
    simpa [Option.bind_map] using found
  unfold shownLabel
  rw [chosen]

end DataSet

section

variable {α : Type} {others : List DataSet}

theorem View.color_alike (v : View α) (alike : DataSet.Alike others v.data) :
    { v with data := others }.color = v.color :=
  DataSet.shownColor_colors alike.colors

theorem View.hint_alike (v : View α) (alike : DataSet.Alike others v.data) :
    { v with data := others }.hint = v.hint := by
  funext set
  exact congrArg Color.hint (congrFun (v.color_alike alike) set)

theorem View.label_legends (v : View α) (same : others.map DataSet.legend = v.data.map DataSet.legend) :
    { v with data := others }.label = v.label :=
  DataSet.shownLabel_legends same

end

section

variable {α M : Type} [Scalar α] [TextMeasurer α M] {others : List DataSet}

theorem Legend.hitTest_legends (v : View α) (same : others.map DataSet.legend = v.data.map DataSet.legend)
    (p : Point α) : (Legend.hitTest { v with data := others } p : StateM M _) = Legend.hitTest v p := by
  have length : others.length = v.data.length := by simpa using congrArg List.length same
  unfold Legend.hitTest
  simp only [v.label_legends same, length]
  rfl

omit [TextMeasurer α M] in
theorem Legend.paint_alike (v : View α) (alike : DataSet.Alike others v.data) :
    Legend.paint { v with data := others } = Legend.paint v := by
  have length : others.length = v.data.length := by simpa using congrArg List.length alike.legends
  unfold Legend.paint Legend.paintedRows Legend.paintRow
  simp only [length, v.color_alike alike, v.hint_alike alike, v.label_legends alike.legends]
  rfl

variable [Circular α]

theorem View.hitTest_legends (v : View α) (same : others.map DataSet.legend = v.data.map DataSet.legend)
    (kind : Kind) (p : Point α) : ({ v with data := others }.hitTest kind p : StateM M _) = v.hitTest kind p := by
  unfold View.hitTest
  rw [Legend.hitTest_legends v same p]
  cases kind <;> rfl

theorem View.paintBody_alike (v : View α) (alike : DataSet.Alike others v.data) (kind : Kind) :
    ({ v with data := others }.paintBody kind : StateM M _) = v.paintBody kind := by
  have color := v.color_alike alike
  have hint := v.hint_alike alike
  cases kind with
  | pie =>
    unfold View.paintBody Pie.paint Pie.paintSlice
    simp only [color, hint]
    rfl
  | scatter =>
    unfold View.paintBody Scatter.paint Scatter.marks Scatter.dots
    simp only [color, hint]
    rfl
  | line | area =>
    unfold View.paintBody Line.paint Line.areas Line.lineMark Line.lines Line.dotMark Line.dots
    simp only [color, hint]
    rfl
  | column | bar =>
    unfold View.paintBody Column.paint Column.paintBox
    simp only [color]
    rfl

theorem View.paint_alike (v : View α) (alike : DataSet.Alike others v.data) (kind : Kind) (title : String) :
    ({ v with data := others }.paint kind title : StateM M _) = v.paint kind title := by
  unfold View.paint
  rw [Legend.paint_alike v alike, v.paintBody_alike alike]
  rfl

end

end Charting
